/-
The rules of plugins. A rule class may have a code, and an instance of it collects findings from a
tree. Most classes extend the visitor: they have handlers, and the inherited collection walks the
tree with them.
-/
import ScriptLint.Plugin.Action
import ScriptLint.Script.Visitor

namespace ScriptLint

/-- A rule class: what asking it for its code gives, if it can be asked, and what a new instance
answers for a tree. -/
structure RuleClass where
  code : Option (Except Thrown Json)
  collect : Ast → Script (Except Thrown Script.Maybe)

/-- How a class collects its findings. -/
inductive Collection where
  | inherited
  /-- Answers a value whatever the tree. -/
  | value (v : Json)
  /-- Answers nothing. -/
  | nothing
  /-- Collects as inherited, carries out actions with the root, and answers the findings. -/
  | extended (actions : List Action)
  deriving Repr

/-- The parts of a rule class. -/
structure RuleParts where
  code : Option (Except Thrown Json)
  /-- Whether the class extends the visitor. -/
  extendsVisitor : Bool
  handlers : List (String × List Action)
  collection : Collection

namespace RuleParts

open Handler

/-- The parts of a class that extends another rule class: what it does not have itself is that of
the other. -/
def extending (d base : RuleParts) : RuleParts :=
  { code := d.code.or base.code
    extendsVisitor := base.extendsVisitor
    handlers := d.handlers ++ base.handlers
    collection := match d.collection with
      | .inherited => base.collection
      | own => own }

/-- The method with a name. -/
def method? (d : RuleParts) (name : String) : Option (List Action) :=
  Json.member? d.handlers name

/-! ## Methods -/

/-- Hands a node to the handler of its kind; only a handler that answers `false` keeps the walk
from the children. -/
def handle (d : RuleParts) (methods : Methods) (n : Ast) : Run Bool :=
  match d.method? (Visitor.handlerName n.kind) with
  | none => return true
  | some actions => do
    match ← actAll methods (.node n) actions with
    | some (.bool false) => return false
    | _ => return true

/-- Visits a tree: by the walk with handlers, or by the class's own `visit`. -/
def visit (d : RuleParts) (methods : Methods) (n : Ast) : Run Unit :=
  match d.method? "visit" with
  | none => Visitor.walk (d.handle methods) n
  | some actions => discard (actAll methods (.node n) actions)

/-- Calls a method that the class has itself, or else the inherited one. -/
def callOr (d : RuleParts) (methods : Methods) (name : String) (s : Subject)
    (inherited : Run Unit) : Run Unit :=
  match d.method? name with
  | some actions => discard (actAll methods s actions)
  | none => if d.extendsVisitor then inherited else throw Script.notAFunction

/-- The inherited walk over the children of a node. -/
def visitChildren (d : RuleParts) (methods : Methods) : Subject → Run Unit
  | .node n => n.children.forM (d.visit methods)
  | .range _ _ => throw (Script.cannotRead "Symbol.iterator")
  | .undefined => throw (Script.cannotRead "children")

/-- The methods of an instance. Calls inside of each other end in an error at some depth. -/
def methods (d : RuleParts) : (depth : Nat) → Methods
  | 0 =>
    { addDiagnostic := fun _ _ _ => throw Script.stackOverflow
      visitChildren := fun _ => throw Script.stackOverflow }
  | depth + 1 =>
    { addDiagnostic := fun s message hint =>
        d.callOr (d.methods depth) "addDiagnostic" s (addFinding s message hint)
      visitChildren := fun s =>
        d.callOr (d.methods depth) "visitChildren" s (d.visitChildren (d.methods depth) s) }

/-- How deep the calls of methods go on a tree before they count as endless. -/
def maxDepth (root : Ast) : Nat := 2 * root.height + 400

/-! ## Instances -/

/-- A new instance before its constructor. The visitor sets the findings up; a constructor of the
class itself does not call the visitor's. -/
def newInstance (d : RuleParts) : Instance :=
  { findings :=
      if d.extendsVisitor then .list []
      else if (d.method? "diagnostics").isSome then .method
      else .missing
    count := 0
    ready := !(d.extendsVisitor && (d.method? "constructor").isSome) }

/-- Runs the constructor that the class has itself. An object that it answers takes the place of
the instance and cannot collect anything. -/
def construct (d : RuleParts) (methods : Methods) : Run Unit :=
  match d.method? "constructor" with
  | none => return ()
  | some actions => do
    match ← actAll methods .undefined actions with
    | some (.arr _) | some (.obj _) => throw Script.notAFunction
    | some _ =>
      if d.extendsVisitor then
        throw ⟨"TypeError", "derived class constructor must return an object or undefined"⟩
      else return ()
    | none => useInstance

/-! ## Collecting -/

/-- The findings of an instance as a value. -/
def findings : Run Script.Maybe := do
  match (← get).findings with
  | .list items => return some (.arr items)
  | .missing | .method => return none

/-- Collects the findings of a tree by visiting it. -/
def collectByVisit (d : RuleParts) (methods : Methods) (root : Ast) : Run Script.Maybe := do
  modify fun i => { i with findings := .list [] }
  d.visit methods root
  findings

/-- What an instance answers for a tree. -/
def collect (d : RuleParts) (methods : Methods) (root : Ast) : Run Script.Maybe :=
  match d.collection with
  | .value v => return some v
  | .nothing => return none
  | .inherited =>
    match d.method? "collectDiagnostics" with
    | some actions => actAll methods (.node root) actions
    | none =>
      if d.extendsVisitor then d.collectByVisit methods root else throw Script.notAFunction
  | .extended actions =>
    if d.extendsVisitor then do
      let _ ← d.collectByVisit methods root
      let _ ← actAll methods (.node root) actions
      findings
    else throw Script.notAFunction

/-- What a new instance answers for a tree. -/
def collectNew (d : RuleParts) (root : Ast) : Run Script.Maybe := do
  let methods := d.methods (maxDepth root)
  d.construct methods
  d.collect methods root

/-- The class with these parts. -/
def toClass (d : RuleParts) : RuleClass :=
  { code := d.code
    collect := fun root => do return (← (d.collectNew root).run.run d.newInstance).1 }

end RuleParts

end ScriptLint

/-
The tree that scripts walk. It is built from the records of a program in one pass: every record is
attached to the one its parent index names, and the first record is the answer.
-/
import ScriptLint.Tree.Records
import ScriptLint.Tree.Rows

namespace ScriptLint

/-- A syntax tree as scripts see it; only nodes without children have a text. -/
inductive Ast where
  | mk (kind : String) (span : Span) (named : Bool) (field text : Option String)
      (children : List Ast)
  deriving Inhabited, Repr

namespace Ast

def kind : Ast → String
  | .mk kind _ _ _ _ _ => kind

def span : Ast → Span
  | .mk _ span _ _ _ _ => span

def isNamed : Ast → Bool
  | .mk _ _ named _ _ _ => named

def field? : Ast → Option String
  | .mk _ _ _ field _ _ => field

def text? : Ast → Option String
  | .mk _ _ _ _ text _ => text

def children : Ast → List Ast
  | .mk _ _ _ _ _ children => children

/-- The children that are no punctuation. -/
def namedChildren (n : Ast) : List Ast := n.children.filter isNamed

/-- The first child under a grammar field. -/
def childAt? (n : Ast) (field : String) : Option Ast :=
  n.children.find? fun c => c.field? == some field

/-- The names of the members a node has as an object, in their order. -/
def memberNames (n : Ast) : List String :=
  ["type", "span", "named"] ++ (n.field?.map fun _ => "field").toList
    ++ (n.text?.map fun _ => "text").toList ++ ["children"]

mutual

/-- The number of nodes on the longest way down. -/
def height : Ast → Nat
  | .mk _ _ _ _ _ children => heightOfAll children + 1

/-- The height of the highest tree of a list. -/
def heightOfAll : List Ast → Nat
  | [] => 0
  | n :: rest => max (height n) (heightOfAll rest)

end

/-- The node of a record with its children. -/
def ofRecord (r : Record) (children : List Ast) : Ast :=
  .mk r.kind r.span r.named r.field r.text children

/-- A record's parent, if it has one. -/
def parentOf (index : Int) : Option Nat := if index < 0 then none else some index.toNat

/-- The tree of the records of a program. -/
def ofRecords? (records : List Record) : Option Ast :=
  assemble ofRecord (records.map fun r => (r, parentOf r.parent))

mutual

/-- The tree as a script would see a node of a program's tree. -/
def ofNodeAt (source : Bytes) (field : Option String) : Node → Ast
  | .mk label children =>
    .mk label.kind label.span label.named field
      (if children.isEmpty then some ((Node.mk label children).text source) else none)
      (ofNodes source children)

/-- The trees of several nodes, each under its own field. -/
def ofNodes (source : Bytes) : List Node → List Ast
  | [] => []
  | n :: rest => ofNodeAt source n.field? n :: ofNodes source rest

end

/-- The tree of a whole program; its root is shown under no field. -/
def ofNode (source : Bytes) (n : Node) : Ast := ofNodeAt source none n

end Ast

end ScriptLint

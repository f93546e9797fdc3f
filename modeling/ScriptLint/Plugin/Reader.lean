/-
Plugin modules in JSON: a module is a list of statements, and statements, actions and selectors are
lists that start with their name. Values stand in them as in the text of a script.
-/
import ScriptLint.Plugin.Statement
import ScriptLint.Script.Literal

namespace ScriptLint

/-! ## Actions -/

/-- The property with a name. -/
def Getter.ofName? : String → Option Getter
  | "text" => some .text
  | "type" => some .type
  | "lo" => some .lo
  | "hi" => some .hi
  | "field" => some .field
  | "named" => some .named
  | "nchildren" => some .children
  | "nnamed" => some .namedChildren
  | "reachable" => some .reachable
  | "stops" => some .stops
  | "count" => some .count
  | "ndiags" => some .findings
  | "keys" => some .keys
  | _ => none

/-- The property that an object with the member `get` names. -/
def Getter.ofJson? (j : Json) : Option Getter := (j.textOf? "get").bind Getter.ofName?

/-- A part of a composed text: a text, or a property. -/
def Part.ofJson? : Json → Option Part
  | .str s => some (.text s)
  | j => (Getter.ofJson? j).map .get

/-- A message or a hint: a text, `null`, a list of parts, or an object with a `value`. -/
def Wording.ofJson? : Json → Option Wording
  | .null => some .undefined
  | .str s => some (.text s)
  | .arr parts => (parts.mapM Part.ofJson?).map .composed
  | j =>
    match j.get? "value" with
    | some v => some (.value (Literal.value v))
    | none => (Part.ofJson? j).map fun p => .composed [p]

/-- The message or hint at an index, undefined if there is none. -/
def Wording.at? (args : List Json) (i : Nat) : Option Wording :=
  Wording.ofJson? (args.getD i .null)

/-- Where to report. -/
def Selector.ofJson? : Json → Option Selector
  | .arr [.str "field", field] => some (.childAt field)
  | .arr [.str "child", index] => some (.child (Literal.value index))
  | .arr [.str "named", index] => some (.namedChild (Literal.value index))
  | .arr [.str "at", lo, hi] => some (.range (Literal.value lo) (Literal.value hi))
  | _ => none

/-- A thrown error. -/
def Thrown.ofJson? : List Json → Option Thrown
  | [.str name, .str message] => some ⟨name, message⟩
  | _ => none

/-- An action that holds no other actions, by its name and the rest of its list. -/
def Action.simple? (name : String) (args : List Json) : Option Action :=
  match name, args with
  | "report", message :: _ => do
    return .report (← Wording.ofJson? message) (← Wording.at? args 1)
  | "report_at", place :: _ => do
    return .reportAt (← Selector.ofJson? place) (← Wording.at? args 1) (← Wording.at? args 2)
  | "push", [v] => some (.push (Literal.value v))
  | "return", [v] => some (.giveBack (Literal.value v))
  | "throw", args => (Thrown.ofJson? args).map .throwError
  | "op", operation :: payload :: rest =>
    some (.ask (Literal.value operation) (Literal.value payload) (rest.headD .null).truthy)
  | "visit_children", _ => some .visitChildren
  | "count", _ => some .count
  | _, _ => none

/-- The value that a condition compares with. -/
def comparedValue? (c : Json) : Option Json := (c.get? "eq").map Literal.value

mutual

/-- An action. -/
def Action.ofJson? : Json → Option Action
  | .arr [.str "if", c, .arr equal] => do
    return .branch (← Getter.ofJson? c) (← comparedValue? c) (← Action.listOfJson? equal) []
  | .arr [.str "if", c, .arr equal, .null] => do
    return .branch (← Getter.ofJson? c) (← comparedValue? c) (← Action.listOfJson? equal) []
  | .arr [.str "if", c, .arr equal, .arr different] => do
    return .branch (← Getter.ofJson? c) (← comparedValue? c) (← Action.listOfJson? equal)
      (← Action.listOfJson? different)
  | .arr [.str "try", .arr actions] => do return .attempt (← Action.listOfJson? actions)
  | .arr (.str name :: args) => Action.simple? name args
  | _ => none

/-- A list of actions. -/
def Action.listOfJson? : List Json → Option (List Action)
  | [] => some []
  | j :: rest => do return (← Action.ofJson? j) :: (← Action.listOfJson? rest)

end

/-! ## Rules -/

/-- What asking a rule class for its code gives. -/
def codeOfJson (j : Json) : Option (Except Thrown Json) :=
  match j.get? "code", j.textOf? "code_throws" with
  | some v, _ => some (.ok (Literal.value v))
  | none, some message => some (.error ⟨"Error", message⟩)
  | none, none => none

/-- How a rule class collects its findings. -/
def Collection.ofJson? (j : Json) : Option Collection :=
  match j.get? "return", j.get? "then" with
  | some v, _ => some (.value (Literal.value v))
  | none, some (.arr actions) => (Action.listOfJson? actions).map .extended
  | none, _ => some .nothing

/-- A rule class. -/
def RuleParts.ofJson? (j : Json) : Option RuleParts := do
  let handlers ← ((j.get? "handlers").getD .null).members.mapM fun m => do
    return (m.1, ← Action.listOfJson? m.2.items)
  let collection ← match j.get? "collect" with
    | none | some .null => some .inherited
    | some c => Collection.ofJson? c
  return { code := codeOfJson j
           extendsVisitor := ((j.get? "base").bind Json.bool?).getD true
           handlers := handlers
           collection := collection }

/-! ## Statements -/

/-- A name and the name on the other side, the same unless one is given. A name on the other side
that has to be quoted keeps its quotation marks. -/
def pairOfJson? (j : Json) : Option (String × String) := do
  let name ← j.textAt? 0
  match j.textAt? 1 with
  | none => return (name, name)
  | some other => return (name, if Name.isPlain other then other else Json.quote other)

/-- A list of pairs. -/
def pairsOfJson? (j : Json) : Option (List (String × String)) := j.items.mapM pairOfJson?

/-- The names that an import binds. -/
def Bindings.ofJson? (j : Json) : Option Bindings := do
  let names ← match j.get? "names" with
    | none | some .null => some none
    | some names => (pairsOfJson? names).map some
  return { defaultName := j.textOf? "default", objectName := j.textOf? "ns", names := names }

/-- A statement. -/
def Statement.ofJson? (j : Json) : Option Statement := do
  let first := j.textAt? 1
  match ← j.textAt? 0 with
  | "import" => return .bind (← first) (← Bindings.ofJson? (← j.at? 2))
  | "const" => return .constant (← first) (Literal.value (← j.at? 2)) false
  | "export_const" => return .constant (← first) (Literal.value (← j.at? 2)) true
  | "export_list" => return .exportNames (← pairsOfJson? (← j.at? 1))
  | "export_default" =>
    let v ← j.at? 1
    match v.textOf? "ref" with
    | some name => return .exportDefault (.binding name)
    | none => return .exportDefault (.value (Literal.value (← v.get? "value")))
  | "export_function" => return .exportFunction (← first) ((j.at? 2).getD .null).truthy
  | "reexport" => return .reexport (← first) (← pairsOfJson? (← j.at? 2))
  | "reexport_all" => return .reexportAll (← first)
  | "reexport_ns" => return .reexportObject (← first) (← j.textAt? 2)
  | "trace" => return .trace (← first) (j.textAt? 2)
  | "throw" => return .throwError (← Thrown.ofJson? (j.items.drop 1))
  | "throw_once" => return .throwOnce (← first)
  | "op" =>
    return .ask (Literal.value (← j.at? 1)) (Literal.value (← j.at? 2))
      ((j.at? 3).getD .null).truthy
  | "promise" => return .queue (← first)
  | "class" => return .exportRule (← RuleParts.ofJson? (← j.at? 1))
  | "syntax_error" => return .unparsable
  | _ => none

/-- The statements of a module. -/
def Statement.moduleOfJson? (j : Json) : Option (List Statement) :=
  j.items.mapM Statement.ofJson?

end ScriptLint

/-
A tree flattened for scripts: one record per node in document order, each with the index of its
parent's record, so that the tree can be rebuilt in one pass.
-/
import ScriptLint.Tree.Basic
import ScriptLint.Json.Reader
import ScriptLint.Json.Writer

namespace ScriptLint

/-- A node as it is handed to scripts. `parent` is the index of the parent's record, `-1` for the
first; `text` stands on nodes without children only. -/
structure Record where
  kind : String
  span : Span
  named : Bool
  parent : Int
  field : Option String
  text : Option String
  deriving DecidableEq, Inhabited, Repr

namespace Record

/-- The record of one node. -/
def ofNode (source : Bytes) (field : Option String) (parent : Int) (n : Node) : Record :=
  { kind := n.kind
    span := n.span
    named := n.isNamed
    parent := parent
    field := field
    text := if n.children.isEmpty then some (n.text source) else none }

/-- The JSON form of a record; absent parts have no member. -/
def toJson (r : Record) : Json :=
  .obj ([("type", .str r.kind),
      ("span", .obj [("lo", .int r.span.lo), ("hi", .int r.span.hi)]),
      ("named", .bool r.named),
      ("parent", .int r.parent)]
    ++ (r.field.map fun f => ("field", Json.str f)).toList
    ++ (r.text.map fun t => ("text", Json.str t)).toList)

/-- The record with a JSON form. -/
def ofJson? (j : Json) : Option Record := do
  let kind ← j.textOf? "type"
  let span ← j.get? "span"
  let span ← Span.of? (← (← span.get? "lo").nat?) (← (← span.get? "hi").nat?)
  let named ← (← j.get? "named").bool?
  let parent ← (← j.get? "parent").int?
  return { kind := kind, span := span, named := named, parent := parent
           field := j.textOf? "field", text := j.textOf? "text" }

/-- The records in a text. -/
def listOfText? (text : String) : Option (List Record) := do
  (← Json.read? .standard text).items.mapM ofJson?

end Record

namespace Node

mutual

/-- The records of a tree whose first record has the index `index` and shows the root under
`field` of the record `parent`. -/
def recordsFrom (source : Bytes) (field : Option String) (parent : Int) (index : Nat) :
    Node → List Record
  | .mk label children =>
    Record.ofNode source field parent (.mk label children)
      :: recordsOfAll source index (index + 1) children

/-- The records of the children of the record `parent`, the first of them at `index`. -/
def recordsOfAll (source : Bytes) (parent index : Nat) : List Node → List Record
  | [] => []
  | n :: rest =>
    let records := recordsFrom source n.field? parent index n
    records ++ recordsOfAll source parent (index + records.length) rest

end

/-- The records of a tree in document order. The root is shown under no field. -/
def records (source : Bytes) (n : Node) : List Record := recordsFrom source none (-1) 0 n

/-- The JSON text of the records of a tree. -/
def serialize (source : Bytes) (n : Node) : String :=
  (Json.arr ((n.records source).map Record.toJson)).compress

end Node

end ScriptLint

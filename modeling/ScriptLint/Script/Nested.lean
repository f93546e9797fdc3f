/-
Records of any kind nested as a script nests them. A record is attached to the one whose index its
member `parent` names, and the first record is the answer. The member may be inherited, and whatever
reads as an index is one.
-/
import ScriptLint.Script.Literal
import ScriptLint.Script.Value
import ScriptLint.Tree.Rows

namespace ScriptLint.Nested

/-! ## Parents -/

mutual

/-- The member of an object, its own or an inherited one. -/
def member? (key : String) : Json → Option Json
  | .obj members => (Json.member? members key).or (inheritedMember? key members)
  | _ => none

/-- The member that an object with these members inherits. -/
def inheritedMember? (key : String) : List (String × Json) → Option Json
  | [] => none
  | (name, v) :: rest =>
    if name = Literal.parentName then member? key v else inheritedMember? key rest

end

/-- The index that a value reads as. An array of one item reads as the item. -/
def index? : Json → Option Nat
  | .str key => Json.indexKey? key
  | .int n => Json.indexKey? (Script.asText (some (.int n)))
  | .float x => Json.indexKey? (Script.asText (some (.float x)))
  | .arr [v] => index? v
  | _ => none

/-- The index of the record that a record is attached to. -/
def parent? (record : Json) : Option Nat := (member? "parent" record).bind index?

/-! ## Nesting -/

/-- A record with its children: `parent` is gone, and the children stand where the record had some,
else last. Only objects have children. -/
def complete (record : Json) (children : List Json) : Json :=
  match record with
  | .obj members =>
    let own := (Literal.ownMembers members).filter fun m => m.1 != "parent"
    .obj (Json.setMember own "children" (.arr children))
  | v => Literal.value v

/-- The nested form of a list of records. -/
def ofRecords? (records : List Json) : Option Json :=
  assemble complete (records.map fun r => (r, parent? r))

end ScriptLint.Nested

/-
Script texts in JSON. Parsing is done elsewhere: beside the text stands its tree, one row per node in
document order with its kind, its range, whether it is named, the row of its parent and its field.
-/
import ScriptLint.Module.Factory
import ScriptLint.Tree.Ast
import ScriptLint.Tree.Rows

namespace ScriptLint

/-- The bytes of a text in hexadecimal digits. -/
def bytesOfHex : List Char → Option Bytes
  | [] => some []
  | [_] => none
  | a :: b :: rest => do
    let high ← Text.hexValue? a
    let low ← Text.hexValue? b
    return UInt8.ofNat (high * 16 + low) :: (← bytesOfHex rest)

/-- The bytes of a script: its `source`, or its `source_hex` in hexadecimal digits. -/
def Bytes.ofJson? (j : Json) : Option Bytes :=
  match j.get? "source", j.get? "source_hex" with
  | some (.str text), _ => some (Utf8.encode text)
  | _, some (.str digits) => bytesOfHex digits.toList
  | none, none => some []
  | _, _ => none

/-- The label and the parent of a row. -/
def Label.ofRow? (row : Json) : Option (Label × Option Nat) := do
  let kind ← row.textAt? 0
  let lo ← (← row.at? 1).nat?
  let hi ← (← row.at? 2).nat?
  let span ← Span.of? lo hi
  let named ← (← row.at? 3).int?
  let parent ← (← row.at? 4).int?
  return ({ kind := kind, span := span, named := named ≠ 0, field := row.textAt? 5 },
    Ast.parentOf parent)

/-- The tree of rows, and whether the text has errors. Without rows there is an empty program. -/
def Node.ofJson? (tree : Json) : Option (Node × Bool) :=
  match tree.get? "nodes" with
  | none => some (emptyProgram, false)
  | some rows => do
    let labels ← rows.items.mapM Label.ofRow?
    return (← Node.ofRows? labels, ((tree.get? "has_error").bind Json.bool?).getD false)

/-- A script text with its tree. -/
def ModuleText.ofJson? (j : Json) : Option ModuleText := do
  let source ← Bytes.ofJson? j
  let (root, hasErrors) ← Node.ofJson? ((j.get? "tree").getD .null)
  return { source := source, root := root, hasErrors := hasErrors }

end ScriptLint

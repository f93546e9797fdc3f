/-
A value as it is shown in a message, and the word for its type.
-/
import ScriptLint.Json.Basic
import ScriptLint.Number.Notation
import ScriptLint.Text.Quoted

namespace ScriptLint.Json

mutual

/-- A value as messages show it. -/
def display : Json → String
  | .null => "None"
  | .bool b => if b then "True" else "False"
  | .int n => toString n
  | .float x => NumberStyle.host.write x
  | .str s => Text.quoted s
  | .arr items => "[" ++ displayItems items ++ "]"
  | .obj members => "\x7b" ++ displayMembers members ++ "\x7d"

/-- Items with commas and blanks between them. -/
def displayItems : List Json → String
  | [] => ""
  | [v] => display v
  | v :: w :: rest => display v ++ ", " ++ displayItems (w :: rest)

/-- Members with commas and blanks between them. -/
def displayMembers : List (String × Json) → String
  | [] => ""
  | [(k, v)] => Text.quoted k ++ ": " ++ display v
  | (k, v) :: m :: rest =>
    Text.quoted k ++ ": " ++ display v ++ ", " ++ displayMembers (m :: rest)

end

/-- The word for the type of a value. -/
def typeWord : Json → String
  | .null => "NoneType"
  | .bool _ => "bool"
  | .int _ => "int"
  | .float _ => "float"
  | .str _ => "str"
  | .arr _ => "list"
  | .obj _ => "dict"

end ScriptLint.Json

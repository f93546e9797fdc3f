/-
JSON texts as the host writes them: compact, members in order, and printable ASCII only, every
other character as an escape with its UTF-16 units.
-/
import ScriptLint.Json.Basic
import ScriptLint.Number.Notation
import ScriptLint.Text.Hex

namespace ScriptLint.Json

/-! ## Strings -/

/-- The escape of one UTF-16 unit. -/
def unitEscape (n : Nat) : List Char := '\\' :: 'u' :: Text.hexFixed 4 n

/-- One character inside a string. -/
def escapeChar (c : Char) : List Char :=
  if c = '"' ∨ c = '\\' then ['\\', c]
  else if c = '\n' then ['\\', 'n']
  else if c = '\r' then ['\\', 'r']
  else if c = '\t' then ['\\', 't']
  else if c.toNat = 0x08 then ['\\', 'b']
  else if c.toNat = 0x0C then ['\\', 'f']
  else if 0x20 ≤ c.toNat ∧ c.toNat < 0x7F then [c]
  else if c.toNat < 0x10000 then unitEscape c.toNat
  else unitEscape (0xD800 + (c.toNat - 0x10000) / 0x400)
    ++ unitEscape (0xDC00 + (c.toNat - 0x10000) % 0x400)

/-- A string between its quotation marks. -/
def writeString (s : String) : List Char := '"' :: s.toList.flatMap escapeChar ++ ['"']

/-- The text of a string. -/
def quote (s : String) : String := String.ofList (writeString s)

/-! ## Values -/

mutual

/-- The characters of a value. -/
def write : Json → List Char
  | .null => "null".toList
  | .bool b => (if b then "true" else "false").toList
  | .int n => (toString n).toList
  | .float x => (NumberStyle.hostJson.write x).toList
  | .str s => writeString s
  | .arr items => '[' :: writeItems items ++ [']']
  | .obj members => '\x7b' :: writeMembers members ++ ['\x7d']

/-- Items with commas between them. -/
def writeItems : List Json → List Char
  | [] => []
  | [v] => write v
  | v :: w :: rest => write v ++ ',' :: writeItems (w :: rest)

/-- Members with commas between them. -/
def writeMembers : List (String × Json) → List Char
  | [] => []
  | [(k, v)] => writeString k ++ ':' :: write v
  | (k, v) :: m :: rest => writeString k ++ ':' :: (write v ++ ',' :: writeMembers (m :: rest))

end

/-- The text of a value. -/
def compress (v : Json) : String := String.ofList (write v)

end ScriptLint.Json

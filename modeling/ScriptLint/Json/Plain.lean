/-
JSON texts as scripts write them: compact, characters as they are unless they must be escaped,
every number a double, and members whose keys are array indexes before the others.
-/
import ScriptLint.Json.Reader
import ScriptLint.Json.Writer

namespace ScriptLint.Json

/-! ## Order of members -/

/-- The number of a key that is an array index: decimal digits without a leading zero, below
`2^32 - 1`. -/
def indexKey? (key : String) : Option Nat :=
  let digits := key.toList
  if digits = ['0'] then some 0
  else if digits ≠ [] ∧ digits.length ≤ 10 ∧ digits.all isDigit ∧ digits.head? ≠ some '0' then
    let n := digitsValue digits
    if n < 0xFFFFFFFF then some n else none
  else none

/-- Puts a member with an index among those before it, in ascending order. -/
def insertIndexed {α : Type} (n : Nat) (member : String × α) :
    List (Nat × String × α) → List (Nat × String × α)
  | [] => [(n, member)]
  | (k, m) :: rest =>
    if n < k then (n, member) :: (k, m) :: rest else (k, m) :: insertIndexed n member rest

/-- The members of an object in the order in which scripts list them. -/
def scriptOrder {α : Type} (members : List (String × α)) : List (String × α) :=
  let indexed := members.foldl (fun acc m =>
    match indexKey? m.1 with
    | some n => insertIndexed n m acc
    | none => acc) []
  indexed.map (·.2) ++ members.filter fun m => (indexKey? m.1).isNone

/-! ## Text -/

/-- One character inside a string. -/
def plainChar (c : Char) : List Char := if c.toNat < 0x7F then escapeChar c else [c]

/-- A string between its quotation marks. -/
def plainString (s : String) : List Char := '"' :: s.toList.flatMap plainChar ++ ['"']

/-- A number; one that JSON does not have is written as `null`. -/
def plainNumber (x : Double) : List Char :=
  if x.isFinite then (NumberStyle.script.write x).toList else "null".toList

/-- Whether an integer is small enough, `2^53` at most, to be a double whatever its digits. -/
def isExact (n : Int) : Bool := n.natAbs ≤ 0x20000000000000

/-- An integer, rounded to a double unless it is one. -/
def plainInteger (n : Int) : List Char :=
  if isExact n then (toString n).toList else plainNumber (Double.ofInt n)

/-- Pieces with commas between them. -/
def separated : List (List Char) → List Char
  | [] => []
  | [piece] => piece
  | piece :: rest => piece ++ ',' :: separated rest

mutual

/-- The characters of a value. -/
def plain : Json → List Char
  | .null => "null".toList
  | .bool b => (if b then "true" else "false").toList
  | .int n => plainInteger n
  | .float x => plainNumber x
  | .str s => plainString s
  | .arr items => '[' :: separated (plainItems items) ++ [']']
  | .obj members =>
    '\x7b' :: separated ((scriptOrder (plainMembers members)).map fun m =>
      plainString m.1 ++ ':' :: m.2) ++ ['\x7d']

/-- The characters of each item. -/
def plainItems : List Json → List (List Char)
  | [] => []
  | v :: rest => plain v :: plainItems rest

/-- The characters of each member's value under its key. -/
def plainMembers : List (String × Json) → List (String × List Char)
  | [] => []
  | (k, v) :: rest => (k, plain v) :: plainMembers rest

end

/-- The text of a value as a script writes it. -/
def plainText (v : Json) : String := String.ofList (plain v)

end ScriptLint.Json

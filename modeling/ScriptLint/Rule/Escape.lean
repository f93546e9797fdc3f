/-
The value of an escape token of a string literal, as code points, since an escape can name half a
surrogate pair. `\x` and `\u` take a hexadecimal number in a forgiving notation, and stand for
their own letters when there is none.
-/
import ScriptLint.Failure
import ScriptLint.Text.Blank
import ScriptLint.Text.Hex

namespace ScriptLint.Escape

/-! ## Forgiving hexadecimal numbers -/

/-- A hexadecimal digit, or a decimal digit of any script. -/
def digitValue? (c : Char) : Option Nat := (Text.hexValue? c).or (Text.decimalValue? c)

/-- The number that digits write, single underscores between them allowed. `fresh` says that no
underscore may come next. -/
def underscored? : (fresh : Bool) → (acc : Nat) → List Char → Option Nat
  | fresh, acc, [] => if fresh then none else some acc
  | fresh, acc, c :: rest =>
    if c = '_' then if fresh then none else underscored? true acc rest
    else (digitValue? c).bind fun d => underscored? false (acc * 16 + d) rest

/-- The digits after a prefix `0x`, which an underscore may separate from it. -/
def afterPrefix (cs : List Char) : List Char :=
  match cs with
  | z :: x :: rest =>
    if digitValue? z = some 0 ∧ (x = 'x' ∨ x = 'X') then
      match rest with
      | '_' :: rest => rest
      | _ => rest
    else cs
  | _ => cs

/-- The value of a hexadecimal number with an optional sign and prefix, blanks around it
ignored. -/
def hexNumber? (cs : List Char) : Option Int :=
  match Text.trimBy Text.isSpace cs with
  | '+' :: rest => (underscored? true 0 (afterPrefix rest)).map fun n => (n : Int)
  | '-' :: rest => (underscored? true 0 (afterPrefix rest)).map fun n => -(n : Int)
  | rest => (underscored? true 0 (afterPrefix rest)).map fun n => (n : Int)

/-! ## Escapes -/

/-- The greatest code point. -/
def maxCodePoint : Nat := 0x10FFFF

/-- The code points of a text. -/
def codePoints (cs : List Char) : List Nat := cs.map Char.toNat

/-- The code point of the hexadecimal digits, or the text `body` itself. -/
def hexEscape (digits body : List Char) : List Nat :=
  match hexNumber? digits with
  | some n => if 0 ≤ n ∧ n ≤ maxCodePoint then [n.toNat] else codePoints body
  | none => codePoints body

def isOctalDigit (c : Char) : Bool := decide (0x30 ≤ c.toNat) && decide (c.toNat ≤ 0x37)

/-- The code point of an octal number. -/
def octalEscape (digits : List Char) : Except OctalFault (List Nat) :=
  let n := digits.foldl (fun n c => 8 * n + (c.toNat - 0x30)) 0
  if n ≤ maxCodePoint then .ok [n]
  else if n < 0x80000000 then .error .noCharacter
  else .error .tooLarge

/-- The ends of line that a backslash joins. -/
def lineContinuations : List (List Char) :=
  [['\n'], ['\r'], ['\r', '\n'], [Char.ofNat 0x2028], [Char.ofNat 0x2029]]

/-- The control characters with a letter of their own. -/
def letterEscape? (c : Char) : Option Nat :=
  if c = 'b' then some 0x08
  else if c = 'f' then some 0x0C
  else if c = 'n' then some 0x0A
  else if c = 'r' then some 0x0D
  else if c = 't' then some 0x09
  else if c = 'v' then some 0x0B
  else none

/-- The value of the text after the backslash. -/
def bodyValue (body : List Char) : Except OctalFault (List Nat) :=
  if body.take 2 = ['u', '\x7b'] ∧ body.getLast? = some '\x7d' then
    .ok (hexEscape (body.drop 2).dropLast body)
  else if (body.head? = some 'x' ∨ body.head? = some 'u') ∧ 1 < body.length then
    .ok (hexEscape body.tail body)
  else if body ≠ [] ∧ body.all isOctalDigit then octalEscape body
  else if lineContinuations.contains body then .ok []
  else
    match body with
    | [c] => .ok [(letterEscape? c).getD c.toNat]
    | _ => .ok (codePoints body)

/-- The value of an escape token, whose first character is the backslash. -/
def value (token : String) : Except OctalFault (List Nat) := bodyValue (token.toList.drop 1)

end ScriptLint.Escape

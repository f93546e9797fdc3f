/-
Values as scripts read them when they stand in their text. The digits of a long integer count only
as far as a machine word of 64 bits holds them; the others scale it. A member `__proto__` of an
object names what the object inherits from and is no member.
-/
import ScriptLint.Json.Plain

namespace ScriptLint.Literal

/-! ## Numbers -/

/-- The digits of an integer that count, and how many follow them. -/
structure Digits where
  counted : Nat
  skipped : Nat

/-- The greatest number after which another digit counts. -/
def maxCounted : Nat := 1844674407370955160

/-- Reads one more digit. -/
def Digits.read (d : Digits) (c : Char) : Digits :=
  if d.counted ≤ maxCounted then { d with counted := d.counted * 10 + (c.toNat - '0'.toNat) }
  else { d with skipped := d.skipped + 1 }

/-- The powers of ten for which the double above the nearest one is taken. -/
def raisedPowers : List Nat := [23, 210]

/-- The double that a power of ten is taken for. -/
def power (exponent : Nat) : Double :=
  let nearest := Double.ofDecimal false 1 exponent
  if raisedPowers.contains exponent then ⟨nearest.bits + 1⟩ else nearest

/-- The double that the digits stand for. -/
def Digits.toDouble (d : Digits) : Double :=
  let counted := Double.ofInt d.counted
  if d.skipped = 0 then counted else .ofFloat (counted.toFloat * (power d.skipped).toFloat)

/-- An integer; a large one becomes a double. -/
def number (n : Int) : Json :=
  if Json.isExact n then .int n
  else
    let x := ((toString n.natAbs).toList.foldl Digits.read ⟨0, 0⟩).toDouble
    .float (if n < 0 then .ofFloat (-x.toFloat) else x)

/-! ## Values -/

/-- The member that names what an object inherits from. -/
def parentName : String := "__proto__"

mutual

/-- A value as it is read. -/
def value : Json → Json
  | .int n => number n
  | .arr items => .arr (values items)
  | .obj members => .obj (ownMembers members)
  | v => v

/-- Values as they are read. -/
def values : List Json → List Json
  | [] => []
  | v :: rest => value v :: values rest

/-- The members that an object has itself. -/
def ownMembers : List (String × Json) → List (String × Json)
  | [] => []
  | (key, v) :: rest =>
    if key = parentName then ownMembers rest else (key, value v) :: ownMembers rest

end

end ScriptLint.Literal

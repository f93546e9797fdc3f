/-
Which texts are network addresses: four decimal numbers with points between them, or eight
hexadecimal groups with colons between them, of which one run may be left out and the last two may
be written as four decimal numbers.
-/
import ScriptLint.Json.Reader
import ScriptLint.Text.Hex
import ScriptLint.Text.Split

namespace ScriptLint.Address

/-! ## Four decimal numbers -/

/-- A number below 256 of at most three digits without leading zeros. -/
def isOctet (cs : List Char) : Bool :=
  !cs.isEmpty && cs.all Json.isDigit && decide (cs.length ≤ 3)
    && (cs.length == 1 || cs.head? != some '0') && decide (Json.digitsValue cs < 256)

def isV4 (cs : List Char) : Bool :=
  let parts := Text.splitAt '.' cs
  parts.length == 4 && parts.all isOctet

/-! ## Eight hexadecimal groups -/

/-- One to four hexadecimal digits. -/
def isGroup (cs : List Char) : Bool :=
  !cs.isEmpty && decide (cs.length ≤ 4) && cs.all fun c => (Text.hexValue? c).isSome

/-- The groups of an address whose last two may be written as four decimal numbers, which count as
two groups of zeros. -/
def groups? (cs : List Char) : Option (List (List Char)) :=
  let parts := Text.splitAt ':' cs
  match parts.getLast? with
  | some last =>
    if parts.length < 3 then none
    else if last.contains '.' then
      if isV4 last then some (parts.dropLast ++ [['0'], ['0']]) else none
    else some parts
  | none => none

/-- The inner positions, counted from the first group, that hold no digits. -/
def innerGaps (parts : List (List Char)) : List Nat :=
  (List.range parts.length).filter fun i =>
    0 < i && i + 1 < parts.length && (parts.getD i []).isEmpty

/-- One side of a left-out run: all groups are there, or the only one is empty because the run
reaches the end of the address. -/
def isSide (side : List (List Char)) : Bool := side == [[]] || side.all isGroup

/-- The number of groups written on a side of a left-out run. -/
def sideLength (side : List (List Char)) : Nat := if side == [[]] then 0 else side.length

def areGroups (parts : List (List Char)) : Bool :=
  decide (parts.length ≤ 9) &&
  match innerGaps parts with
  | [] => parts.length == 8 && parts.all isGroup
  | [i] =>
    let before := parts.take i
    let after := parts.drop (i + 1)
    isSide before && isSide after && decide (sideLength before + sideLength after < 8)
  | _ => false

/-- An address of eight groups, with a zone after a percent sign perhaps. -/
def isV6 (cs : List Char) : Bool :=
  let address := cs.takeWhile (· ≠ '%')
  let zone := cs.dropWhile (· ≠ '%')
  (zone.isEmpty || (decide (1 < zone.length) && !zone.tail.contains '%'))
    && !cs.contains '/' && (groups? address).any areGroups

/-- The form reserved for later kinds of addresses: `v`, a hexadecimal version, a point and a
text. -/
def isFuture (cs : List Char) : Bool :=
  match cs with
  | 'v' :: rest =>
    let version := rest.takeWhile fun c => (Text.hexValue? c).isSome
    let tail := rest.dropWhile fun c => (Text.hexValue? c).isSome
    !version.isEmpty && tail.head? == some '.' && decide (1 < tail.length)
      && !tail.contains '\n'
  | _ => false

end ScriptLint.Address

/-
The shortest decimal that reads back as a given double. `interval` is the set of reals that round
to the number; for one digit, two digits and so on the neighbours of the number on that decimal
grid are tried, and the first grid with a neighbour inside the interval wins. Either both
neighbours are tried or the nearer one only: below a power of two, where the interval is narrower
on one side, the farther neighbour can lie inside and the nearer outside.
-/
import ScriptLint.Number.Double

namespace ScriptLint.Shortest

/-- A positive decimal `digits · 10^exponent`. -/
structure Decimal where
  digits : Nat
  exponent : Int
  deriving DecidableEq, Inhabited, Repr

/-- The reals that round to a number, in quarters of its last place: from `low` to `high` times
`2^(exponent - 2)`, the ends included when `closed`. -/
structure Interval where
  low : Nat
  middle : Nat
  high : Nat
  exponent : Int
  closed : Bool

/-- The interval of a finite number. It is narrower below a power of two, where the numbers are
twice as dense. -/
def interval (x : Double) : Interval :=
  let m := x.significand
  { low := if x.fraction = 0 ∧ 1 < x.biased then 4 * m - 1 else 4 * m - 2
    middle := 4 * m
    high := 4 * m + 2
    exponent := x.exponent - 2
    closed := m % 2 = 0 }

/-- Compares `a · 10^p` with `b · 2^q` exactly. -/
def compareDecimal (a : Nat) (p : Int) (b : Nat) (q : Int) : Ordering :=
  compare (a * Nat.pow 10 p.toNat * Nat.pow 2 (-q).toNat)
    (b * Nat.pow 2 q.toNat * Nat.pow 10 (-p).toNat)

/-- Whether `c · 10^p` lies in the interval. -/
def Interval.holds (i : Interval) (c : Nat) (p : Int) : Bool :=
  (match compareDecimal c p i.low i.exponent with
    | .gt => true | .eq => i.closed | .lt => false) &&
  (match compareDecimal c p i.high i.exponent with
    | .lt => true | .eq => i.closed | .gt => false)

/-- The greatest `c` with `c · 10^p` at most the middle of the interval. -/
def Interval.floor (i : Interval) (p : Int) : Nat :=
  (i.middle * Nat.pow 2 i.exponent.toNat * Nat.pow 10 (-p).toNat) /
    (Nat.pow 10 p.toNat * Nat.pow 2 (-i.exponent).toNat)

/-- The number of decimal digits of a positive number. -/
def digitCount (n : Nat) : Nat := (Nat.toDigits 10 n).length

/-- The power of ten of the leading digit of the middle of the interval. -/
def Interval.leading (i : Interval) : Int :=
  (digitCount (i.floor (-400)) : Int) - 401

/-- Which neighbours are tried on a grid. -/
inductive Candidates where
  | both
  | nearer
  deriving DecidableEq, Repr

/-- The nearer neighbour on the grid of multiples of `10^p`, the even one of two equally near. -/
def Interval.nearer (i : Interval) (p : Int) : Nat :=
  let c := i.floor p
  match compareDecimal (2 * c + 1) p (2 * i.middle) i.exponent with
  | .lt => c + 1
  | .gt => c
  | .eq => if c % 2 = 0 then c else c + 1

/-- The neighbour to take on the grid of multiples of `10^p`, if one lies in the interval. -/
def Interval.onGrid (i : Interval) (candidates : Candidates) (p : Int) : Option Decimal :=
  let c := i.floor p
  let near := i.nearer p
  let far := if near = c then c + 1 else c
  if i.holds near p then some ⟨near, p⟩
  else if candidates = .both ∧ i.holds far p then some ⟨far, p⟩
  else none

/-- Removes trailing zeros, at most `fuel` of them. -/
def Decimal.trim : (fuel : Nat) → Decimal → Decimal
  | 0, d => d
  | fuel + 1, d => if d.digits % 10 = 0 then trim fuel ⟨d.digits / 10, d.exponent + 1⟩ else d

/-- The shortest decimal for the magnitude of a finite number other than zero. Seventeen digits
always suffice. -/
def ofDouble (candidates : Candidates) (x : Double) : Decimal :=
  let i := interval x
  let grids := (List.range 17).map fun (n : Nat) => i.leading - (n : Int)
  ((grids.findSome? (i.onGrid candidates)).getD ⟨0, 0⟩).trim 20

end ScriptLint.Shortest

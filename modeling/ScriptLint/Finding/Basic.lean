/-
Findings: a range of source bytes and what a rule has to say about it.
-/

namespace ScriptLint

/-- A range of bytes, from `lo` up to, not including, `hi`. -/
structure Span where
  lo : Nat
  hi : Nat
  ordered : lo ≤ hi
  deriving DecidableEq, Repr

namespace Span

instance : Inhabited Span := ⟨⟨0, 0, Nat.le_refl 0⟩⟩

/-- The range between two offsets, if the second is not before the first. -/
def of? (lo hi : Nat) : Option Span := if h : lo ≤ hi then some ⟨lo, hi, h⟩ else none

theorem of?_eq_some_iff {lo hi : Nat} {s : Span} : of? lo hi = some s ↔ s.lo = lo ∧ s.hi = hi := by
  unfold of?
  split
  · next h =>
    constructor
    · rintro ⟨⟩
      exact ⟨rfl, rfl⟩
    · rintro ⟨rfl, rfl⟩
      rfl
  · next h =>
    constructor
    · intro e
      cases e
    · rintro ⟨rfl, rfl⟩
      exact absurd s.ordered h

end Span

/-- One finding of a rule. -/
structure Diagnostic where
  code : String
  span : Span
  message : String
  hint : Option String
  deriving DecidableEq, Inhabited, Repr

end ScriptLint

/-
Integers of JSON texts are read back as they were written. What follows an integer must not go on
with it: after a value only a comma or the end of a container comes (`Ends`).
-/
import ScriptLint.Json.Reader

namespace ScriptLint.Json

/-! ## What follows a value -/

/-- What may follow a value in a text without blanks. -/
def Ends (rest : List Char) : Prop :=
  rest = [] ∨ ∃ c tail, rest = c :: tail ∧ (c = ',' ∨ c = ']' ∨ c = '\x7d')

theorem ends_nil : Ends [] := .inl rfl

theorem ends_comma (rest : List Char) : Ends (',' :: rest) := .inr ⟨_, _, rfl, .inl rfl⟩

theorem ends_bracket (rest : List Char) : Ends (']' :: rest) := .inr ⟨_, _, rfl, .inr (.inl rfl)⟩

theorem ends_brace (rest : List Char) : Ends ('\x7d' :: rest) := .inr ⟨_, _, rfl, .inr (.inr rfl)⟩

theorem Ends.no_digit {rest : List Char} (h : Ends rest) :
    rest.takeWhile isDigit = [] ∧ rest.dropWhile isDigit = rest := by
  rcases h with rfl | ⟨c, tail, rfl, rfl | rfl | rfl⟩ <;> exact ⟨rfl, rfl⟩

theorem Ends.no_fraction {rest : List Char} (h : Ends rest) :
    fraction? rest = some (none, rest) := by
  rcases h with rfl | ⟨c, tail, rfl, rfl | rfl | rfl⟩ <;> rfl

theorem Ends.no_exponent {rest : List Char} (h : Ends rest) :
    exponent? rest = some (none, rest) := by
  rcases h with rfl | ⟨c, tail, rfl, rfl | rfl | rfl⟩ <;> rfl

/-! ## Digits -/

theorem isDigit_of_char {c : Char} (h : c.isDigit = true) : isDigit c = true := by
  simp only [Char.isDigit, Bool.and_eq_true, decide_eq_true_eq, ge_iff_le, UInt32.le_iff_toNat_le]
    at h
  simpa [isDigit] using h

theorem isDigit_of_mem_toDigits {n : Nat} {c : Char} (h : c ∈ Nat.toDigits 10 n) :
    isDigit c = true :=
  isDigit_of_char (Nat.isDigit_of_mem_toDigits (by decide) (by decide) h)

theorem digitsValue_toDigits (n : Nat) : digitsValue (Nat.toDigits 10 n) = n :=
  Nat.ofDigitChars_ten_toDigits

/-- The digits of a number other than zero do not start with a zero. -/
theorem head?_toDigits {n : Nat} (h : 0 < n) : (Nat.toDigits 10 n).head? ≠ some '0' := by
  induction n using Nat.strongRecOn with
  | ind n ih =>
    rw [Nat.toDigits_eq_if (by decide)]
    split
    · intro hz
      have : n = 0 := by simpa using hz
      omega
    · rw [List.head?_append, Option.or_of_isSome (by simp)]
      exact ih _ (by omega) (by omega)

/-- Digits are followed by no leading zero. -/
theorem toDigits_standard (n : Nat) :
    ((Nat.toDigits 10 n).length > 1 && (Nat.toDigits 10 n).head? == some '0') = false := by
  rcases Nat.eq_zero_or_pos n with rfl | h
  · rfl
  · simp [head?_toDigits h]

/-! ## Integers -/

theorem number?_toDigits {d : Dialect} (negative : Bool) {n : Nat} {rest : List Char}
    (h : Ends rest)
    (short : d.takesWhole ((Nat.toDigits 10 n).length + if negative then 1 else 0) = true) :
    number? d negative (Nat.toDigits 10 n ++ rest) =
      some (.int (if negative then -(n : Int) else n), rest) := by
  have all : ∀ c ∈ Nat.toDigits 10 n, isDigit c = true := fun c => isDigit_of_mem_toDigits
  obtain ⟨htake, hdrop⟩ := h.no_digit
  unfold number?
  rw [List.takeWhile_append_of_pos all, List.dropWhile_append_of_pos all, htake, hdrop,
    List.append_nil]
  simp only [List.isEmpty_eq_false_iff.2 Nat.toDigits_ne_nil, toDigits_standard, short,
    h.no_fraction, h.no_exponent, Bool.or_self, Bool.not_true, Bool.false_eq_true, if_false,
    Option.bind_eq_bind, Option.bind_some, digitsValue_toDigits]

/-- A number is no other scalar. -/
theorem scalar?_digit {d : Dialect} {c : Char} (h : isDigit c = true) (cs : List Char) :
    scalar? d (c :: cs) = number? d false (c :: cs) := by
  unfold scalar?
  split
  all_goals first
    | rfl
    | (rename_i he
       rw [List.cons.injEq] at he
       rw [he.1] at h
       exact absurd h (by decide))

theorem scalar?_minus {d : Dialect} {c : Char} (h : isDigit c = true) (cs : List Char) :
    scalar? d ('-' :: c :: cs) = number? d true (c :: cs) := by
  rw [scalar?]
  intro rest he
  rw [List.cons.injEq] at he
  rw [he.1] at h
  exact absurd h (by decide)

end ScriptLint.Json

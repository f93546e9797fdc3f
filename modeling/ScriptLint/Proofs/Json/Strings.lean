/-
Strings of JSON texts are read back as they were written, by the host and by scripts. Each
character is written as a piece that the reader takes as one step (`Spells`), so a string is read
by induction over its characters.
-/
import ScriptLint.Json.Plain
import Mathlib.Data.Char

namespace ScriptLint.Json

/-! ## Units -/

theorem unit?_hexFixed {n : Nat} (h : n < 0x10000) (rest : List Char) :
    unit? (Text.hexFixed 4 n ++ rest) = some (n, rest) := by
  have digit : ∀ m, Text.hexValue? (Text.hexDigit (m % 16)) = some (m % 16) := fun m =>
    Text.hexValue?_hexDigit ⟨m % 16, by omega⟩
  simp only [Text.hexFixed, List.nil_append, List.cons_append, unit?, digit]
  simp only [Option.bind_eq_bind, Option.bind_some, Option.some.injEq, Prod.mk.injEq, and_true]
  omega

/-- No surrogate is the number of a character. -/
theorem toNat_lt_or_gt (c : Char) : c.toNat < 0xD800 ∨ 0xE000 ≤ c.toNat ∧ c.toNat < 0x110000 := by
  rcases c.valid with h | ⟨h, h'⟩
  · exact .inl h
  · refine .inr ⟨?_, h'⟩
    have : 0xDFFF < c.toNat := h
    omega

theorem unicodeEscape?_unit {c : Char} (h : c.toNat < 0x10000) (rest : List Char) :
    unicodeEscape? (Text.hexFixed 4 c.toNat ++ rest) = some (c, rest) := by
  have hc := toNat_lt_or_gt c
  have high : ¬(0xD800 ≤ c.toNat ∧ c.toNat < 0xDC00) := by omega
  have low : ¬(0xDC00 ≤ c.toNat ∧ c.toNat < 0xE000) := by omega
  simp [unicodeEscape?, unit?_hexFixed h, high, low]

theorem unicodeEscape?_pair {high low : Nat} (hhigh : high < 0x400) (hlow : low < 0x400)
    (rest : List Char) :
    unicodeEscape? (Text.hexFixed 4 (0xD800 + high) ++ (unitEscape (0xDC00 + low) ++ rest)) =
      some (Char.ofNat (0x10000 + high * 0x400 + low), rest) := by
  have isHigh : 0xD800 ≤ 0xD800 + high ∧ 0xD800 + high < 0xDC00 := by omega
  have isLow : 0xDC00 ≤ 0xDC00 + low ∧ 0xDC00 + low < 0xE000 := by omega
  unfold unicodeEscape?
  rw [unit?_hexFixed (by omega)]
  simp only [Option.bind_eq_bind, Option.bind_some, isHigh, and_self, if_true, unitEscape,
    List.cons_append]
  rw [unit?_hexFixed (by omega)]
  simp only [Option.bind_some, isLow, and_self, if_true, Nat.add_sub_cancel_left]

/-! ## Characters -/

/-- Whether the reader of strings takes a piece as one character. -/
structure Spells (c : Char) (piece : List Char) : Prop where
  nonempty : piece ≠ []
  reads : ∀ fuel rest, string? (fuel + 1) (piece ++ rest) =
    (string? fuel rest).map fun (cs, rest) => (c :: cs, rest)

/-- A character that stands for itself. -/
theorem spells_self {c : Char} (quote : c ≠ '"') (backslash : c ≠ '\\') (h : 0x20 ≤ c.toNat) :
    Spells c [c] := by
  refine ⟨by simp, fun fuel rest => ?_⟩
  have hc : ¬(c = '\\' ∨ c.toNat < 0x20) := by
    rintro (hc | hc)
    · exact backslash hc
    · omega
  rw [List.singleton_append, string?, if_neg hc]
  · exact quote
  · exact fun _ hc _ => backslash hc
  · exact fun _ _ hc _ => backslash hc

/-- A character that is written as a backslash and a letter. -/
theorem spells_simple {c letter : Char} (h : simpleEscape? letter = some c)
    (unicode : letter ≠ 'u') : Spells c ['\\', letter] := by
  refine ⟨by simp, fun fuel rest => ?_⟩
  rw [List.cons_append, List.singleton_append, string?, h, Option.map_eq_bind]
  · rfl
  · exact unicode

theorem spells_unicode {c : Char} {digits : List Char}
    (h : ∀ rest, unicodeEscape? (digits ++ rest) = some (c, rest)) :
    Spells c ('\\' :: 'u' :: digits) := by
  refine ⟨by simp, fun fuel rest => ?_⟩
  rw [List.cons_append, List.cons_append, string?, h]
  cases hs : string? fuel rest <;> simp [hs]

/-- The host's way to write a character is read as this character. -/
theorem spells_escapeChar (c : Char) : Spells c (escapeChar c) := by
  unfold escapeChar
  split
  · rename_i h
    refine spells_simple ?_ ?_
    · rcases h with rfl | rfl <;> rfl
    · rintro rfl
      simp at h
  rename_i hmarks
  rw [not_or] at hmarks
  split
  · subst_vars
    exact spells_simple rfl (by decide)
  split
  · subst_vars
    exact spells_simple rfl (by decide)
  split
  · subst_vars
    exact spells_simple rfl (by decide)
  split
  · rename_i h
    have hc : c = Char.ofNat 0x08 := by rw [← h, Char.ofNat_toNat]
    exact hc ▸ spells_simple rfl (by decide)
  split
  · rename_i h
    have hc : c = Char.ofNat 0x0C := by rw [← h, Char.ofNat_toNat]
    exact hc ▸ spells_simple rfl (by decide)
  split
  · rename_i h
    exact spells_self hmarks.1 hmarks.2 h.1
  split
  · rename_i h
    exact spells_unicode (unicodeEscape?_unit h)
  · -- a character outside of the basic plane is written as a pair of surrogates
    rename_i h
    have hc := toNat_lt_or_gt c
    refine spells_unicode fun rest => ?_
    have happ := List.append_assoc (Text.hexFixed 4 (0xD800 + (c.toNat - 0x10000) / 0x400))
      (unitEscape (0xDC00 + (c.toNat - 0x10000) % 0x400)) rest
    refine (congrArg unicodeEscape? happ).trans ?_
    rw [unicodeEscape?_pair (by omega) (by omega)]
    have whole : 0x10000 + (c.toNat - 0x10000) / 0x400 * 0x400 + (c.toNat - 0x10000) % 0x400
        = c.toNat := by omega
    rw [whole, Char.ofNat_toNat]

/-- The scripts' way to write a character is read as this character. -/
theorem spells_plainChar (c : Char) : Spells c (plainChar c) := by
  unfold plainChar
  split
  · exact spells_escapeChar c
  · rename_i h
    refine spells_self ?_ ?_ (by omega)
    · rintro rfl
      exact h (by decide)
    · rintro rfl
      exact h (by decide)

/-! ## Strings -/

variable {piece : Char → List Char}

theorem string?_flatMap (spells : ∀ c, Spells c (piece c)) (cs : List Char) {fuel : Nat}
    (h : cs.length < fuel) (rest : List Char) :
    string? fuel (cs.flatMap piece ++ '"' :: rest) = some (cs, rest) := by
  induction cs generalizing fuel with
  | nil =>
    obtain ⟨fuel, rfl⟩ : ∃ f, fuel = f + 1 := ⟨fuel - 1, by simp at h; omega⟩
    rfl
  | cons c cs ih =>
    obtain ⟨fuel, rfl⟩ : ∃ f, fuel = f + 1 := ⟨fuel - 1, by simp at h; omega⟩
    have hlt : cs.length < fuel := by simpa using h
    rw [List.flatMap_cons, List.append_assoc, (spells c).reads, ih hlt]
    rfl

/-- Every character takes room. -/
theorem length_le_flatMap (spells : ∀ c, Spells c (piece c)) (cs : List Char) :
    cs.length ≤ (cs.flatMap piece).length := by
  induction cs with
  | nil => simp
  | cons c cs ih =>
    have := List.length_pos_iff.2 (spells c).nonempty
    simp only [List.flatMap_cons, List.length_append, List.length_cons]
    omega

end ScriptLint.Json

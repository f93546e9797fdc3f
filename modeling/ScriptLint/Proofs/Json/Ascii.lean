/-
The characters of the texts that the host writes. A value without doubles is written in printable
ASCII, whatever its strings hold (`isPrintable_write`); a character outside of the basic plane takes
two escapes, those of its surrogates (`escapeChar_astral`).
-/
import ScriptLint.Proofs.Json.Writers

namespace ScriptLint.Json

/-- Whether characters are printable ASCII, from the blank to the tilde. -/
def IsPrintable (cs : List Char) : Prop := ∀ c ∈ cs, 0x20 ≤ c.toNat ∧ c.toNat < 0x7F

instance (cs : List Char) : Decidable (IsPrintable cs) :=
  decidable_of_iff ((cs.all fun c => decide (0x20 ≤ c.toNat) && decide (c.toNat < 0x7F)) = true)
    (by simp [IsPrintable])

theorem isPrintable_nil : IsPrintable [] := fun _ h => nomatch h

theorem isPrintable_cons_iff {c : Char} {cs : List Char} :
    IsPrintable (c :: cs) ↔ (0x20 ≤ c.toNat ∧ c.toNat < 0x7F) ∧ IsPrintable cs :=
  List.forall_mem_cons

theorem isPrintable_append_iff {cs ds : List Char} :
    IsPrintable (cs ++ ds) ↔ IsPrintable cs ∧ IsPrintable ds :=
  List.forall_mem_append

/-! ## Strings -/

theorem isPrintable_hexDigit : ∀ n : Fin 16, IsPrintable [Text.hexDigit n] := by decide

theorem isPrintable_hexFixed (width n : Nat) : IsPrintable (Text.hexFixed width n) := by
  induction width generalizing n with
  | zero => exact isPrintable_nil
  | succ width ih =>
    rw [Text.hexFixed, isPrintable_append_iff]
    exact ⟨ih _, isPrintable_hexDigit ⟨n % 16, Nat.mod_lt _ (by decide)⟩⟩

theorem isPrintable_unitEscape (n : Nat) : IsPrintable (unitEscape n) := by
  unfold unitEscape
  rw [isPrintable_cons_iff, isPrintable_cons_iff]
  exact ⟨by decide, by decide, isPrintable_hexFixed 4 n⟩

theorem isPrintable_escapeChar (c : Char) : IsPrintable (escapeChar c) := by
  unfold escapeChar
  split
  · rename_i h
    rcases h with rfl | rfl <;> decide
  -- the five escapes of one letter
  iterate 5
    split
    · decide
  split
  · rename_i h
    rw [isPrintable_cons_iff]
    exact ⟨h, isPrintable_nil⟩
  split
  · exact isPrintable_unitEscape _
  · rw [isPrintable_append_iff]
    exact ⟨isPrintable_unitEscape _, isPrintable_unitEscape _⟩

theorem isPrintable_writeString (s : String) : IsPrintable (writeString s) := by
  unfold writeString
  rw [isPrintable_append_iff, isPrintable_cons_iff]
  refine ⟨⟨by decide, ?_⟩, by decide⟩
  intro c hc
  obtain ⟨d, -, hd⟩ := List.mem_flatMap.1 hc
  exact isPrintable_escapeChar d c hd

/-- Whether two UTF-16 units are the surrogates of a character. -/
structure IsSurrogatePair (high low : Nat) (c : Char) : Prop where
  isHigh : 0xD800 ≤ high ∧ high < 0xDC00
  isLow : 0xDC00 ≤ low ∧ low < 0xE000
  toNat_eq : c.toNat = 0x10000 + (high - 0xD800) * 0x400 + (low - 0xDC00)

/-- A character outside of the basic plane is written as its surrogates. -/
theorem escapeChar_astral {c : Char} (h : 0x10000 ≤ c.toNat) :
    ∃ high low, IsSurrogatePair high low c ∧ escapeChar c = unitEscape high ++ unitEscape low := by
  have hc := toNat_lt_or_gt c
  refine ⟨0xD800 + (c.toNat - 0x10000) / 0x400, 0xDC00 + (c.toNat - 0x10000) % 0x400,
    ⟨by omega, by omega, by omega⟩, ?_⟩
  have plain : ∀ d : Char, d.toNat < 0x10000 → c ≠ d := by
    rintro d hd rfl
    omega
  unfold escapeChar
  rw [if_neg (not_or.2 ⟨plain _ (by decide), plain _ (by decide)⟩), if_neg (plain _ (by decide)),
    if_neg (plain _ (by decide)), if_neg (plain _ (by decide)), if_neg (by omega),
    if_neg (by omega), if_neg (by omega), if_neg (by omega)]

/-! ## Values -/

theorem isPrintable_toDigits (n : Nat) : IsPrintable (Nat.toDigits 10 n) := by
  intro c hc
  have hdigit := isDigit_of_mem_toDigits hc
  simp only [isDigit, Bool.and_eq_true, decide_eq_true_eq] at hdigit
  omega

theorem isPrintable_int (n : Int) : IsPrintable (toString n).toList := by
  rw [Int.toString_eq_repr, Int.repr_eq_if]
  split
  · rw [Nat.toList_repr]
    exact isPrintable_toDigits _
  · rw [String.toList_append, Nat.toList_repr, isPrintable_append_iff]
    exact ⟨by decide, isPrintable_toDigits _⟩

theorem isPrintable_writeItems {vs : List Json} (h : ∀ v ∈ vs, IsPrintable (write v)) :
    IsPrintable (writeItems vs) := by
  induction vs with
  | nil => exact isPrintable_nil
  | cons v rest ih =>
    obtain ⟨hv, hrest⟩ := List.forall_mem_cons.1 h
    cases rest with
    | nil => exact hv
    | cons w rest =>
      rw [writeItems, isPrintable_append_iff, isPrintable_cons_iff]
      exact ⟨hv, by decide, ih hrest⟩

theorem isPrintable_writeMembers {ms : List (String × Json)}
    (h : ∀ m ∈ ms, IsPrintable (write m.2)) : IsPrintable (writeMembers ms) := by
  induction ms with
  | nil => exact isPrintable_nil
  | cons m rest ih =>
    obtain ⟨k, v⟩ := m
    obtain ⟨hv, hrest⟩ := List.forall_mem_cons.1 h
    cases rest with
    | nil =>
      rw [writeMembers, isPrintable_append_iff, isPrintable_cons_iff]
      exact ⟨isPrintable_writeString k, by decide, hv⟩
    | cons m rest =>
      rw [writeMembers, isPrintable_append_iff, isPrintable_cons_iff, isPrintable_append_iff,
        isPrintable_cons_iff]
      exact ⟨isPrintable_writeString k, by decide, hv, by decide, ih hrest⟩

/-- What the host writes is printable ASCII. -/
theorem isPrintable_write {int : Int → Prop} {v : Json} (h : Integral int v) :
    IsPrintable (write v) := by
  induction h with
  | null => decide
  | bool b => cases b <;> decide
  | int _ => exact isPrintable_int _
  | str s => exact isPrintable_writeString s
  | arr _ ih =>
    rw [write, isPrintable_append_iff, isPrintable_cons_iff]
    exact ⟨⟨by decide, isPrintable_writeItems ih⟩, by decide⟩
  | obj _ ih =>
    rw [write, isPrintable_append_iff, isPrintable_cons_iff]
    exact ⟨⟨by decide, isPrintable_writeMembers ih⟩, by decide⟩

end ScriptLint.Json

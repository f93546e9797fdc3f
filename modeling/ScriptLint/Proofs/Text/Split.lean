/-
Parts and separators. Joining parts and splitting what comes out gives the parts again, as long as
none of them has the separator (`splitAt_joinWith`).
-/
import ScriptLint.Text.Split
import Mathlib.Data.List.Basic

namespace ScriptLint.Text

theorem splitAt_append {sep : Char} {part : List Char} (h : sep ∉ part) (rest : List Char) :
    splitAt sep (part ++ sep :: rest) = part :: splitAt sep rest := by
  induction part with
  | nil => rw [List.nil_append, splitAt, if_pos rfl]
  | cons c part ih =>
    obtain ⟨hc, hpart⟩ := not_or.1 (mt List.mem_cons.2 h)
    rw [List.cons_append, splitAt, if_neg fun e => hc e.symm, ih hpart]

theorem splitAt_of_notMem {sep : Char} {part : List Char} (h : sep ∉ part) :
    splitAt sep part = [part] := by
  induction part with
  | nil => rfl
  | cons c part ih =>
    obtain ⟨hc, hpart⟩ := not_or.1 (mt List.mem_cons.2 h)
    rw [splitAt, if_neg fun e => hc e.symm, ih hpart]

theorem splitAt_joinWith {sep : Char} {parts : List (List Char)} (hne : parts ≠ [])
    (h : ∀ part ∈ parts, sep ∉ part) : splitAt sep (joinWith sep parts) = parts := by
  induction parts with
  | nil => exact absurd rfl hne
  | cons part parts ih =>
    obtain ⟨hpart, hparts⟩ := List.forall_mem_cons.1 h
    cases parts with
    | nil => rw [joinWith, splitAt_of_notMem hpart]
    | cons next parts =>
      rw [joinWith, splitAt_append hpart, ih (List.cons_ne_nil _ _) hparts]

theorem mem_joinWith {sep c : Char} {parts : List (List Char)} {part : List Char}
    (h : part ∈ parts) (hc : c ∈ part) : c ∈ joinWith sep parts := by
  induction parts with
  | nil => cases h
  | cons first parts ih =>
    cases parts with
    | nil => rwa [joinWith, ← List.mem_singleton.1 h]
    | cons next parts =>
      rw [joinWith, List.mem_append, List.mem_cons]
      rcases List.mem_cons.1 h with rfl | h
      · exact .inl hc
      · exact .inr (.inr (ih h))

theorem mem_of_mem_joinWith {sep c : Char} {parts : List (List Char)} (h : c ∈ joinWith sep parts) :
    c = sep ∨ ∃ part ∈ parts, c ∈ part := by
  induction parts with
  | nil => cases h
  | cons part parts ih =>
    cases parts with
    | nil => exact .inr ⟨part, List.mem_cons_self, h⟩
    | cons next parts =>
      rw [joinWith, List.mem_append, List.mem_cons] at h
      rcases h with h | h | h
      · exact .inr ⟨part, List.mem_cons_self, h⟩
      · exact .inl h
      · rcases ih h with h | ⟨other, hother, h⟩
        · exact .inl h
        · exact .inr ⟨other, List.mem_cons_of_mem _ hother, h⟩

theorem joinWith_append {sep : Char} {parts : List (List Char)} (hne : parts ≠ [])
    (before : List (List Char)) : joinWith sep (before ++ parts) =
      (before.flatMap fun part => part ++ [sep]) ++ joinWith sep parts := by
  induction before with
  | nil => rfl
  | cons part before ih =>
    obtain ⟨next, more, heq⟩ :=
      List.exists_cons_of_ne_nil (List.append_ne_nil_of_right_ne_nil before hne)
    rw [List.cons_append, heq, joinWith, ← heq, ih]
    simp

/-- A separator before every part, or one in front of the joined parts. -/
theorem flatMap_sep_cons {sep : Char} {parts : List (List Char)} (hne : parts ≠ []) :
    parts.flatMap (sep :: ·) = sep :: joinWith sep parts := by
  induction parts with
  | nil => exact absurd rfl hne
  | cons part parts ih =>
    rcases parts with _ | ⟨next, parts⟩
    · simp [joinWith]
    · rw [List.flatMap_cons, ih (List.cons_ne_nil _ _), joinWith]
      rfl

end ScriptLint.Text

/-
Removing the characters of a class from both ends of a text. It leaves exactly those texts alone
that neither begin nor end with one (`trimBy_eq_self_iff`).
-/
import ScriptLint.Text.Blank
import Mathlib.Data.List.TakeWhile

namespace ScriptLint.Text

variable {p : Char → Bool} {cs : List Char} {c : Char}

theorem dropWhile_eq_self_iff_head : cs.dropWhile p = cs ↔ ∀ c, cs.head? = some c → p c = false := by
  cases cs with
  | nil => simp
  | cons c rest =>
    rw [List.dropWhile_eq_self_iff]
    simp

theorem trimBy_eq_self_iff : trimBy p cs = cs ↔
    (∀ c, cs.head? = some c → p c = false) ∧ ∀ c, cs.getLast? = some c → p c = false := by
  rw [← dropWhile_eq_self_iff_head, ← List.head?_reverse, ← dropWhile_eq_self_iff_head]
  constructor
  · intro h
    -- nothing is lost on either side, since all is left in the end
    have hfirst : cs.dropWhile p = cs := by
      refine (List.dropWhile_suffix p).eq_of_length_le ?_
      have hrest := (List.dropWhile_suffix p : (cs.dropWhile p).reverse.dropWhile p <:+ _).length_le
      have hlength := congrArg List.length h
      rw [trimBy, List.length_reverse] at hlength
      rw [List.length_reverse] at hrest
      omega
    refine ⟨hfirst, ?_⟩
    rw [trimBy, hfirst] at h
    rw [← List.reverse_inj, h, List.reverse_reverse]
  · rintro ⟨hfirst, hlast⟩
    rw [trimBy, hfirst, hlast, List.reverse_reverse]

theorem trimBy_eq_self (h : ∀ c ∈ cs, p c = false) : trimBy p cs = cs :=
  trimBy_eq_self_iff.2 ⟨fun c hc => h c (List.mem_of_mem_head? hc),
    fun c hc => h c (List.mem_of_getLast? hc)⟩

/-- A character of the class before and behind a text changes nothing. -/
theorem trimBy_between (hc : p c = true) : trimBy p (c :: (cs ++ [c])) = trimBy p cs := by
  rw [trimBy, List.dropWhile_cons_of_pos hc, List.dropWhile_append, trimBy]
  split
  · next hempty =>
    rw [List.isEmpty_iff.1 hempty, List.dropWhile_cons_of_pos hc]
    rfl
  · rw [List.reverse_append, List.reverse_singleton, List.singleton_append,
      List.dropWhile_cons_of_pos hc]

end ScriptLint.Text

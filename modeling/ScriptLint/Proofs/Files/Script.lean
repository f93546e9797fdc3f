/-
The names of scripts. A name is that of a script if it ends in a script's suffix, in either case,
and something stands before the suffix (`isScript_iff`).
-/
import ScriptLint.Files.Discovery
import ScriptLint.Proofs.Module.Path
import Mathlib.Data.List.TakeWhile

namespace ScriptLint

namespace Discovery

/-- Whether a name ends in a script's suffix, in either case, with something before it. -/
def HasSuffix (name : String) : Prop :=
  ∃ stem ending : List Char, name.toList = stem ++ ending ∧ stem ≠ [] ∧
    String.ofList (ending.map Char.toLower) ∈ suffixes

theorem toLower_eq_dot {c : Char} (h : c.toLower = '.') : c = '.' := by
  unfold Char.toLower at h
  split at h
  · next hupper =>
    have hval := congrArg Char.val h
    have hle := hupper.2
    simp only [UInt32.le_iff_toNat_le, ← UInt32.toNat_inj, UInt32.toNat_add] at hupper hval
    simp at hupper hval
    omega
  · exact h

/-- The suffixes are letters after a point. -/
theorem exists_of_mem_suffixes {suffix : List Char} (h : String.ofList suffix ∈ suffixes) :
    ∃ letters, suffix = '.' :: letters ∧ letters ≠ [] ∧ '.' ∉ letters := by
  have hlist : suffix ∈ suffixes.map String.toList := by
    rw [← String.toList_ofList (l := suffix)]
    exact List.mem_map_of_mem h
  have hall : ∀ cs ∈ suffixes.map String.toList,
      cs.head? = some '.' ∧ cs.tail ≠ [] ∧ '.' ∉ cs.tail := by decide
  obtain ⟨hhead, hne, hdot⟩ := hall suffix hlist
  cases suffix with
  | nil => cases hhead
  | cons c letters =>
    cases hhead
    exact ⟨letters, rfl, hne, hdot⟩

/-- A suffix of a script in either case is a point with letters after it. -/
theorem exists_of_suffix {ending : List Char}
    (h : String.ofList (ending.map Char.toLower) ∈ suffixes) :
    ∃ letters, ending = '.' :: letters ∧ letters ≠ [] ∧ '.' ∉ letters := by
  obtain ⟨lowered, heq, hne, hdot⟩ := exists_of_mem_suffixes h
  cases ending with
  | nil => cases heq
  | cons c letters =>
    rw [List.map_cons, List.cons.injEq] at heq
    obtain ⟨hc, rfl⟩ := heq
    refine ⟨letters, ?_, ?_, ?_⟩
    · rw [toLower_eq_dot hc]
    · rintro rfl
      exact hne rfl
    · intro hmem
      exact hdot (List.mem_map.2 ⟨'.', hmem, rfl⟩)

theorem name_of_isName {cs : List Char} (h : Path.IsName cs) : Path.name cs = cs := by
  unfold Path.name Path.segments
  rw [Text.splitAt_of_notMem h.no_slash, List.filter_cons_of_pos]
  · rfl
  · simp [h.ne_nil, h.ne_dot]

theorem exists_last_dot {cs : List Char} (h : '.' ∈ cs) :
    ∃ stem letters, cs = stem ++ '.' :: letters ∧ '.' ∉ letters := by
  obtain ⟨letters, stem, heq, hdot⟩ := List.eq_append_cons_of_mem (List.mem_reverse.2 h)
  refine ⟨stem.reverse, letters.reverse, ?_, by simpa using hdot⟩
  rw [← List.reverse_reverse cs, heq]
  simp

/-- A name without a point has no suffix. -/
theorem suffix_of_no_dot {cs : List Char} (h : Path.IsName cs) (hdot : '.' ∉ cs) :
    Path.suffix cs = [] := by
  have hall : cs.reverse.takeWhile (· ≠ '.') = cs.reverse := by
    rw [List.takeWhile_eq_self_iff]
    intro c hc
    simpa using fun e : c = '.' => hdot (e ▸ List.mem_reverse.1 hc)
  unfold Path.suffix
  rw [name_of_isName h]
  dsimp only
  rw [hall, List.reverse_reverse, if_neg]
  rintro ⟨hlong, -⟩
  omega

/-- The suffix of a name is its last point with what follows, unless the point is at an end of the
name. -/
theorem suffix_of_last_dot {stem letters : List Char} (h : Path.IsName (stem ++ '.' :: letters))
    (hdot : '.' ∉ letters) :
    Path.suffix (stem ++ '.' :: letters) =
      if stem ≠ [] ∧ letters ≠ [] then '.' :: letters else [] := by
  have hending : ((stem ++ '.' :: letters).reverse.takeWhile (· ≠ '.')).reverse = letters := by
    have hreverse : (stem ++ '.' :: letters).reverse =
        letters.reverse ++ '.' :: stem.reverse := by simp
    rw [hreverse, List.takeWhile_append_of_pos]
    · simp
    · intro c hc
      simpa using fun e : c = '.' => hdot (e ▸ List.mem_reverse.1 hc)
  have hlength : letters.length + 1 < (stem ++ '.' :: letters).length ↔ stem ≠ [] := by
    rw [List.length_append, List.length_cons, ← List.length_pos_iff]
    omega
  unfold Path.suffix
  rw [name_of_isName h]
  dsimp only
  rw [hending]
  simp only [hlength]

/-- A name is that of a script exactly if it ends in a script's suffix after something else. -/
theorem isScript_iff {name : String} (h : Path.IsName name.toList) :
    isScript name = true ↔ HasSuffix name := by
  unfold isScript HasSuffix
  rw [List.contains_iff_mem]
  have hempty : String.ofList (([] : List Char).map Char.toLower) ∉ suffixes := by decide
  constructor
  · intro hmem
    by_cases hdot : '.' ∈ name.toList
    · obtain ⟨stem, letters, heq, hletters⟩ := exists_last_dot hdot
      rw [heq] at h hmem
      rw [suffix_of_last_dot h hletters] at hmem
      split at hmem
      · next hends => exact ⟨stem, '.' :: letters, heq, hends.1, hmem⟩
      · exact absurd hmem hempty
    · rw [suffix_of_no_dot h hdot] at hmem
      exact absurd hmem hempty
  · rintro ⟨stem, ending, heq, hstem, hmem⟩
    obtain ⟨letters, rfl, hne, hdot⟩ := exists_of_suffix hmem
    rw [heq] at h ⊢
    rwa [suffix_of_last_dot h hdot, if_pos ⟨hstem, hne⟩]

end Discovery

end ScriptLint

/-
Paths in normal form. A path is in normal form if names are written along it from the root on; its
segments are these names again (`segments_render`), and following them leads to it
(`normalize_of_names`). Following any path leads to a path that is hardly longer
(`length_render_normalize_le`).
-/
import ScriptLint.Module.Path
import ScriptLint.Proofs.Text.Split
import Mathlib.Algebra.Ring.Nat
import Mathlib.Data.List.Basic

namespace ScriptLint

namespace Path

/-! ## Normal form -/

/-- Whether a segment is the name of something on its way: it says something and does not go
back. -/
structure IsName (s : Segment) : Prop where
  ne_nil : s ≠ []
  ne_dot : s ≠ ['.']
  ne_dots : s ≠ ['.', '.']
  no_slash : '/' ∉ s

/-- Whether a path starts at the root and consists of names only. -/
def IsNormal (path : List Char) : Prop :=
  ∃ place, (∀ s ∈ place, IsName s) ∧ path = render place

/-- The segments of a path that is written with segments that say something are these again. -/
theorem segments_render_of_saying {segs : List Segment}
    (h : ∀ s ∈ segs, s ≠ [] ∧ s ≠ ['.'] ∧ '/' ∉ s) : segments (render segs) = segs := by
  have hkept : segs.filter (fun s => !s.isEmpty && s != ['.']) = segs := by
    refine List.filter_eq_self.2 fun s hs => ?_
    simp [(h s hs).1, (h s hs).2.1]
  have hroot : Text.splitAt '/' (render segs) = [] :: Text.splitAt '/' (Text.joinWith '/' segs) :=
    Text.splitAt_append (List.not_mem_nil) _
  rw [segments, hroot]
  cases segs with
  | nil => rfl
  | cons s segs =>
    rw [Text.splitAt_joinWith (List.cons_ne_nil _ _) fun s hs => (h s hs).2.2,
      List.filter_cons_of_neg (by simp), hkept]

theorem segments_render {place : List Segment} (h : ∀ s ∈ place, IsName s) :
    segments (render place) = place :=
  segments_render_of_saying fun s hs => ⟨(h s hs).ne_nil, (h s hs).ne_dot, (h s hs).no_slash⟩

theorem notMem_of_mem_segments {c : Char} {path : List Char} {s : Segment} (h : c ∉ path)
    (hs : s ∈ segments path) : c ∉ s := by
  rw [← Text.joinWith_splitAt '/' path] at h
  exact fun hc => h (Text.mem_joinWith (List.mem_filter.1 hs).1 hc)

theorem walk_of_names {segs : List Segment} (h : ∀ s ∈ segs, IsName s) (place : List Segment) :
    walk place segs = place ++ segs := by
  induction segs generalizing place with
  | nil => rw [walk, List.append_nil]
  | cons s rest ih =>
    obtain ⟨hs, hrest⟩ := List.forall_mem_cons.1 h
    rw [walk, if_neg hs.ne_dots, ih hrest, List.append_assoc]
    rfl

theorem normalize_of_names {place : List Segment} (h : ∀ s ∈ place, IsName s) :
    normalize place = place := walk_of_names h []

/-- Following a normal path leads to it. -/
theorem IsNormal.resolves {path : List Char} (h : IsNormal path) :
    render (normalize (segments path)) = path := by
  obtain ⟨place, names, rfl⟩ := h
  rw [segments_render names, normalize_of_names names]

/-- A normal path starts with a single slash. -/
theorem IsNormal.exists_cons {path : List Char} (h : IsNormal path) :
    ∃ rest, path = '/' :: rest ∧ rest.head? ≠ some '/' := by
  obtain ⟨place, names, rfl⟩ := h
  refine ⟨_, rfl, ?_⟩
  cases place with
  | nil => simp [Text.joinWith]
  | cons s place =>
    have hs := names s List.mem_cons_self
    obtain ⟨c, s, rfl⟩ := List.exists_cons_of_ne_nil hs.ne_nil
    have hc : c ≠ '/' := fun e => hs.no_slash (e ▸ List.mem_cons_self)
    cases place <;> simpa [Text.joinWith] using hc

/-! ## Lengths -/

/-- The length of segments that are written with a slash before each. -/
def weight (segs : List Segment) : Nat := (segs.map fun s => s.length + 1).sum

theorem weight_nil : weight [] = 0 := rfl

theorem weight_cons (s : Segment) (segs : List Segment) :
    weight (s :: segs) = s.length + 1 + weight segs := by
  simp [weight]

theorem weight_concat (segs : List Segment) (s : Segment) :
    weight (segs ++ [s]) = weight segs + (s.length + 1) := by
  simp [weight]

theorem weight_le_of_sublist {first second : List Segment} (h : first.Sublist second) :
    weight first ≤ weight second := by
  induction h with
  | slnil => exact Nat.le_refl _
  | cons s _ ih =>
    rw [weight_cons]
    omega
  | cons_cons s _ ih =>
    rw [weight_cons, weight_cons]
    omega

theorem weight_splitAt (cs : List Char) : weight (Text.splitAt '/' cs) = cs.length + 1 := by
  induction cs with
  | nil => rfl
  | cons c rest ih =>
    unfold Text.splitAt
    split
    · rw [weight_cons, ih]
      simp only [List.length_nil, List.length_cons]
      omega
    · obtain ⟨part, parts, e⟩ := List.exists_cons_of_ne_nil (Text.splitAt_ne_nil '/' rest)
      rw [e, weight_cons] at ih
      rw [e, weight_cons]
      simp only [List.length_cons]
      omega

theorem weight_walk_le (place segs : List Segment) :
    weight (walk place segs) ≤ weight place + weight segs := by
  induction segs generalizing place with
  | nil => exact Nat.le_add_right ..
  | cons s rest ih =>
    rw [walk, weight_cons]
    refine Nat.le_trans (ih _) ?_
    split
    · have := weight_le_of_sublist place.dropLast_sublist
      omega
    · rw [weight_concat]
      omega

theorem length_joinWith (parts : List Segment) :
    (Text.joinWith '/' parts).length = weight parts - 1 := by
  induction parts with
  | nil => rfl
  | cons part parts ih =>
    cases parts with
    | nil => simp [Text.joinWith, weight]
    | cons next parts =>
      rw [Text.joinWith, List.length_append, List.length_cons, ih]
      simp only [weight_cons]
      omega

/-- A path leads to one that is at most one character longer, the slash before it. -/
theorem length_render_normalize_le (path : List Char) :
    (render (normalize (segments path))).length ≤ path.length + 1 := by
  have hsegments : weight (segments path) ≤ weight (Text.splitAt '/' path) :=
    weight_le_of_sublist List.filter_sublist
  have hwalk : weight (normalize (segments path)) ≤ weight [] + weight (segments path) :=
    weight_walk_le [] _
  rw [weight_splitAt] at hsegments
  rw [weight_nil, Nat.zero_add] at hwalk
  rw [render, List.length_cons, length_joinWith]
  omega

end Path

end ScriptLint

/-
Which modules linking gives. `Reaches` says how a search succeeds: an id that has been met is passed
over, any other module is read and comes after what it needs. A search only adds to its progress:
the modules it finishes are those it has met and asked the library for (`Reaches.adds`), and it
meets none twice (`Reaches.nodup`); so the entry module comes last, and no other module has its id
(`link_ok`).
-/
import ScriptLint.Module.Link
import Mathlib.Data.List.Nodup

namespace ScriptLint

namespace Link

/-! ## Successful searches -/

/-- A search succeeds with this progress. -/
inductive Reaches {μ β : Type} (lib : Library μ)
    (prepare : String → μ → Except ModuleFault (β × List String)) :
    List String → Progress β → Progress β → Prop where
  | nil (p) : Reaches lib prepare [] p p
  | seen {id ids p q} (old : id ∈ p.seen) (rest : Reaches lib prepare ids p q) :
      Reaches lib prepare (id :: ids) p q
  | meet {id ids needed p q r m body} (fresh : id ∉ p.seen) (found : lib.find? id = some m)
      (prepared : prepare id m = .ok (body, needed))
      (needs : Reaches lib prepare needed (p.meet id) q)
      (rest : Reaches lib prepare ids (q.finish ⟨id, body⟩) r) : Reaches lib prepare (id :: ids) p r

section Reaches

variable {μ β : Type} {lib : Library μ} {prepare : String → μ → Except ModuleFault (β × List String)}
  {ids : List String} {p q : Progress β}

theorem reaches_of_visitAll :
    ∀ q, visitAll lib prepare ids p = .ok q → Reaches lib prepare ids p q.1 := by
  fun_induction visitAll lib prepare ids p with
  | case1 p =>
    rintro _ ⟨⟩
    exact .nil p
  | case2 p id rest old ih => exact fun q h => .seen old (ih q h)
  | case3 | case4 | case5 | case6 => rintro _ ⟨⟩
  | case7 p id rest fresh m found body needed prepared q below hvisit r le hrest ihneeded ihrest =>
    rintro _ ⟨⟩
    exact .meet fresh found prepared (ihneeded _ hvisit) (ihrest _ hrest)

theorem visitAll_of_reaches (r : Reaches lib prepare ids p q) :
    ∃ below, visitAll lib prepare ids p = .ok ⟨q, below⟩ := by
  induction r with
  | nil p =>
    refine ⟨Nat.le_refl _, ?_⟩
    rw [visitAll]
  | seen old _ ih =>
    obtain ⟨below, ih⟩ := ih
    refine ⟨below, ?_⟩
    rw [visitAll, dif_pos old, ih]
  | @meet id ids needed p q r m body fresh found prepared _ _ ihneeds ihrest =>
    obtain ⟨hq, ihneeds⟩ := ihneeds
    obtain ⟨hr, ihrest⟩ := ihrest
    refine ⟨Nat.le_trans hr (Nat.le_trans hq (unseen_cons_le lib id p.seen)), ?_⟩
    rw [visitAll, dif_neg fresh]
    split
    · rename_i hnone
      rw [found] at hnone
      cases hnone
    · rename_i m' hm
      obtain rfl : m = m' := Option.some.inj (found.symm.trans hm)
      rw [prepared]
      dsimp only
      rw [ihneeds]
      dsimp only
      rw [ihrest]

/-! ## What a search adds -/

/-- Between two progresses some modules have been met, read and finished. -/
structure Adds (p q : Progress β) (added : List (Linked β)) : Prop where
  finished : q.finished = p.finished ++ added
  seen : q.seen.Perm (added.map (·.id) ++ p.seen)
  asked : q.asked.Perm (p.asked ++ added.map (·.id))

theorem Reaches.adds (r : Reaches lib prepare ids p q) : ∃ added, Adds p q added := by
  induction r with
  | nil p => exact ⟨[], by simp, by simp, by simp⟩
  | seen _ _ ih => exact ih
  | @meet id ids needed p q r m body _ _ _ _ _ ihneeds ihrest =>
    obtain ⟨first, hfirst⟩ := ihneeds
    obtain ⟨second, hsecond⟩ := ihrest
    refine ⟨first ++ ⟨id, body⟩ :: second, ?_, ?_, ?_⟩
    · rw [hsecond.finished, Progress.finish, hfirst.finished]
      simp [Progress.meet]
    · have hq : q.seen.Perm (first.map (·.id) ++ id :: p.seen) := hfirst.seen
      refine (hsecond.seen.trans (hq.append_left _)).trans ?_
      rw [List.perm_iff_count]
      intro x
      simp only [List.map_append, List.map_cons, List.count_append, List.count_cons]
      omega
    · have hq : q.asked.Perm ((p.asked ++ [id]) ++ first.map (·.id)) := hfirst.asked
      refine (hsecond.asked.trans (hq.append_right _)).trans ?_
      rw [List.perm_iff_count]
      intro x
      simp only [List.map_append, List.map_cons, List.count_append, List.count_cons,
        List.count_nil]
      omega

/-- No module is met twice. -/
theorem Reaches.nodup (r : Reaches lib prepare ids p q) (h : p.seen.Nodup) : q.seen.Nodup := by
  induction r with
  | nil p => exact h
  | seen _ _ ih => exact ih h
  | meet fresh _ _ _ _ ihneeds ihrest =>
    exact ihrest (ihneeds (List.nodup_cons.2 ⟨fresh, h⟩))

/-- What has been met stays so, and at the end all ids of the list have been met. -/
theorem Reaches.seen_subset (r : Reaches lib prepare ids p q) :
    (∀ id ∈ p.seen, id ∈ q.seen) ∧ ∀ id ∈ ids, id ∈ q.seen := by
  induction r with
  | nil p => exact ⟨fun _ h => h, fun _ h => by cases h⟩
  | seen old _ ih =>
    refine ⟨ih.1, fun x hx => ?_⟩
    rcases List.mem_cons.1 hx with rfl | hx
    · exact ih.1 _ old
    · exact ih.2 _ hx
  | meet _ _ _ _ _ ihneeds ihrest =>
    refine ⟨fun x hx => ihrest.1 _ (ihneeds.1 _ (List.mem_cons_of_mem _ hx)), fun x hx => ?_⟩
    rcases List.mem_cons.1 hx with rfl | hx
    · exact ihrest.1 _ (ihneeds.1 _ List.mem_cons_self)
    · exact ihrest.2 _ hx

end Reaches

/-! ## Searches from an entry module -/

section Search

variable {μ β : Type} {lib : Library μ} {prepare : String → μ → Except ModuleFault (β × List String)}
  {entryId : String} {entry : μ} {p : Progress β}

theorem search_ok (h : search lib prepare entryId entry = .ok p) :
    ∃ body needed q, prepare entryId entry = .ok (body, needed) ∧
      Reaches lib prepare needed (.start entryId) q ∧ p = q.finish ⟨entryId, body⟩ := by
  unfold search at h
  cases hprepare : prepare entryId entry with
  | error fault =>
    rw [hprepare] at h
    cases h
  | ok r =>
    obtain ⟨body, needed⟩ := r
    rw [hprepare] at h
    cases hvisit : visitAll lib prepare needed (.start entryId) with
    | error fault =>
      simp only [Bind.bind, Except.bind, hvisit] at h
      cases h
    | ok q =>
      simp only [Bind.bind, Except.bind, hvisit] at h
      cases h
      exact ⟨body, needed, q.1, rfl, reaches_of_visitAll q hvisit, rfl⟩

theorem search_of_reaches {body : β} {needed : List String}
    (prepared : prepare entryId entry = .ok (body, needed))
    (h : Reaches lib prepare needed (.start entryId) p) :
    search lib prepare entryId entry = .ok (p.finish ⟨entryId, body⟩) := by
  obtain ⟨below, h⟩ := visitAll_of_reaches h
  unfold search
  simp only [prepared, Bind.bind, Except.bind, h]
  rfl

theorem link_eq_ok_iff {modules : List (Linked β)} :
    link lib prepare entryId entry = .ok modules ↔
      ∃ p, search lib prepare entryId entry = .ok p ∧ p.finished = modules := by
  unfold link
  cases search lib prepare entryId entry with
  | error fault => simp [Except.map]
  | ok p => simp [Except.map]

end Search

end Link

theorem link_of_reaches {μ β : Type} {lib : Library μ}
    {prepare : String → μ → Except ModuleFault (β × List String)} {entryId : String} {entry : μ}
    {body : β} {needed : List String} {p : Link.Progress β}
    (prepared : prepare entryId entry = .ok (body, needed))
    (h : Link.Reaches lib prepare needed (.start entryId) p) :
    link lib prepare entryId entry = .ok (p.finished ++ [⟨entryId, body⟩]) :=
  Link.link_eq_ok_iff.2 ⟨_, Link.search_of_reaches prepared h, rfl⟩

/-- The entry module comes last, and no other module has its id. -/
theorem link_ok {μ β : Type} {lib : Library μ}
    {prepare : String → μ → Except ModuleFault (β × List String)} {entryId : String} {entry : μ}
    {modules : List (Linked β)} (h : link lib prepare entryId entry = .ok modules) :
    ∃ body needed others, prepare entryId entry = .ok (body, needed) ∧
      modules = others ++ [⟨entryId, body⟩] ∧ ∀ m ∈ others, m.id ≠ entryId := by
  obtain ⟨p, hsearch, rfl⟩ := Link.link_eq_ok_iff.1 h
  obtain ⟨body, needed, q, prepared, r, rfl⟩ := Link.search_ok hsearch
  obtain ⟨added, hadds⟩ := r.adds
  have hfinished : q.finished = added := hadds.finished
  have hnodup := hadds.seen.nodup_iff.1 (r.nodup (List.nodup_singleton entryId))
  refine ⟨body, needed, added, prepared, by rw [Link.Progress.finish, hfinished], fun m hm hid => ?_⟩
  exact List.disjoint_of_nodup_append hnodup (List.mem_map_of_mem hm) (by simp [hid, Link.Progress.start])

end ScriptLint

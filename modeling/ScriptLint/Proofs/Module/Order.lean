/-
Linking gives exactly the modules that the entry module needs, each read and prepared once, and every
module after those it requires as far as cycles allow (`link_isLinking`).

While a module is prepared, the modules on the way to it from the entry have been met and are not
finished. The proof carries that each of them needs every module that is still to be visited; so
what a finished module requires is finished before it, or lies on this way and needs it in turn.
-/
import ScriptLint.Module.Factory
import ScriptLint.Proofs.Module.Link
import Mathlib.Logic.Relation

namespace ScriptLint

namespace Link

section

variable {μ β : Type} (lib : Library μ)
  (prepare : String → μ → Except ModuleFault (β × List String)) (entryId : String) (entry : μ)

/-! ## Which modules are needed -/

/-- The module with an id; the entry module is given. -/
def moduleOf? (id : String) : Option μ := if id = entryId then some entry else lib.find? id

/-- There is a module with an id, and preparing it gives this body and these ids. -/
def Prepares (id : String) (body : β) (needed : List String) : Prop :=
  ∃ m, moduleOf? lib entryId entry id = some m ∧ prepare id m = .ok (body, needed)

/-- The module with an id cannot be read, or preparing it fails. -/
def FailsOn (id : String) (fault : ModuleFault) : Prop :=
  moduleOf? lib entryId entry id = none ∧ fault = .unreadable id (lib.missing id) ∨
    ∃ m, moduleOf? lib entryId entry id = some m ∧ prepare id m = .error fault

/-- A module requires another one. -/
def Requires (id dep : String) : Prop :=
  ∃ body needed, Prepares lib prepare entryId entry id body needed ∧ dep ∈ needed

/-- A module requires another one, perhaps through others. -/
abbrev Needs : String → String → Prop :=
  Relation.ReflTransGen (Requires lib prepare entryId entry)

/-- Every module of a list requires only modules before it and modules that need it in turn. -/
def Ordered (modules : List (Linked β)) : Prop :=
  ∀ before m, before ++ [m] <+: modules → ∀ dep, Requires lib prepare entryId entry m.id dep →
    dep ∈ before.map (·.id) ∨ Needs lib prepare entryId entry dep m.id

/-- What linking promises of its modules and of the ids that it asked the library for. -/
structure IsLinking (modules : List (Linked β)) (asked : List String) : Prop where
  nodup : (modules.map (·.id)).Nodup
  mem_iff : ∀ id, id ∈ modules.map (·.id) ↔ Needs lib prepare entryId entry entryId id
  entryLast : (modules.map (·.id)).getLast? = some entryId
  prepared : ∀ m ∈ modules, ∃ needed, Prepares lib prepare entryId entry m.id m.body needed
  askedOnce : ∀ id, asked.count id = if id ∈ modules.map (·.id) ∧ id ≠ entryId then 1 else 0
  ordered : Ordered lib prepare entryId entry modules

end

section

variable {μ β : Type} {lib : Library μ} {prepare : String → μ → Except ModuleFault (β × List String)}
  {entryId : String} {entry : μ} {ids needed : List String} {p q : Progress β} {id : String}
  {body : β}

/-- Preparing a module has one outcome, so it requires what that outcome lists. -/
theorem requires_iff (h : Prepares lib prepare entryId entry id body needed) {dep : String} :
    Requires lib prepare entryId entry id dep ↔ dep ∈ needed := by
  constructor
  · rintro ⟨body', needed', ⟨m', hm', hprepare'⟩, hdep⟩
    obtain ⟨m, hm, hprepare⟩ := h
    obtain rfl : m = m' := Option.some.inj (hm.symm.trans hm')
    rw [hprepare] at hprepare'
    cases hprepare'
    exact hdep
  · exact fun hdep => ⟨body, needed, h, hdep⟩

theorem prepares_entry (h : prepare entryId entry = .ok (body, needed)) :
    Prepares lib prepare entryId entry entryId body needed :=
  ⟨entry, if_pos rfl, h⟩

theorem prepares_of_fresh (entry : μ) {m : μ} (hentry : entryId ∈ p.seen) (fresh : id ∉ p.seen)
    (found : lib.find? id = some m) (prepared : prepare id m = .ok (body, needed)) :
    Prepares lib prepare entryId entry id body needed := by
  have hne : id ≠ entryId := fun h => fresh (h ▸ hentry)
  exact ⟨m, (if_neg hne).trans found, prepared⟩

theorem FailsOn.not_prepares {fault : ModuleFault}
    (h : FailsOn lib prepare entryId entry id fault) :
    ¬Prepares lib prepare entryId entry id body needed := by
  rintro ⟨m, hm, hprepare⟩
  rcases h with ⟨hnone, -⟩ | ⟨m', hm', hfault⟩
  · rw [hm] at hnone
    cases hnone
  · obtain rfl : m = m' := Option.some.inj (hm.symm.trans hm')
    rw [hprepare] at hfault
    cases hfault

theorem ordered_concat {modules : List (Linked β)} {m : Linked β} :
    Ordered lib prepare entryId entry (modules ++ [m]) ↔
      Ordered lib prepare entryId entry modules ∧
        ∀ dep, Requires lib prepare entryId entry m.id dep →
          dep ∈ modules.map (·.id) ∨ Needs lib prepare entryId entry dep m.id := by
  constructor
  · intro h
    exact ⟨fun before x hx => h before x (hx.trans (List.prefix_append _ _)),
      fun dep => h modules m List.prefix_rfl dep⟩
  · rintro ⟨hmodules, hm⟩ before x hx
    rcases List.prefix_concat_iff.1 hx with heq | hx
    · obtain ⟨rfl, hlast⟩ := List.append_inj' heq rfl
      cases hlast
      exact hm
    · exact hmodules before x hx

/-! ## What a search finishes -/

/-- A search finishes modules that can be prepared and that the ids of its list need. -/
theorem Reaches.prepared (r : Reaches lib prepare ids p q) (entry : μ) (hentry : entryId ∈ p.seen) :
    ∀ m ∈ q.finished, m ∈ p.finished ∨
      (∃ needed, Prepares lib prepare entryId entry m.id m.body needed) ∧
        ∃ id ∈ ids, Needs lib prepare entryId entry id m.id := by
  induction r with
  | nil p => exact fun m hm => .inl hm
  | seen _ _ ih =>
    intro m hm
    rcases ih hentry m hm with hm | ⟨hprepares, id, hid, hneeds⟩
    · exact .inl hm
    · exact .inr ⟨hprepares, id, List.mem_cons_of_mem _ hid, hneeds⟩
  | @meet id ids needed p q r m body fresh found prepared needs _ ihneeds ihrest =>
    have hprepares := prepares_of_fresh entry hentry fresh found prepared
    have hq : entryId ∈ q.seen := needs.seen_subset.1 _ (List.mem_cons_of_mem _ hentry)
    intro x hx
    rcases ihrest hq x hx with hx | ⟨hx, id', hid', hneeds⟩
    · rcases List.mem_append.1 hx with hx | hx
      · rcases ihneeds (List.mem_cons_of_mem _ hentry) x hx with hx | ⟨hx, dep, hdep, hneeds⟩
        · exact .inl hx
        · exact .inr ⟨hx, id, List.mem_cons_self,
            .head ((requires_iff hprepares).2 hdep) hneeds⟩
      · rw [List.mem_singleton.1 hx]
        exact .inr ⟨⟨needed, hprepares⟩, id, List.mem_cons_self, .refl⟩
    · exact .inr ⟨hx, id', List.mem_cons_of_mem _ hid', hneeds⟩

/-- Whatever a finished module requires has been met. -/
theorem Reaches.closed (r : Reaches lib prepare ids p q) (hentry : entryId ∈ p.seen)
    (h : ∀ m ∈ p.finished, ∀ dep, Requires lib prepare entryId entry m.id dep → dep ∈ p.seen) :
    ∀ m ∈ q.finished, ∀ dep, Requires lib prepare entryId entry m.id dep → dep ∈ q.seen := by
  induction r with
  | nil p => exact h
  | seen _ _ ih => exact ih hentry h
  | @meet id ids needed p q r m body fresh found prepared needs _ ihneeds ihrest =>
    have hprepares := prepares_of_fresh entry hentry fresh found prepared
    have hq := ihneeds (List.mem_cons_of_mem _ hentry)
      fun m hm dep hdep => List.mem_cons_of_mem _ (h m hm dep hdep)
    refine ihrest (needs.seen_subset.1 _ (List.mem_cons_of_mem _ hentry)) fun x hx dep hdep => ?_
    rcases List.mem_append.1 hx with hx | hx
    · exact hq x hx dep hdep
    · rw [List.mem_singleton.1 hx] at hdep
      exact needs.seen_subset.2 _ ((requires_iff hprepares).1 hdep)

/-! ## The order -/

/-- A module has been met and is not finished: it lies on the way to the module being prepared. -/
def Progress.IsOpen (p : Progress β) (id : String) : Prop :=
  id ∈ p.seen ∧ id ∉ p.finished.map (·.id)

/-- A search finishes whatever it meets. -/
theorem Adds.isOpen {added : List (Linked β)} (h : Adds p q added) (hid : q.IsOpen id) :
    p.IsOpen id := by
  obtain ⟨hseen, hfinished⟩ := hid
  rw [h.finished, List.map_append, List.mem_append, not_or] at hfinished
  rcases List.mem_append.1 (h.seen.mem_iff.1 hseen) with hadded | hseen
  · exact absurd hadded hfinished.2
  · exact ⟨hseen, hfinished.1⟩

/-- A module that is open while another one is prepared is that module or was open before. -/
theorem Progress.IsOpen.of_meet {id' : String} (h : (p.meet id').IsOpen id) :
    id = id' ∨ p.IsOpen id := by
  obtain ⟨hseen, hfinished⟩ := h
  rcases List.mem_cons.1 hseen with rfl | hseen
  · exact .inl rfl
  · exact .inr ⟨hseen, hfinished⟩

theorem Progress.IsOpen.of_finish {m : Linked β} (h : (p.finish m).IsOpen id) :
    id ≠ m.id ∧ p.IsOpen id := by
  obtain ⟨hseen, hfinished⟩ := h
  rw [finish, List.map_append, List.mem_append, not_or] at hfinished
  exact ⟨by simpa using hfinished.2, hseen, hfinished.1⟩

/-- If all open modules need the ids of the list, a search keeps the order. -/
theorem Reaches.ordered (r : Reaches lib prepare ids p q) (hentry : entryId ∈ p.seen)
    (way : ∀ a, p.IsOpen a → ∀ id ∈ ids, Needs lib prepare entryId entry a id)
    (h : Ordered lib prepare entryId entry p.finished) :
    Ordered lib prepare entryId entry q.finished := by
  induction r with
  | nil p => exact h
  | seen _ _ ih => exact ih hentry (fun a ha id hid => way a ha id (List.mem_cons_of_mem _ hid)) h
  | @meet id ids needed p q r m body fresh found prepared needs _ ihneeds ihrest =>
    have hprepares := prepares_of_fresh entry hentry fresh found prepared
    obtain ⟨added, hadds⟩ := needs.adds
    have hway : ∀ a, p.IsOpen a → Needs lib prepare entryId entry a id :=
      fun a ha => way a ha id List.mem_cons_self
    have hq : Ordered lib prepare entryId entry q.finished := by
      refine ihneeds (List.mem_cons_of_mem _ hentry) (fun a ha dep hdep => ?_) h
      have hedge := (requires_iff hprepares).2 hdep
      rcases ha.of_meet with rfl | ha
      · exact .single hedge
      · exact (hway a ha).tail hedge
    refine ihrest (needs.seen_subset.1 _ (List.mem_cons_of_mem _ hentry)) (fun a ha id' hid' => ?_)
      (ordered_concat.2 ⟨hq, fun dep hdep => ?_⟩)
    · obtain ⟨hne, ha⟩ := ha.of_finish
      rcases (hadds.isOpen ha).of_meet with heq | ha
      · exact absurd heq hne
      · exact way a ha id' (List.mem_cons_of_mem _ hid')
    · -- a required module that is not finished now lies on the way to this one
      by_cases hfinished : dep ∈ q.finished.map (·.id)
      · exact .inl hfinished
      · have hseen := needs.seen_subset.2 _ ((requires_iff hprepares).1 hdep)
        rcases (hadds.isOpen ⟨hseen, hfinished⟩).of_meet with rfl | hopen
        · exact .inr .refl
        · exact .inr (hway dep hopen)

/-! ## Failing searches -/

/-- A search fails only on a needed module that cannot be read or prepared, and for that reason. -/
theorem visitAll_error (entry : μ) (hentry : entryId ∈ p.seen)
    (hids : ∀ id ∈ ids, Needs lib prepare entryId entry entryId id) :
    ∀ fault, visitAll lib prepare ids p = .error fault →
      ∃ id, Needs lib prepare entryId entry entryId id ∧
        FailsOn lib prepare entryId entry id fault := by
  fun_induction visitAll lib prepare ids p with
  | case1 => rintro _ ⟨⟩
  | case2 p id rest old ih => exact ih hentry fun x hx => hids x (List.mem_cons_of_mem _ hx)
  | case3 p id rest fresh missing =>
    rintro _ ⟨⟩
    have hne : id ≠ entryId := fun h => fresh (h ▸ hentry)
    exact ⟨id, hids id List.mem_cons_self, .inl ⟨(if_neg hne).trans missing, rfl⟩⟩
  | case4 p id rest fresh m found fault failed =>
    rintro _ ⟨⟩
    have hne : id ≠ entryId := fun h => fresh (h ▸ hentry)
    exact ⟨id, hids id List.mem_cons_self, .inr ⟨m, (if_neg hne).trans found, failed⟩⟩
  | case5 p id rest fresh m found body needed prepared fault failed ih =>
    have hprepares := prepares_of_fresh entry hentry fresh found prepared
    rintro _ ⟨⟩
    exact ih (List.mem_cons_of_mem _ hentry)
      (fun dep hdep => (hids id List.mem_cons_self).tail ((requires_iff hprepares).2 hdep)) _ failed
  | case6 p id rest fresh m found body needed prepared q below hvisit fault failed _ ih =>
    rintro _ ⟨⟩
    refine ih ?_ (fun x hx => hids x (List.mem_cons_of_mem _ hx)) _ failed
    exact (reaches_of_visitAll _ hvisit).seen_subset.1 _ (List.mem_cons_of_mem _ hentry)
  | case7 => rintro _ ⟨⟩

theorem search_error {fault : ModuleFault} (h : search lib prepare entryId entry = .error fault) :
    ∃ id, Needs lib prepare entryId entry entryId id ∧
      FailsOn lib prepare entryId entry id fault := by
  cases hentry : prepare entryId entry with
  | error fault' =>
    rw [search, hentry] at h
    cases h
    exact ⟨entryId, .refl, .inr ⟨entry, if_pos rfl, hentry⟩⟩
  | ok prepared =>
    obtain ⟨body, needed⟩ := prepared
    have hprepares : Prepares lib prepare entryId entry entryId body needed := prepares_entry hentry
    cases hvisit : visitAll lib prepare needed (.start entryId) with
    | error fault' =>
      have hsearch : search lib prepare entryId entry = .error fault' := by
        rw [search, hentry]
        show (visitAll lib prepare needed (.start entryId) >>= _) = _
        rw [hvisit]
        rfl
      obtain rfl : fault' = fault := Except.error.inj (hsearch.symm.trans h)
      exact visitAll_error entry List.mem_cons_self
        (fun dep hdep => .single ((requires_iff hprepares).2 hdep)) fault' hvisit
    | ok q =>
      rw [search_of_reaches hentry (reaches_of_visitAll q hvisit)] at h
      cases h

/-- Linking succeeds if all that the entry module needs can be read and prepared. -/
theorem search_succeeds
    (all : ∀ id, Needs lib prepare entryId entry entryId id →
      ∃ body needed, Prepares lib prepare entryId entry id body needed) :
    ∃ p, search lib prepare entryId entry = .ok p := by
  cases hsearch : search lib prepare entryId entry with
  | ok p => exact ⟨p, rfl⟩
  | error fault =>
    obtain ⟨id, hneeds, hfails⟩ := search_error hsearch
    obtain ⟨body, needed, hprepares⟩ := all id hneeds
    exact absurd hprepares hfails.not_prepares

/-! ## Linking -/

theorem Progress.start_isOpen (h : (Progress.start entryId : Progress β).IsOpen id) : id = entryId :=
  List.mem_singleton.1 h.1

/-- A search for what the entry module requires meets what the entry module needs, perhaps through
others. -/
theorem Reaches.mem_seen_iff (r : Reaches lib prepare needed (.start entryId) q)
    (hprepares : Prepares lib prepare entryId entry entryId body needed) :
    id ∈ q.seen ↔ Needs lib prepare entryId entry entryId id := by
  have hstart : entryId ∈ (Progress.start entryId : Progress β).seen := List.mem_cons_self
  obtain ⟨added, hadds⟩ := r.adds
  have hfinished : q.finished = added := hadds.finished
  have hseen : q.seen.Perm (added.map (·.id) ++ [entryId]) := hadds.seen
  constructor
  · intro hid
    rcases List.mem_append.1 (hseen.mem_iff.1 hid) with hid | hid
    · obtain ⟨m, hm, rfl⟩ := List.mem_map.1 hid
      rcases r.prepared entry hstart m (hfinished ▸ hm) with h | ⟨-, dep, hdep, hneeds⟩
      · cases h
      · exact .head ((requires_iff hprepares).2 hdep) hneeds
    · rw [List.mem_singleton.1 hid]
  · intro hneeds
    induction hneeds with
    | refl => exact r.seen_subset.1 _ hstart
    | @tail id dep _ hedge ih =>
      rcases List.mem_append.1 (hseen.mem_iff.1 ih) with hid | hid
      · obtain ⟨m, hm, rfl⟩ := List.mem_map.1 hid
        exact r.closed hstart (fun m hm => by cases hm) m (hfinished ▸ hm) dep hedge
      · rw [List.mem_singleton.1 hid] at hedge
        exact r.seen_subset.2 _ ((requires_iff hprepares).1 hedge)

/-- The modules of a whole search are in order. -/
theorem Reaches.ordered_finish (r : Reaches lib prepare needed (.start entryId) q)
    (hprepares : Prepares lib prepare entryId entry entryId body needed) :
    Ordered lib prepare entryId entry (q.finish ⟨entryId, body⟩).finished := by
  obtain ⟨added, hadds⟩ := r.adds
  refine ordered_concat.2 ⟨r.ordered List.mem_cons_self (fun a ha dep hdep => ?_) ?_, fun dep hdep => ?_⟩
  · rw [Progress.start_isOpen ha]
    exact .single ((requires_iff hprepares).2 hdep)
  · intro before m hm
    exact absurd hm (by simp [Progress.start])
  · by_cases hfinished : dep ∈ q.finished.map (·.id)
    · exact .inl hfinished
    · have hseen := r.seen_subset.2 _ ((requires_iff hprepares).1 hdep)
      rw [Progress.start_isOpen (hadds.isOpen ⟨hseen, hfinished⟩)]
      exact .inr .refl

/-- A successful search has what linking promises. -/
theorem isLinking_of_search (h : search lib prepare entryId entry = .ok p) :
    IsLinking lib prepare entryId entry p.finished p.asked := by
  obtain ⟨body, needed, q, prepared, r, rfl⟩ := search_ok h
  have hprepares : Prepares lib prepare entryId entry entryId body needed := prepares_entry prepared
  obtain ⟨added, hadds⟩ := r.adds
  have hfinished : q.finished = added := hadds.finished
  have hseen : q.seen.Perm (added.map (·.id) ++ [entryId]) := hadds.seen
  have hasked : q.asked.Perm (added.map (·.id)) := hadds.asked
  have hmodules : (q.finish ⟨entryId, body⟩).finished.map (·.id) = added.map (·.id) ++ [entryId] := by
    rw [Progress.finish, hfinished, List.map_append]
    rfl
  have hnodup : (added.map (·.id) ++ [entryId]).Nodup :=
    hseen.nodup_iff.1 (r.nodup (List.nodup_cons.2 ⟨List.not_mem_nil, List.nodup_nil⟩))
  obtain ⟨hothers, -, hnew⟩ := List.nodup_append.1 hnodup
  constructor
  case nodup => rwa [hmodules]
  case mem_iff =>
    intro id
    rw [hmodules, ← hseen.mem_iff]
    exact r.mem_seen_iff hprepares
  case entryLast => rw [hmodules, List.getLast?_concat]
  case prepared =>
    intro m hm
    rcases List.mem_append.1 hm with hm | hm
    · rcases r.prepared entry List.mem_cons_self m hm with h | ⟨h, -⟩
      · cases h
      · exact h
    · rw [List.mem_singleton.1 hm]
      exact ⟨needed, hprepares⟩
  case askedOnce =>
    intro id
    have hcount : q.asked.count id = if id ∈ added.map (·.id) then 1 else 0 := by
      rw [hasked.count_eq, List.Nodup.count hothers]
    have hothers : id ∈ added.map (·.id) ↔ id ∈ added.map (·.id) ++ [entryId] ∧ id ≠ entryId := by
      constructor
      · exact fun hid => ⟨List.mem_append_left _ hid, hnew id hid entryId List.mem_cons_self⟩
      · rintro ⟨hid, hne⟩
        rcases List.mem_append.1 hid with hid | hid
        · exact hid
        · exact absurd (List.mem_singleton.1 hid) hne
    rw [hmodules, ← if_congr hothers rfl rfl]
    exact hcount
  case ordered => exact r.ordered_finish hprepares

end

end Link

/-- Linking succeeds exactly if all that the entry module needs can be read and prepared. Then no id
comes twice, the ids are those of the modules that the entry module needs, perhaps through others,
and the entry module comes last; every body is what preparing the module gives, and the library has
been asked once for every module but the entry; and what a module requires stands before it or needs
the module in turn. -/
theorem link_isLinking {μ β : Type} (lib : Library μ)
    (prepare : String → μ → Except ModuleFault (β × List String)) (entryId : String) (entry : μ) :
    ((∃ modules, link lib prepare entryId entry = .ok modules) ↔
      ∀ id, Link.Needs lib prepare entryId entry entryId id →
        ∃ body needed, Link.Prepares lib prepare entryId entry id body needed) ∧
      ∀ modules, link lib prepare entryId entry = .ok modules →
        ∃ p, Link.search lib prepare entryId entry = .ok p ∧ p.finished = modules ∧
          Link.IsLinking lib prepare entryId entry modules p.asked := by
  refine ⟨⟨?_, fun all => ?_⟩, fun modules h => ?_⟩
  · rintro ⟨modules, h⟩ id hneeds
    obtain ⟨p, hsearch, rfl⟩ := Link.link_eq_ok_iff.1 h
    have hlinking := Link.isLinking_of_search hsearch
    obtain ⟨m, hm, rfl⟩ := List.mem_map.1 ((hlinking.mem_iff id).2 hneeds)
    obtain ⟨needed, hprepares⟩ := hlinking.prepared m hm
    exact ⟨m.body, needed, hprepares⟩
  · obtain ⟨p, hsearch⟩ := Link.search_succeeds all
    exact ⟨p.finished, Link.link_eq_ok_iff.2 ⟨p, hsearch, rfl⟩⟩
  · obtain ⟨p, hsearch, rfl⟩ := Link.link_eq_ok_iff.1 h
    exact ⟨p, hsearch, rfl, Link.isLinking_of_search hsearch⟩

namespace Link

/-! ## Modules that import each other -/

/-- A text with its imports and exports rewritten, and the modules it requires. -/
def rewritten (id : String) (m : ModuleText) : Except ModuleFault (String × List String) :=
  (m.toFactory id).map fun f => (f.body, f.dependencies)

/-- A module that imports modules of its directory with names of one letter. -/
def importing (names : List Char) : ModuleText :=
  { source := names.flatMap fun c => Utf8.encode ("import \"./" ++ c.toString ++ "\";")
    root := .mk ⟨"program", ⟨0, 13 * names.length, by omega⟩, true, none⟩
      (names.zipIdx.map fun c =>
        .mk ⟨"import_statement", ⟨13 * c.2, 13 * c.2 + 13, by omega⟩, true, none⟩
          [.mk ⟨"string", ⟨13 * c.2 + 7, 13 * c.2 + 12, by omega⟩, true, some "source"⟩ []])
    hasErrors := false }

/-- A module that two others import, one that imports itself, and two that import each other. -/
def tangle : Library ModuleText :=
  { modules := [("/a", importing ['c']), ("/b", importing ['c', 'b']), ("/c", importing ['a'])]
    missing := .closed .missing }

theorem link_tangle : link tangle rewritten "/e" (importing ['a', 'b']) =
    .ok [⟨"/c", "__require(\"/a\");"⟩, ⟨"/a", "__require(\"/c\");"⟩,
      ⟨"/b", "__require(\"/c\");__require(\"/b\");"⟩,
      ⟨"/e", "__require(\"/a\");__require(\"/b\");"⟩] := by
  exact link_of_reaches rfl
    (.meet (by decide) rfl rfl
      (.meet (by decide) rfl rfl (.seen (by decide) (.nil _)) (.nil _))
      (.meet (by decide) rfl rfl (.seen (by decide) (.seen (by decide) (.nil _))) (.nil _)))

/-- The four modules are linked, and the library has been asked once for each of the three. -/
theorem link_isLinking_tangle :
    ∃ p, search tangle rewritten "/e" (importing ['a', 'b']) = .ok p ∧
      p.finished.map (·.id) = ["/c", "/a", "/b", "/e"] ∧
      IsLinking tangle rewritten "/e" (importing ['a', 'b']) p.finished p.asked := by
  obtain ⟨p, hsearch, hmodules, hlinking⟩ :=
    (link_isLinking tangle rewritten "/e" (importing ['a', 'b'])).2 _ link_tangle
  rw [← hmodules] at hlinking
  exact ⟨p, hsearch, by rw [hmodules]; rfl, hlinking⟩

end Link

end ScriptLint

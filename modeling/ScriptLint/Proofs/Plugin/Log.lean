/-
Which nodes a walk visits, and in which order. `IsLog` says this of the calls of a walk without
saying how they are found: they come in document order, a node is visited exactly if it has a
handler and no visited node above it has kept the walk away, and every handler finds what the calls
before it have left behind. The calls of a walk are such a log (`isLog_visits`).
-/
import ScriptLint.Proofs.Plugin.Visit

namespace ScriptLint

open Handler

/-! ## Places -/

/-- What a handler sees at the end of a path of child indexes. -/
def Node.sceneAt? (source : Bytes) (field : Option String) (n : Node) : List Nat → Option Scene
  | [] => some ⟨source, field, n⟩
  | i :: rest => n.children[i]?.bind fun c => c.sceneAt? source c.field? rest

/-- Whether the node at a path comes before that at another in document order: parents come before
their children, and siblings in their order. -/
def Precedes (p q : List Nat) : Prop := List.Lex (· < ·) p q

theorem precedes_irrefl (p : List Nat) : ¬Precedes p p := List.lex_irrefl Nat.lt_irrefl p

theorem Precedes.trans {p q r : List Nat} (h : Precedes p q) (h' : Precedes q r) : Precedes p r :=
  List.lex_trans Nat.lt_trans h h'

theorem precedes_cons_iff {i j : Nat} {p q : List Nat} :
    Precedes (i :: p) (j :: q) ↔ i < j ∨ i = j ∧ Precedes p q := List.cons_lex_cons_iff

/-- What stands above a node comes before it. -/
theorem precedes_of_above : {p q : List Nat} → p <+: q → p ≠ q → Precedes p q
  | [], [], _, hne => absurd rfl hne
  | [], _ :: _, _, _ => .nil
  | i :: p, j :: q, h, hne => by
    obtain ⟨rfl, hrest⟩ := List.cons_prefix_cons.1 h
    exact .cons (precedes_of_above hrest fun hpq => hne (congrArg (i :: ·) hpq))

/-- What a handler sees at a place, and the children of it, are nodes of the tree. -/
theorem Node.mem_preorder_of_sceneAt? {source : Bytes} {field : Option String} {s : Scene} :
    {path : List Nat} → {n : Node} → n.sceneAt? source field path = some s →
      s.node ∈ n.preorder ∧ ∀ c ∈ s.node.children, c ∈ n.preorder
  | [], n, h => by
    obtain rfl : Scene.mk source field n = s := Option.some.inj h
    rw [preorder_eq]
    refine ⟨List.mem_cons_self, fun c hc => List.mem_cons_of_mem _ ?_⟩
    exact List.mem_flatMap.2 ⟨c, hc, by rw [preorder_eq]; exact List.mem_cons_self⟩
  | i :: rest, n, h => by
    obtain ⟨child, hchild, h⟩ := Option.bind_eq_some_iff.1 h
    have hbelow : ∀ m ∈ child.preorder, m ∈ n.preorder := by
      intro m hm
      rw [n.preorder_eq]
      exact List.mem_cons_of_mem _ (List.mem_flatMap.2 ⟨child, List.mem_of_getElem? hchild, hm⟩)
    obtain ⟨hnode, hchildren⟩ := mem_preorder_of_sceneAt? h
    exact ⟨hbelow _ hnode, fun c hc => hbelow c (hchildren c hc)⟩

namespace RuleParts

/-- Whether calls of handlers are those of a walk over the nodes at some places. -/
structure IsLog (d : RuleParts) (places : List Nat → Option Scene) (t : Tally)
    (log : List Visit) : Prop where
  /-- The calls come in document order, and no place is visited twice. -/
  ordered : log.Pairwise fun v w => Precedes v.path w.path
  located : ∀ v ∈ log, places v.path = some v.scene
  /-- A place is visited exactly if its node has a handler and no handler of a node above it has
  kept the walk from the children. -/
  complete : ∀ path s, places path = some s →
    ((∃ v ∈ log, v.path = path) ↔
      (d.handler? s.node).isSome ∧ ∀ v ∈ log, v.prunes = true → v.path <+: path → v.path = path)
  /-- Every call does what the handler does where the calls before it have been made. -/
  effects : ∀ before v after, log = before ++ v :: after →
    ∃ actions, d.handler? v.scene.node = some actions ∧
      v.effect = effectAll v.scene (Visit.tallyAfter t before) actions

variable {d : RuleParts} {t : Tally}

/-- The findings of a log are at nodes of its tree. -/
theorem IsLog.mem_preorder {source : Bytes} {field : Option String} {root : Node}
    {log : List Visit} (h : d.IsLog (root.sceneAt? source field) t log) {r : Remark}
    (hr : r ∈ Visit.remarks log) : r.node ∈ root.preorder := by
  obtain ⟨v, hv, hr⟩ := List.mem_flatMap.1 hr
  obtain ⟨before, after, hlog⟩ := List.append_of_mem hv
  obtain ⟨actions, -, heffect⟩ := h.effects before v after hlog
  obtain ⟨hnode, hchildren⟩ := Node.mem_preorder_of_sceneAt? (h.located v hv)
  rw [heffect] at hr
  rcases node_of_mem_effectAll v.scene actions _ hr with hr | hr
  · rw [hr]
    exact hnode
  · exact hchildren _ hr

/-! ## Uniqueness -/

/-- Where two logs part, the one still visits the next place of the other or one before it. -/
theorem IsLog.exists_rest {places : List Nat → Option Scene}
    {log log' before rest rest' : List Visit} {v : Visit} (h : d.IsLog places t log)
    (h' : d.IsLog places t log') (hlog : log = before ++ rest)
    (hlog' : log' = before ++ v :: rest') :
    ∃ w ∈ rest, w.path = v.path ∨ Precedes w.path v.path := by
  subst hlog hlog'
  have hv : v ∈ before ++ v :: rest' := List.mem_append_right _ List.mem_cons_self
  obtain ⟨hhandler, habove⟩ := (h'.complete v.path v.scene (h'.located v hv)).1 ⟨v, hv, rfl⟩
  by_cases hvisited : ∃ w ∈ before ++ rest, w.path = v.path
  · obtain ⟨w, hw, hpath⟩ := hvisited
    rcases List.mem_append.1 hw with hw | hw
    · have hlt := (List.pairwise_append.1 h'.ordered).2.2 w hw v List.mem_cons_self
      exact absurd (hpath ▸ hlt) (precedes_irrefl _)
    · exact ⟨w, hw, .inl hpath⟩
  · -- a call of the first log has kept its walk from the place, and the second has not made it
    rw [h.complete v.path v.scene (h'.located v hv)] at hvisited
    simp only [hhandler, true_and, not_forall] at hvisited
    obtain ⟨w, hw, hprunes, hprefix, hpath⟩ := hvisited
    rcases List.mem_append.1 hw with hw | hw
    · exact absurd (habove w (List.mem_append_left _ hw) hprunes hprefix) hpath
    · exact ⟨w, hw, .inr (precedes_of_above hprefix hpath)⟩

/-- If two logs go on after the same calls, their next calls are the same. -/
theorem IsLog.next_eq {places : List Nat → Option Scene} {log log' before rest rest' : List Visit}
    {v v' : Visit} (h : d.IsLog places t log) (h' : d.IsLog places t log')
    (hlog : log = before ++ v :: rest) (hlog' : log' = before ++ v' :: rest') : v = v' := by
  have first : ∀ {log rest : List Visit} {u u' : Visit}, d.IsLog places t log →
      log = before ++ u :: rest →
      (∃ w ∈ u :: rest, w.path = u'.path ∨ Precedes w.path u'.path) →
      u.path = u'.path ∨ Precedes u.path u'.path := by
    rintro log rest u u' h rfl ⟨w, hw, hle⟩
    have hordered := List.pairwise_cons.1 (List.pairwise_append.1 h.ordered).2.1
    rcases List.mem_cons.1 hw with rfl | hw
    · exact hle
    · refine .inr ?_
      rcases hle with hpath | hle
      · exact hpath ▸ hordered.1 w hw
      · exact (hordered.1 w hw).trans hle
  have hpath : v.path = v'.path := by
    rcases first h hlog (h.exists_rest h' hlog hlog') with hpath | hlt
    · exact hpath
    · rcases first h' hlog' (h'.exists_rest h hlog' hlog) with hpath | hlt'
      · exact hpath.symm
      · exact absurd (hlt.trans hlt') (precedes_irrefl _)
  have hscene : v.scene = v'.scene := by
    have hv := h.located v (by simp [hlog])
    have hv' := h'.located v' (by simp [hlog'])
    rw [← hpath, hv] at hv'
    exact Option.some.inj hv'
  obtain ⟨actions, hactions, heffect⟩ := h.effects before v rest hlog
  obtain ⟨actions', hactions', heffect'⟩ := h'.effects before v' rest' hlog'
  rw [hscene] at hactions heffect
  obtain rfl : actions = actions' := Option.some.inj (hactions.symm.trans hactions')
  obtain ⟨path, scene, effect⟩ := v
  exact Visit.mk.injEq .. ▸ ⟨hpath, hscene, heffect.trans heffect'.symm⟩

/-- Some places have only one log. -/
theorem IsLog.unique {places : List Nat → Option Scene} {log log' : List Visit}
    (h : d.IsLog places t log) (h' : d.IsLog places t log') : log = log' := by
  -- by induction on what is left of the first log after a part that the two share
  have common : ∀ rest before rest', log = before ++ rest → log' = before ++ rest' →
      rest = rest' := by
    intro rest
    induction rest with
    | nil =>
      intro before rest' hlog hlog'
      cases rest' with
      | nil => rfl
      | cons v rest' =>
        obtain ⟨w, hw, -⟩ := h.exists_rest h' hlog hlog'
        cases hw
    | cons v rest ih =>
      intro before rest' hlog hlog'
      cases rest' with
      | nil =>
        obtain ⟨w, hw, -⟩ := h'.exists_rest h hlog' hlog
        cases hw
      | cons v' rest' =>
        obtain rfl := h.next_eq h' hlog hlog'
        rw [ih (before ++ [v]) rest' (by simp [hlog]) (by simp [hlog'])]
  exact common log [] log' rfl rfl

/-! ## Logs of parts -/

theorem isLog_nil {places : List Nat → Option Scene} (h : ∀ path, places path = none) :
    d.IsLog places t [] where
  ordered := .nil
  located := nofun
  complete path s hs := nomatch (h path).symm.trans hs
  effects before v after h := by simp at h

/-- Places of which none of the one part is before, above or below one of the other. -/
structure Parts (places first second : List Nat → Option Scene) : Prop where
  split : ∀ path s, places path = some s ↔ first path = some s ∨ second path = some s
  before : ∀ {p q s s'}, first p = some s → second q = some s' → Precedes p q
  apart : ∀ {p q s s'}, first p = some s → second q = some s' → ¬p <+: q ∧ ¬q <+: p

theorem IsLog.append {places first second : List Nat → Option Scene} {log later : List Visit}
    (parts : Parts places first second) (h : d.IsLog first t log)
    (h' : d.IsLog second (Visit.tallyAfter t log) later) : d.IsLog places t (log ++ later) where
  ordered := List.pairwise_append.2 ⟨h.ordered, h'.ordered, fun v hv w hw =>
    parts.before (h.located v hv) (h'.located w hw)⟩
  located v hv := by
    rw [parts.split]
    rcases List.mem_append.1 hv with hv | hv
    · exact .inl (h.located v hv)
    · exact .inr (h'.located v hv)
  complete path s hs := by
    rcases (parts.split path s).1 hs with hs | hs
    · -- no later call is at, above or below this place
      have hlater : ∀ v ∈ later, ¬v.path <+: path := fun v hv =>
        (parts.apart hs (h'.located v hv)).2
      rw [← (h.complete path s hs).trans (and_congr_right fun _ => ?_)]
      · constructor
        · rintro ⟨v, hv, rfl⟩
          rcases List.mem_append.1 hv with hv | hv
          · exact ⟨v, hv, rfl⟩
          · exact absurd (List.prefix_refl _) (hlater v hv)
        · rintro ⟨v, hv, hpath⟩
          exact ⟨v, List.mem_append_left _ hv, hpath⟩
      · constructor
        · intro hall v hv hprunes habove
          rcases List.mem_append.1 hv with hv | hv
          · exact hall v hv hprunes habove
          · exact absurd habove (hlater v hv)
        · exact fun hall v hv => hall v (List.mem_append_left _ hv)
    · have hearlier : ∀ v ∈ log, ¬v.path <+: path := fun v hv =>
        (parts.apart (h.located v hv) hs).1
      rw [← (h'.complete path s hs).trans (and_congr_right fun _ => ?_)]
      · constructor
        · rintro ⟨v, hv, rfl⟩
          rcases List.mem_append.1 hv with hv | hv
          · exact absurd (List.prefix_refl _) (hearlier v hv)
          · exact ⟨v, hv, rfl⟩
        · rintro ⟨v, hv, hpath⟩
          exact ⟨v, List.mem_append_right _ hv, hpath⟩
      · constructor
        · intro hall v hv hprunes habove
          rcases List.mem_append.1 hv with hv | hv
          · exact absurd habove (hearlier v hv)
          · exact hall v hv hprunes habove
        · exact fun hall v hv => hall v (List.mem_append_right _ hv)
  effects before v after hlog := by
    -- a call of the later log comes after all calls of the first
    rcases List.append_eq_append_iff.1 hlog with ⟨rest, rfl, hrest⟩ | ⟨rest, hrest, hafter⟩
    · rw [Visit.tallyAfter_append]
      exact h'.effects rest v after hrest
    · cases rest with
      | nil =>
        rw [List.append_nil] at hrest
        subst hrest
        exact h'.effects [] v after hafter.symm
      | cons w rest =>
        rw [List.cons_append, List.cons.injEq] at hafter
        obtain ⟨rfl, -⟩ := hafter
        exact h.effects before v rest hrest

/-- The places of a tree as its parent sees them. -/
def placesUnder (index : Nat) (places : List Nat → Option Scene) : List Nat → Option Scene
  | [] => none
  | i :: rest => if i = index then places rest else none

theorem IsLog.under {places : List Nat → Option Scene} {log : List Visit}
    (h : d.IsLog places t log) (index : Nat) :
    d.IsLog (placesUnder index places) t (log.map (Visit.under index)) where
  ordered := by
    rw [List.pairwise_map]
    exact h.ordered.imp fun hlt => precedes_cons_iff.2 (.inr ⟨rfl, hlt⟩)
  located v hv := by
    obtain ⟨w, hw, rfl⟩ := List.mem_map.1 hv
    exact (if_pos rfl).trans (h.located w hw)
  complete path s hs := by
    cases path with
    | nil => cases hs
    | cons i rest =>
      by_cases hi : i = index
      · subst hi
        rw [placesUnder, if_pos rfl] at hs
        refine Iff.trans ?_ ((h.complete rest s hs).trans (and_congr_right fun _ => ?_))
        · simp [Visit.under]
        · simp [Visit.under, Visit.prunes]
      · rw [placesUnder, if_neg hi] at hs
        cases hs
  effects before v after hlog := by
    obtain ⟨before', rest, rfl, rfl, hrest⟩ := List.map_eq_append_iff.1 hlog
    obtain ⟨v', after', rfl, rfl, rfl⟩ := List.map_eq_cons_iff.1 hrest
    rw [Visit.tallyAfter_map_under]
    exact h.effects before' v' after' rfl

/-! ## Logs of trees -/

/-- The places of a tree without its root. -/
def placesBelow (places : List Nat → Option Scene) : List Nat → Option Scene
  | [] => none
  | i :: rest => places (i :: rest)

theorem IsLog.located_below {places : List Nat → Option Scene} {log : List Visit}
    (h : d.IsLog (placesBelow places) t log) {v : Visit} (hv : v ∈ log) :
    v.path ≠ [] ∧ places v.path = some v.scene := by
  have hlocated := h.located v hv
  cases hpath : v.path with
  | nil =>
    rw [hpath] at hlocated
    cases hlocated
  | cons i rest =>
    rw [hpath] at hlocated
    exact ⟨nofun, hlocated⟩

/-- The log of a tree whose root has no handler is the log of what is below it. -/
theorem IsLog.skip {places : List Nat → Option Scene} {log : List Visit} {s : Scene}
    (hroot : places [] = some s) (hnone : d.handler? s.node = none)
    (h : d.IsLog (placesBelow places) t log) : d.IsLog places t log where
  ordered := h.ordered
  located v hv := (h.located_below hv).2
  complete path s' hs' := by
    cases path with
    | nil =>
      obtain rfl : s = s' := Option.some.inj (hroot.symm.trans hs')
      rw [hnone]
      refine iff_of_false ?_ (fun h => nomatch h.1)
      rintro ⟨v, hv, hpath⟩
      exact (h.located_below hv).1 hpath
    | cons i rest => exact h.complete _ _ hs'
  effects := h.effects

/-- The log of a tree whose root has a handler begins with the root, and goes on with what is below
it if the handler lets the walk go on. -/
theorem IsLog.visit {places : List Nat → Option Scene} {log : List Visit} {v : Visit}
    {actions : List Action} (hroot : places [] = some v.scene) (hpath : v.path = [])
    (hsome : d.handler? v.scene.node = some actions)
    (heffect : v.effect = effectAll v.scene t actions)
    (h : d.IsLog (placesBelow places) v.effect.tally log) :
    d.IsLog places t (v :: if v.prunes then [] else log) := by
  have hlog : ∀ w ∈ (if v.prunes then [] else log), w ∈ log := by
    intro w hw
    split at hw
    · cases hw
    · exact hw
  refine ⟨?_, ?_, ?_, ?_⟩
  · refine List.pairwise_cons.2 ⟨fun w hw => ?_, ?_⟩
    · obtain ⟨i, rest, hw⟩ := List.exists_cons_of_ne_nil (h.located_below (hlog w hw)).1
      rw [hpath, hw]
      exact .nil
    · split
      · exact .nil
      · exact h.ordered
  · rw [List.forall_mem_cons, hpath]
    exact ⟨hroot, fun w hw => (h.located_below (hlog w hw)).2⟩
  · intro path s hs
    cases path with
    | nil =>
      obtain rfl : v.scene = s := Option.some.inj (hroot.symm.trans hs)
      rw [hsome]
      exact iff_of_true ⟨v, List.mem_cons_self, hpath⟩
        ⟨rfl, fun w _ _ hw => List.prefix_nil.1 hw⟩
    | cons i rest =>
      cases hprunes : v.prunes with
      | true =>
        -- the root keeps the walk from this place
        refine iff_of_false ?_ fun hall => ?_
        · rintro ⟨w, hw, hwpath⟩
          rw [if_pos rfl, List.mem_singleton] at hw
          rw [hw, hpath] at hwpath
          cases hwpath
        · have := hall.2 v List.mem_cons_self hprunes (by rw [hpath]; exact List.nil_prefix)
          rw [hpath] at this
          cases this
      | false =>
        rw [if_neg (by decide),
          ← (h.complete (i :: rest) s hs).trans (and_congr_right fun _ => ?_)]
        · simp [hpath]
        · simp [hprunes]
  · intro before w after hw
    cases before with
    | nil =>
      rw [List.nil_append, List.cons.injEq] at hw
      obtain ⟨rfl, -⟩ := hw
      exact ⟨actions, hsome, heffect⟩
    | cons u before =>
      rw [List.cons_append, List.cons.injEq] at hw
      obtain ⟨rfl, hw⟩ := hw
      rw [Visit.tallyAfter_cons]
      split at hw
      · simp at hw
      · exact h.effects before w after hw

/-- What a handler sees at the end of a path into a list of trees, of which the first has an
index. -/
def sceneAmong? (source : Bytes) (index : Nat) (ns : List Node) : List Nat → Option Scene
  | [] => none
  | i :: rest =>
    if i < index then none else ns[i - index]?.bind fun c => c.sceneAt? source c.field? rest

theorem placesBelow_sceneAt? (source : Bytes) (field : Option String) (n : Node) :
    placesBelow (n.sceneAt? source field) = sceneAmong? source 0 n.children := by
  funext path
  cases path <;> rfl

theorem parts_sceneAmong? (source : Bytes) (index : Nat) (n : Node) (rest : List Node) :
    Parts (sceneAmong? source index (n :: rest)) (placesUnder index (n.sceneAt? source n.field?))
      (sceneAmong? source (index + 1) rest) := by
  have hfirst : ∀ {p s}, placesUnder index (n.sceneAt? source n.field?) p = some s →
      ∃ p', p = index :: p' := by
    intro p s h
    cases p with
    | nil => cases h
    | cons i p' =>
      by_cases hi : i = index
      · exact ⟨p', by rw [hi]⟩
      · rw [placesUnder, if_neg hi] at h
        cases h
  have hsecond : ∀ {p s}, sceneAmong? source (index + 1) rest p = some s →
      ∃ i p', p = i :: p' ∧ index < i := by
    intro p s h
    cases p with
    | nil => cases h
    | cons i p' =>
      refine ⟨i, p', rfl, Nat.lt_of_not_le fun hi => ?_⟩
      rw [sceneAmong?, if_pos (Nat.lt_succ_of_le hi)] at h
      cases h
  refine ⟨?_, ?_, ?_⟩
  · intro path s
    cases path with
    | nil => simp [sceneAmong?, placesUnder]
    | cons i path =>
      rw [sceneAmong?, sceneAmong?, placesUnder]
      rcases Nat.lt_trichotomy i index with hi | rfl | hi
      · simp [hi, Nat.ne_of_lt hi, Nat.lt_succ_of_lt hi]
      · simp
      · obtain ⟨k, rfl⟩ := Nat.exists_eq_add_of_lt hi
        have hk : index + k + 1 - index = k + 1 := by omega
        have hk' : index + k + 1 - (index + 1) = k := by omega
        have hlt : ¬index + k + 1 < index := by omega
        have hlt' : ¬index + k + 1 < index + 1 := by omega
        have hne : index + k + 1 ≠ index := by omega
        simp [hk, hk', hlt, hlt', hne]
  · intro p q s s' hp hq
    obtain ⟨p', rfl⟩ := hfirst hp
    obtain ⟨i, q', rfl, hi⟩ := hsecond hq
    exact precedes_cons_iff.2 (.inl hi)
  · intro p q s s' hp hq
    obtain ⟨p', rfl⟩ := hfirst hp
    obtain ⟨i, q', rfl, hi⟩ := hsecond hq
    simp only [List.cons_prefix_cons, not_and]
    exact ⟨fun h => absurd h (by omega), fun h => absurd h (by omega)⟩

mutual

/-- The calls of a walk over a tree are the log of its places. -/
theorem isLog_visits (d : RuleParts) (source : Bytes) (field : Option String) :
    (n : Node) → (t : Tally) → d.IsLog (n.sceneAt? source field) t (d.visits source field t n)
  | .mk label children, t => by
    have hbelow := fun t => isLog_visitsAll d source 0 children t
    have hplaces := placesBelow_sceneAt? source field (.mk label children)
    rw [Node.children] at hplaces
    rw [← hplaces] at hbelow
    rw [visits]
    cases hhandler : d.handler? (.mk label children) with
    | none => exact (hbelow t).skip rfl hhandler
    | some actions => exact IsLog.visit rfl rfl hhandler rfl (hbelow _)

theorem isLog_visitsAll (d : RuleParts) (source : Bytes) (index : Nat) :
    (ns : List Node) → (t : Tally) →
      d.IsLog (sceneAmong? source index ns) t (d.visitsAll source index t ns)
  | [], t => by
    rw [visitsAll]
    refine isLog_nil fun path => ?_
    cases path <;> simp [sceneAmong?]
  | n :: rest, t => by
    rw [visitsAll]
    exact ((isLog_visits d source n.field? n t).under index).append
      (parts_sceneAmong? source index n rest) (isLog_visitsAll d source (index + 1) rest _)

end

end RuleParts

end ScriptLint

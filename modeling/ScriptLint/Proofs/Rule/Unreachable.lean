/-
What the rule on unreachable code reports. Whatever is known of control flow, the reported nodes are
the outermost hit ones among those reached through named children, each once and in document order
(`hits_listing`). In a tree whose nodes lie in their parents every hit node lies in a reported one,
and reported nodes are to each other as siblings are (`pairwise_hits`), so where siblings do not
overlap, neither do findings (`noUnreachable_reports`).
-/
import ScriptLint.Proofs.Flow.Bodies
import ScriptLint.Proofs.Plugin.Log
import ScriptLint.Rule.NoUnreachable

namespace ScriptLint

/-! ## Ranges in a tree -/

namespace Span

/-- Whether a range lies in another. -/
structure Within (s t : Span) : Prop where
  lo : t.lo ≤ s.lo
  hi : s.hi ≤ t.hi

/-- Whether a range ends before another begins. -/
def Before (s t : Span) : Prop := s.hi ≤ t.lo

/-- Whether two ranges do not overlap. -/
def Apart (s t : Span) : Prop := s.Before t ∨ t.Before s

theorem within_refl (s : Span) : s.Within s := ⟨Nat.le_refl _, Nat.le_refl _⟩

theorem Within.trans {r s t : Span} (h : r.Within s) (h' : s.Within t) : r.Within t :=
  ⟨Nat.le_trans h'.lo h.lo, Nat.le_trans h.hi h'.hi⟩

theorem Before.narrow {s t s' t' : Span} (h : s.Before t) (hs : s'.Within s) (ht : t'.Within t) :
    s'.Before t' := Nat.le_trans hs.hi (Nat.le_trans h ht.lo)

theorem Apart.narrow {s t s' t' : Span} (h : s.Apart t) (hs : s'.Within s) (ht : t'.Within t) :
    s'.Apart t' := h.imp (·.narrow hs ht) (·.narrow ht hs)

end Span

namespace Node

/-- Whether all nodes of a tree lie in their parents. -/
def IsNested (root : Node) : Prop :=
  ∀ n ∈ root.preorder, ∀ c ∈ n.children, c.span.Within n.span

/-- Whether the ranges of siblings anywhere in a tree, in their order, are related. -/
def SiblingsAre (root : Node) (related : Span → Span → Prop) : Prop :=
  ∀ n ∈ root.preorder, n.children.Pairwise fun a b => related a.span b.span

/-- The node at the end of a path of indexes of named children. -/
def namedAt? (n : Node) : List Nat → Option Node
  | [] => some n
  | i :: rest => n.namedChildren[i]?.bind fun c => c.namedAt? rest

variable {n c m : Node}

theorem mem_preorder_of_named (hc : c ∈ n.namedChildren) (hm : m ∈ c.preorder) : m ∈ n.preorder :=
  mem_preorder_trans hm (mem_preorder_child (mem_children_of_mem_namedChildren hc))

theorem mem_preorder_of_namedAt? {path : List Nat} (h : n.namedAt? path = some m) :
    m ∈ n.preorder := by
  induction path generalizing n with
  | nil =>
    obtain rfl : n = m := Option.some.inj h
    exact n.mem_preorder_self
  | cons i rest ih =>
    obtain ⟨c, hc, h⟩ := Option.bind_eq_some_iff.1 h
    exact mem_preorder_of_named (List.mem_of_getElem? hc) (ih h)

theorem IsNested.child (h : n.IsNested) (hc : c ∈ n.namedChildren) : c.IsNested := fun m hm =>
  h m (mem_preorder_of_named hc hm)

theorem IsNested.within (h : n.IsNested) (hc : c ∈ n.namedChildren) : c.span.Within n.span :=
  h n n.mem_preorder_self c (mem_children_of_mem_namedChildren hc)

theorem SiblingsAre.child {related : Span → Span → Prop} (h : n.SiblingsAre related)
    (hc : c ∈ n.namedChildren) : c.SiblingsAre related := fun m hm =>
  h m (mem_preorder_of_named hc hm)

theorem SiblingsAre.named {related : Span → Span → Prop} (h : n.SiblingsAre related) :
    n.namedChildren.Pairwise fun a b => related a.span b.span :=
  (h n n.mem_preorder_self).filter _

end Node

namespace NoUnreachable

variable {flow : ControlFlow} {n c m : Node} {path : List Nat}

/-! ## Outermost hit nodes -/

/-- Whether a node is of a kind that may be reported and there is a fact at its start by which
control never comes there. -/
def Hit (flow : ControlFlow) (n : Node) : Prop :=
  n.kind ∉ exemptKinds ∧ ∃ fact, flow.lookup n.lo = some fact ∧ fact.unreachable = true

/-- Whether a node at the end of a path of named children is hit, and no node above it on the path
is. -/
structure IsOutermost (flow : ControlFlow) (root : Node) (path : List Nat) (n : Node) : Prop where
  located : root.namedAt? path = some n
  hit : Hit flow n
  above : ∀ p a, p <+: path → p ≠ path → root.namedAt? p = some a → ¬Hit flow a

theorem isHit_iff {label : Label} {children : List Node} :
    isHit flow label = true ↔ Hit flow (.mk label children) := by
  change isHit flow label = true ↔ label.kind ∉ exemptKinds ∧
    ∃ fact, flow.lookup label.span.lo = some fact ∧ fact.unreachable = true
  unfold isHit ControlFlow.isReachable?
  cases flow.lookup label.span.lo with
  | none => simp
  | some fact => simp

/-- A hit node is outermost in its own tree, and nothing else is. -/
theorem isOutermost_of_hit (h : Hit flow n) : IsOutermost flow n path m ↔ path = [] ∧ m = n := by
  constructor
  · intro hm
    have hpath : path = [] := by
      by_contra hne
      exact hm.above [] n List.nil_prefix (Ne.symm hne) rfl h
    subst hpath
    exact ⟨rfl, (Option.some.inj hm.located).symm⟩
  · rintro ⟨rfl, rfl⟩
    exact ⟨rfl, h, fun p a hp hne => absurd (List.prefix_nil.1 hp) hne⟩

/-- Under a node that is not hit, what is outermost in a child's tree is outermost. -/
theorem isOutermost_of_not_hit (h : ¬Hit flow n) : IsOutermost flow n path m ↔
    ∃ i c rest, path = i :: rest ∧ n.namedChildren[i]? = some c ∧ IsOutermost flow c rest m := by
  constructor
  · intro hm
    cases path with
    | nil => exact absurd (Option.some.inj hm.located ▸ hm.hit) h
    | cons i rest =>
      obtain ⟨c, hc, hlocated⟩ := Option.bind_eq_some_iff.1 hm.located
      refine ⟨i, c, rest, rfl, hc, hlocated, hm.hit, fun p a hp hne ha => ?_⟩
      refine hm.above (i :: p) a (List.cons_prefix_cons.2 ⟨rfl, hp⟩) (by simpa using hne) ?_
      rw [Node.namedAt?, hc]
      exact ha
  · rintro ⟨i, c, rest, rfl, hc, hm⟩
    refine ⟨by rw [Node.namedAt?, hc]; exact hm.located, hm.hit, fun p a hp hne ha => ?_⟩
    cases p with
    | nil =>
      obtain rfl : n = a := Option.some.inj ha
      exact h
    | cons j p =>
      obtain ⟨rfl, hrest⟩ := List.cons_prefix_cons.1 hp
      rw [Node.namedAt?, hc] at ha
      exact hm.above p a hrest (by simpa using hne) ha

/-! ## The search -/

theorem hitsOfAll_eq (flow : ControlFlow) (ns : List Node) :
    hitsOfAll flow ns = (ns.filter Node.isNamed).flatMap (hits flow) := by
  induction ns with
  | nil => rfl
  | cons n rest ih =>
    cases hn : n.isNamed with
    | true => simp [hitsOfAll, hn, ih]
    | false => simp [hitsOfAll, hn, ih]

theorem hits_of_hit (h : Hit flow n) : hits flow n = [n] := by
  cases n with
  | mk label children => rw [hits, if_pos (isHit_iff.2 h)]

theorem hits_of_not_hit (h : ¬Hit flow n) : hits flow n = n.namedChildren.flatMap (hits flow) := by
  cases n with
  | mk label children =>
    rw [hits, if_neg fun hl => h (isHit_iff.1 hl), hitsOfAll_eq]
    rfl

/-- Whether a list gives the nodes at the paths with a property, each once and in document order. -/
structure IsListing (chosen : List Nat → Node → Prop) (places : List (List Nat × Node)) : Prop where
  ordered : places.Pairwise fun a b => Precedes a.1 b.1
  complete : ∀ path n, (path, n) ∈ places ↔ chosen path n

/-- The nodes chosen in the trees of a list, of which the first has an index. -/
def InList (chosen : Node → List Nat → Node → Prop) (index : Nat) (ns : List Node)
    (path : List Nat) (m : Node) : Prop :=
  ∃ i c rest, path = (index + i) :: rest ∧ ns[i]? = some c ∧ chosen c rest m

theorem inList_cons_iff {chosen : Node → List Nat → Node → Prop} {index : Nat} {ns : List Node} :
    InList chosen index (c :: ns) path m ↔
      (∃ rest, path = index :: rest ∧ chosen c rest m) ∨ InList chosen (index + 1) ns path m := by
  constructor
  · rintro ⟨i, d, rest, rfl, hd, hm⟩
    cases i with
    | zero =>
      obtain rfl : c = d := Option.some.inj hd
      exact .inl ⟨rest, rfl, hm⟩
    | succ i => exact .inr ⟨i, d, rest, by rw [Nat.add_right_comm, Nat.add_assoc], hd, hm⟩
  · rintro (⟨rest, rfl, hm⟩ | ⟨i, d, rest, rfl, hd, hm⟩)
    · exact ⟨0, c, rest, rfl, rfl, hm⟩
    · exact ⟨i + 1, d, rest, by rw [Nat.add_right_comm, Nat.add_assoc], hd, hm⟩

/-- Listings of trees make one of a list of trees. -/
theorem exists_listing_of_list {chosen : Node → List Nat → Node → Prop}
    (found : Node → List Node) (ns : List Node)
    (each : ∀ c ∈ ns, ∃ places, IsListing (chosen c) places ∧ found c = places.map (·.2))
    (index : Nat) :
    ∃ places, IsListing (InList chosen index ns) places ∧ ns.flatMap found = places.map (·.2) := by
  induction ns generalizing index with
  | nil => exact ⟨[], ⟨.nil, by simp [InList]⟩, rfl⟩
  | cons c rest ih =>
    obtain ⟨first, hfirst, hfound⟩ := each c List.mem_cons_self
    obtain ⟨others, hothers, hrest⟩ :=
      ih (fun d hd => each d (List.mem_cons_of_mem _ hd)) (index + 1)
    refine ⟨first.map (fun place => (index :: place.1, place.2)) ++ others, ⟨?_, ?_⟩, ?_⟩
    · rw [List.pairwise_append, List.pairwise_map]
      refine ⟨hfirst.ordered.imp fun h => precedes_cons_iff.2 (.inr ⟨rfl, h⟩), hothers.ordered, ?_⟩
      rintro a ha ⟨path, m⟩ hb
      obtain ⟨place, -, rfl⟩ := List.mem_map.1 ha
      obtain ⟨i, d, tail, rfl, -, -⟩ := (hothers.complete _ _).1 hb
      exact precedes_cons_iff.2 (.inl (by omega))
    · intro path m
      rw [List.mem_append, inList_cons_iff, hothers.complete]
      refine or_congr_left ?_
      constructor
      · intro h
        obtain ⟨⟨tail, m'⟩, hplace, heq⟩ := List.mem_map.1 h
        obtain ⟨rfl, rfl⟩ := Prod.mk.inj heq
        exact ⟨tail, rfl, (hfirst.complete tail m').1 hplace⟩
      · rintro ⟨tail, rfl, hm⟩
        exact List.mem_map.2 ⟨(tail, m), (hfirst.complete tail m).2 hm, rfl⟩
    · rw [List.flatMap_cons, hfound, hrest, List.map_append, List.map_map]
      rfl

/-- The search finds the outermost hit nodes, each once and in document order. -/
theorem hits_listing (flow : ControlFlow) (n : Node) :
    ∃ places, IsListing (IsOutermost flow n) places ∧ hits flow n = places.map (·.2) := by
  induction hs : sizeOf n using Nat.strongRecOn generalizing n with
  | ind k ih =>
    by_cases h : Hit flow n
    · refine ⟨[([], n)], ⟨List.pairwise_singleton _ _, fun path m => ?_⟩, hits_of_hit h⟩
      rw [isOutermost_of_hit h, List.mem_singleton, Prod.mk.injEq]
    · obtain ⟨places, hplaces, hfound⟩ := exists_listing_of_list (hits flow) n.namedChildren
        (fun c hc => ih _ (hs ▸ Node.sizeOf_lt_of_mem (Node.mem_children_of_mem_namedChildren hc)) c
          rfl) 0
      refine ⟨places, ⟨hplaces.ordered, fun path m => ?_⟩, (hits_of_not_hit h).trans hfound⟩
      rw [hplaces.complete, isOutermost_of_not_hit h]
      simp [InList]

/-! ## Ranges of hit nodes -/

theorem within_of_namedAt? (h : n.IsNested) (hm : n.namedAt? path = some m) :
    m.span.Within n.span := by
  induction path generalizing n with
  | nil =>
    obtain rfl : n = m := Option.some.inj hm
    exact n.span.within_refl
  | cons i rest ih =>
    obtain ⟨c, hc, hm⟩ := Option.bind_eq_some_iff.1 hm
    have hmem := List.mem_of_getElem? hc
    exact (ih (h.child hmem) hm).trans (h.within hmem)

theorem within_of_mem_hits (h : n.IsNested) (hm : m ∈ hits flow n) : m.span.Within n.span := by
  obtain ⟨places, hplaces, hfound⟩ := hits_listing flow n
  rw [hfound] at hm
  obtain ⟨⟨path, m⟩, hplace, rfl⟩ := List.mem_map.1 hm
  exact within_of_namedAt? h ((hplaces.complete path m).1 hplace).located

/-- A hit node lies in an outermost one. -/
theorem exists_within_of_hit (h : n.IsNested) (hm : n.namedAt? path = some m) (hit : Hit flow m) :
    ∃ a ∈ hits flow n, m.span.Within a.span := by
  induction path generalizing n with
  | nil =>
    obtain rfl : n = m := Option.some.inj hm
    exact ⟨n, by rw [hits_of_hit hit]; exact List.mem_singleton_self n, n.span.within_refl⟩
  | cons i rest ih =>
    by_cases hn : Hit flow n
    · exact ⟨n, by rw [hits_of_hit hn]; exact List.mem_singleton_self n, within_of_namedAt? h hm⟩
    · obtain ⟨c, hc, hm⟩ := Option.bind_eq_some_iff.1 hm
      have hmem := List.mem_of_getElem? hc
      obtain ⟨a, ha, hwithin⟩ := ih (h.child hmem) hm
      exact ⟨a, by rw [hits_of_not_hit hn]; exact List.mem_flatMap.2 ⟨c, hmem, ha⟩, hwithin⟩

/-- Outermost hit nodes are related as siblings are, in a way that ranges inside of related ones
share. -/
theorem pairwise_hits {related : Span → Span → Prop} (h : n.IsNested) (hs : n.SiblingsAre related)
    (narrow : ∀ {s t s' t'}, related s t → s'.Within s → t'.Within t → related s' t') :
    (hits flow n).Pairwise fun a b => related a.span b.span := by
  induction hsize : sizeOf n using Nat.strongRecOn generalizing n with
  | ind k ih =>
    by_cases hn : Hit flow n
    · rw [hits_of_hit hn]
      exact List.pairwise_singleton _ _
    · rw [hits_of_not_hit hn, List.pairwise_flatMap]
      refine ⟨fun c hc => ?_, hs.named.imp_of_mem fun ha hb hab a' ha' b' hb' => ?_⟩
      · exact ih _ (hsize ▸ Node.sizeOf_lt_of_mem (Node.mem_children_of_mem_namedChildren hc))
          (h.child hc) (hs.child hc) rfl
      · exact narrow hab (within_of_mem_hits (h.child ha) ha') (within_of_mem_hits (h.child hb) hb')

/-! ## The report -/

/-- Whether a report on a tree is about the outermost hit nodes. -/
structure ReportsOutermost (flow : ControlFlow) (root : Node) (report : Report) : Prop where
  /-- There is one finding for each outermost hit node, with the node's range, in document order. -/
  exact : ∃ places, IsListing (IsOutermost flow root) places ∧
    report = .complete (places.map fun place => finding place.2)
  /-- Every hit node that is reached through named children lies in a reported one. -/
  covers : root.IsNested → ∀ path n, root.namedAt? path = some n → Hit flow n →
    ∃ d ∈ report.findings, n.span.Within d.span
  apart : root.IsNested → root.SiblingsAre Span.Apart →
    report.findings.Pairwise fun d e => d.span.Apart e.span
  ordered : root.IsNested → root.SiblingsAre Span.Before →
    report.findings.Pairwise fun d e => d.span.Before e.span

/-- Whatever is known of control flow, the rule reports exactly the outermost hit nodes; the
findings do not overlap and come one after the other where siblings do. Where nothing is known it
reports nothing. -/
theorem noUnreachable_reports (context : Context) (flow : ControlFlow) (program : Program) :
    ReportsOutermost flow program.root
        (Rule.noUnreachable.check { context with flow := some flow } program) ∧
      Rule.noUnreachable.check { context with flow := none } program = .complete [] := by
  refine ⟨?_, rfl⟩
  have hfindings : (Rule.noUnreachable.check { context with flow := some flow } program).findings =
      (hits flow program.root).map finding := rfl
  refine ⟨?_, fun h path n hn hit => ?_, fun h hs => ?_, fun h hs => ?_⟩
  · obtain ⟨places, hplaces, hfound⟩ := hits_listing flow program.root
    refine ⟨places, hplaces, ?_⟩
    change Report.complete ((hits flow program.root).map finding) = _
    rw [hfound, List.map_map]
    rfl
  · obtain ⟨a, ha, hwithin⟩ := exists_within_of_hit h hn hit
    rw [hfindings]
    exact ⟨finding a, List.mem_map_of_mem ha, hwithin⟩
  · rw [hfindings, List.pairwise_map]
    exact pairwise_hits h hs Span.Apart.narrow
  · rw [hfindings, List.pairwise_map]
    exact pairwise_hits h hs Span.Before.narrow

end NoUnreachable

end ScriptLint

/-
The analysis makes at most one mark for a node: the nodes with marks are some of those of the tree,
each as often as it is there (`marks_subperm`). So where statements start at different offsets, no
mark is filed over another one (`distinct_of_starts`).
-/
import ScriptLint.Proofs.Flow.Reading
import Mathlib.Data.List.Flatten
import Mathlib.Data.List.Nodup
import Mathlib.Data.List.Perm.Subperm

namespace ScriptLint

open List (Subperm)

/-! ## Lists of parts -/

section Parts

variable {α β : Type}

theorem subperm_flatMap {l : List α} {f g : α → List β} (h : ∀ a ∈ l, Subperm (f a) (g a)) :
    Subperm (l.flatMap f) (l.flatMap g) := by
  induction l with
  | nil => exact List.nil_subperm
  | cons a rest ih =>
    rw [List.flatMap_cons, List.flatMap_cons]
    exact (h a List.mem_cons_self).append (ih fun b hb => h b (List.mem_cons_of_mem _ hb))

theorem flatMap_subperm {l l' : List α} (h : Subperm l l') (f : α → List β) :
    Subperm (l.flatMap f) (l'.flatMap f) := by
  obtain ⟨chosen, hperm, hsub⟩ := h
  exact (hperm.flatMap_right f).symm.subperm.trans (hsub.flatMap f).subperm

/-- Items sorted into classes are some of the items, if no class is asked for twice. -/
theorem classes_subperm [DecidableEq β] (key : α → Option β) (items : List α) (classes : List β)
    (distinct : classes.Nodup) :
    Subperm (classes.flatMap fun k => items.filter fun a => key a == some k)
      (items.filter fun a => (key a).any classes.contains) := by
  induction classes with
  | nil => exact List.nil_subperm
  | cons k rest ih =>
    obtain ⟨hk, hrest⟩ := List.nodup_cons.1 distinct
    have hfirst : (items.filter fun a => (key a).any (k :: rest).contains).filter
        (fun a => key a == some k) = items.filter fun a => key a == some k := by
      rw [List.filter_filter]
      refine List.filter_congr fun a _ => ?_
      cases key a with
      | none => rfl
      | some k' => by_cases heq : k' = k <;> simp [heq]
    have hothers : (items.filter fun a => (key a).any (k :: rest).contains).filter
        (fun a => !(key a == some k)) = items.filter fun a => (key a).any rest.contains := by
      rw [List.filter_filter]
      refine List.filter_congr fun a _ => ?_
      cases key a with
      | none => simp
      | some k' =>
        by_cases heq : k' = k
        · subst heq
          simpa using hk
        · simp [heq]
    have hsplit := List.filter_append_perm (fun a => key a == some k)
      (items.filter fun a => (key a).any (k :: rest).contains)
    rw [hfirst, hothers] at hsplit
    rw [List.flatMap_cons]
    exact ((List.Subperm.refl _).append (ih hrest)).trans hsplit.subperm

end Parts

namespace Node

/-- The nodes properly inside a node. -/
def descendants (n : Node) : List Node := n.children.flatMap preorder

theorem preorder_eq_cons (n : Node) : n.preorder = n :: n.descendants := n.preorder_eq

theorem fields_subperm (n : Node) (fields : List String) (distinct : fields.Nodup) :
    Subperm ((fields.flatMap n.childrenAt).flatMap preorder) n.descendants := by
  have hparts : Subperm (fields.flatMap n.childrenAt) n.children :=
    (classes_subperm field? n.children fields distinct).trans List.filter_sublist.subperm
  exact flatMap_subperm hparts preorder

theorem child?_sublist (n : Node) (field : String) :
    List.Sublist (n.child? field).toList (n.childrenAt field) := by
  have hfirst : n.child? field = (n.childrenAt field).head? := List.head?_filter.symm
  rw [hfirst]
  cases n.childrenAt field with
  | nil => exact List.Sublist.refl _
  | cons c rest => exact List.singleton_sublist.2 List.mem_cons_self

end Node

namespace Flow

variable {dead : Bool} {n : Node} {ns : List Node} {ms ms' : List Mark} {nodes nodes' : List Node}

/-! ## Marks and their nodes -/

/-- Some marks are for some of the nodes of a list, each as often as it is there. -/
def AtMost (ms : List Mark) (nodes : List Node) : Prop := Subperm (ms.map Mark.node) nodes

theorem atMost_nil : AtMost [] nodes := List.nil_subperm

theorem AtMost.append (h : AtMost ms nodes) (h' : AtMost ms' nodes') :
    AtMost (ms ++ ms') (nodes ++ nodes') := by
  unfold AtMost
  rw [List.map_append]
  exact List.Subperm.append h h'

theorem AtMost.mono (h : AtMost ms nodes) (sub : Subperm nodes nodes') : AtMost ms nodes' :=
  List.Subperm.trans h sub

theorem atMost_flatMap {α : Type} {l : List α} {f : α → List Mark} {g : α → List Node}
    (h : ∀ a ∈ l, AtMost (f a) (g a)) : AtMost (l.flatMap f) (l.flatMap g) := by
  unfold AtMost
  rw [List.map_flatMap]
  exact subperm_flatMap h

/-! ## Lists of statements -/

/-- Going through a list with nothing but marks for each node gives marks for the nodes of the list;
whether code is dead may change from node to node. -/
theorem list_atMost (go : Bool → List Node → List Mark) (nil : ∀ d, go d [] = [])
    (cons : ∀ n ∈ ns, ∀ rest d, ∃ own d', AtMost own n.preorder ∧
      go d (n :: rest) = own ++ go d' rest) :
    AtMost (go dead ns) (ns.flatMap Node.preorder) := by
  induction ns generalizing dead with
  | nil =>
    rw [nil]
    exact atMost_nil
  | cons n rest ih =>
    obtain ⟨hn, hrest⟩ := List.forall_mem_cons.1 cons
    obtain ⟨own, d, hown, hgo⟩ := hn rest dead
    rw [hgo, List.flatMap_cons]
    exact hown.append (ih hrest)

theorem block_atMost (each : ∀ s ∈ ns, ∀ d, AtMost (visit d s).marks s.preorder) :
    AtMost (block dead ns).marks (ns.flatMap Node.preorder) := by
  refine list_atMost (fun d ns => (block d ns).marks) (fun d => by rw [block_nil])
    fun n hn rest d => ?_
  cases hskip : isSkipped n with
  | true => exact ⟨[], d, atMost_nil, by rw [block_skipped hskip, List.nil_append]⟩
  | false => exact ⟨_, _, each n hn d, by rw [block_cons hskip]⟩

theorem alternatives_atMost (each : ∀ s ∈ ns, ∀ d, AtMost (visit d s).marks s.preorder) :
    AtMost (alternatives dead ns).marks (ns.flatMap Node.preorder) := by
  refine list_atMost (fun d ns => (alternatives d ns).marks) (fun d => by rw [alternatives_nil])
    fun n hn rest d => ?_
  cases hskip : isSkipped n with
  | true => exact ⟨[], d, atMost_nil, by rw [alternatives_skipped hskip, List.nil_append]⟩
  | false => exact ⟨_, d, each n hn d, by rw [alternatives_cons hskip]⟩

theorem cases_atMost (each : ∀ k ∈ ns, ∀ d, AtMost (Mode.case.marks d k) k.preorder) :
    AtMost (cases dead ns) (ns.flatMap Node.preorder) := by
  refine list_atMost cases (fun d => cases_nil) fun n hn rest d => ?_
  cases hskip : isSkipped n with
  | true => exact ⟨[], d, atMost_nil, by rw [cases_skipped hskip, List.nil_append]⟩
  | false => exact ⟨_, d, each n hn d, by rw [cases_cons hskip]; rfl⟩

/-! ## Parts of a node -/

section Below

-- What holds of the children, as the induction over the tree gives it.
variable (each : ∀ c ∈ n.children, ∀ mode : Mode, ∀ d, AtMost (mode.marks d c) c.preorder)

include each

theorem items_atMost (hsub : ns ⊆ n.children) :
    AtMost (block dead ns).marks (ns.flatMap Node.preorder) :=
  block_atMost fun s hs d => each s (hsub hs) .statement d

theorem child?_atMost (dead : Bool) (field : String) (mode : Mode) :
    AtMost ((n.child? field).toList.flatMap (mode.marks dead))
      ((n.childrenAt field).flatMap Node.preorder) := by
  have hchild : AtMost ((n.child? field).toList.flatMap (mode.marks dead))
      ((n.child? field).toList.flatMap Node.preorder) := by
    refine atMost_flatMap fun c hc => ?_
    exact each c (Node.mem_children_of_child? (Option.mem_toList.1 hc)) mode dead
  exact hchild.mono ((n.child?_sublist field).flatMap _).subperm

theorem fields_atMost {entries : List (String × Mode)} (distinct : (entries.map (·.1)).Nodup) :
    AtMost (entries.flatMap fun entry => (n.child? entry.1).toList.flatMap (entry.2.marks dead))
      n.descendants := by
  have hparts : AtMost
      (entries.flatMap fun entry => (n.child? entry.1).toList.flatMap (entry.2.marks dead))
      (entries.flatMap fun entry => (n.childrenAt entry.1).flatMap Node.preorder) :=
    atMost_flatMap fun entry _ => child?_atMost each dead entry.1 entry.2
  have hfields := n.fields_subperm _ distinct
  rw [List.flatMap_map, List.flatMap_assoc] at hfields
  exact hparts.mono hfields

theorem functions_atMost : AtMost (functions n) n.descendants := by
  cases henters : entersBody n with
  | false =>
    rw [functions_children henters]
    exact atMost_flatMap fun c hc => each c hc .functions false
  | true =>
    cases hbody : n.child? "body" with
    | none =>
      rw [functions_noBody henters hbody]
      exact atMost_nil
    | some b =>
      have hb := Node.mem_children_of_child? hbody
      have hbelow : List.Sublist b.preorder n.descendants := by
        have hone := (List.singleton_sublist.2 hb).flatMap Node.preorder
        rwa [List.flatMap_singleton] at hone
      rw [functions_body henters hbody]
      split
      · exact (each b hb .list false).mono hbelow.subperm
      · exact (each b hb .functions false).mono hbelow.subperm

theorem case_atMost : AtMost (Mode.case.marks dead n) n.descendants := by
  have hvalue : AtMost (functionsAt n ["value"])
      ((n.childrenAt "value").flatMap Node.preorder) := by
    rw [functionsAt_eq, List.flatMap_singleton]
    exact child?_atMost each dead "value" .functions
  have hbody : AtMost (block dead (n.childrenAt "body")).marks
      ((n.childrenAt "body").flatMap Node.preorder) :=
    items_atMost each fun s hs => Node.mem_children_of_mem_childrenAt hs
  have hfields := n.fields_subperm ["value", "body"] (by decide)
  rw [List.flatMap_assoc] at hfields
  exact (hvalue.append hbody).mono (by simpa using hfields)

theorem statement_atMost : AtMost (statement dead n).marks n.descendants := by
  have hdistinct : ∀ kind ∈ composedKinds, ((followed kind).map (·.1)).Nodup := by decide
  have ofComposed : n.kind ∈ composedKinds → AtMost (statement dead n).marks n.descendants := by
    intro hkind
    rw [statement_marks_eq hkind]
    exact fields_atMost each (hdistinct _ hkind)
  rcases kind_cases n with kind | kind | kind | kind | kind | kind | kind | kind
  · rw [statement_terminator kind]
    exact functions_atMost each
  · rw [statement_block kind]
    exact (items_atMost each fun s hs => Node.mem_children_of_mem_namedChildren hs).mono
      (List.filter_sublist.flatMap _).subperm
  · exact ofComposed (by rw [kind]; decide)
  · exact ofComposed (by rw [kind]; decide)
  · exact ofComposed (by rw [kind]; decide)
  · exact ofComposed (by rw [kind]; decide)
  · exact ofComposed (List.mem_append_right _ kind)
  · rw [statement_simple kind]
    exact functions_atMost each

end Below

/-! ## The whole analysis -/

/-- Going over a node in any mode, the analysis makes at most one mark for each node of its tree. -/
theorem mode_atMost (mode : Mode) (dead : Bool) (n : Node) :
    AtMost (mode.marks dead n) n.preorder := by
  induction hs : sizeOf n using Nat.strongRecOn generalizing n mode dead with
  | ind k ih =>
    have each : ∀ c ∈ n.children, ∀ mode : Mode, ∀ d, AtMost (mode.marks d c) c.preorder :=
      fun c hc mode d => ih _ (hs ▸ Node.sizeOf_lt_of_mem hc) mode d c rfl
    have hnamed : Subperm (n.namedChildren.flatMap Node.preorder) n.descendants :=
      (List.filter_sublist.flatMap _).subperm
    have hbelow : Subperm n.descendants n.preorder := by
      rw [Node.preorder_eq_cons]
      exact (List.sublist_cons_self ..).subperm
    have hchild : ∀ s ∈ n.namedChildren, s ∈ n.children :=
      fun s hs => Node.mem_children_of_mem_namedChildren hs
    cases mode with
    | statement =>
      rw [Mode.marks, visit_marks, Node.preorder_eq_cons]
      have hown : AtMost [⟨n, dead, (statement dead n).stops⟩] [n] := List.Subperm.refl _
      exact ((statement_atMost each).append hown).mono List.perm_append_comm.subperm
    | functions => exact (functions_atMost each).mono hbelow
    | list => exact ((items_atMost each hchild).mono hnamed).mono hbelow
    | alternatives =>
      have hall : AtMost (Mode.alternatives.marks dead n) (n.namedChildren.flatMap Node.preorder) :=
        alternatives_atMost fun s hs d => each s (hchild s hs) .statement d
      exact (hall.mono hnamed).mono hbelow
    | clause =>
      have hbody : Subperm ((n.childrenAt "body").flatMap Node.preorder) n.descendants :=
        (List.filter_sublist.flatMap _).subperm
      rw [Mode.marks, partAt_marks]
      exact ((child?_atMost each dead "body" .statement).mono hbody).mono hbelow
    | cases =>
      have hall : AtMost (Mode.cases.marks dead n) (n.namedChildren.flatMap Node.preorder) :=
        cases_atMost fun k hk d => each k (hchild k hk) .case d
      exact (hall.mono hnamed).mono hbelow
    | case => exact (case_atMost each).mono hbelow

/-- The analysis makes at most one mark for each node of a program. -/
theorem marks_subperm (root : Node) : Subperm ((marks root).map Mark.node) root.preorder :=
  mode_atMost .list false root

/-- Where the nodes of a sort start at different offsets and all marks are for such nodes, the marks
are filed at different offsets. -/
theorem distinct_of_starts {root : Node} (sort : Node → Bool)
    (starts : ((root.preorder.filter sort).map Node.lo).Nodup)
    (hsort : ∀ m ∈ marks root, sort m.node = true) : ((marks root).map Mark.offset).Nodup := by
  obtain ⟨chosen, hperm, hsub⟩ := marks_subperm root
  have hchosen : chosen.filter sort = chosen := by
    refine List.filter_eq_self.2 fun n hn => ?_
    obtain ⟨m, hm, rfl⟩ := List.mem_map.1 (hperm.mem_iff.1 hn)
    exact hsort m hm
  have hstarts : (chosen.map Node.lo).Nodup := by
    rw [← hchosen]
    exact ((hsub.filter sort).map Node.lo).nodup starts
  have hoffsets := (hperm.map Node.lo).nodup_iff.1 hstarts
  rwa [List.map_map] at hoffsets

end Flow

end ScriptLint

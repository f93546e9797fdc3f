/-
The records of a part of a tree. They stand together in the records of the tree, from the position
on that the part has in document order, and differ from the records that the part has by itself
only in how they refer to what is around them: their indices count from the first record of the
tree, and the first of them has a parent and may have a field. The counts of a part can be read off
them.
-/
import ScriptLint.Proofs.Tree.Lossless

namespace ScriptLint

namespace Record

/-- A record whose parent is counted from a later record on. -/
def back (i : Nat) (r : Record) : Record := { r with parent := r.parent - i }

/-- Records that stand from index `i` on as records by themselves: the first has no parent and no
field, the parents of the others are counted from the first. -/
def detach (i : Nat) : List Record → List Record
  | [] => []
  | first :: rest => { first with parent := -1, field := none } :: rest.map (back i)

/-- Whether a record is that of a function. -/
def isFunction (r : Record) : Bool := r.named && functionKinds.contains r.kind

end Record

namespace Node

/-! ## Records at another index -/

mutual

/-- Where the records of a tree begin makes no difference for what they say, except that their
parents have other indices. -/
theorem recordsFrom_back (source : Bytes) (field : Option String) (parent : Int) (index i : Nat) :
    (n : Node) → (n.recordsFrom source field parent (index + i)).map (Record.back i) =
      n.recordsFrom source field (parent - i) index
  | .mk label children => by
    have hnext : index + i + 1 = index + 1 + i := by omega
    rw [recordsFrom, recordsFrom, List.map_cons, hnext,
      recordsOfAll_back source index (index + 1) i children]
    rfl

theorem recordsOfAll_back (source : Bytes) (parent index i : Nat) :
    (ns : List Node) → (recordsOfAll source (parent + i) (index + i) ns).map (Record.back i) =
      recordsOfAll source parent index ns
  | [] => rfl
  | n :: rest => by
    have hparent : ((parent + i : Nat) : Int) - i = parent := by omega
    have hnext : index + i + n.size = index + n.size + i := by omega
    rw [recordsOfAll, recordsOfAll, List.map_append]
    simp only [length_recordsFrom]
    rw [recordsFrom_back, hparent, hnext, recordsOfAll_back]

end

/-- The records of a tree inside of another one, taken by themselves, are its own records. -/
theorem detach_recordsFrom (source : Bytes) (field : Option String) (parent : Int) (i : Nat)
    (n : Node) : Record.detach i (n.recordsFrom source field parent i) = n.records source := by
  cases n with
  | mk label children =>
    have hback := recordsOfAll_back source 0 1 i children
    rw [Nat.zero_add, Nat.add_comm 1 i] at hback
    rw [records, recordsFrom, recordsFrom, Record.detach, hback]
    rfl

/-! ## Where the records of a part are -/

/-- Whether records hold the records of a node from position `i` on, the first record having the
index `index`. -/
def Holds (source : Bytes) (records : List Record) (index i : Nat) (n : Node) : Prop :=
  ∃ before after field parent, before.length = i ∧
    records = before ++ n.recordsFrom source field parent (index + i) ++ after

theorem Holds.append {source : Bytes} {records : List Record} {index i : Nat} {n : Node}
    (h : Holds source records index i n) (later : List Record) :
    Holds source (records ++ later) index i n := by
  obtain ⟨before, after, field, parent, hlength, rfl⟩ := h
  exact ⟨before, after ++ later, field, parent, hlength, by simp only [List.append_assoc]⟩

theorem Holds.prepend {source : Bytes} {records : List Record} {index i : Nat} {n : Node}
    (earlier : List Record) (h : Holds source records (index + earlier.length) i n) :
    Holds source (earlier ++ records) index (earlier.length + i) n := by
  obtain ⟨before, after, field, parent, rfl, rfl⟩ := h
  refine ⟨earlier ++ before, after, field, parent, by simp, ?_⟩
  simp only [List.append_assoc, Nat.add_assoc]

mutual

/-- The records of a tree hold those of every part of it, at the position of the part. -/
theorem holds_recordsFrom (source : Bytes) (field : Option String) (parent : Int) (index : Nat) :
    (root : Node) → ∀ {i n}, root.preorder[i]? = some n →
      Holds source (root.recordsFrom source field parent index) index i n
  | .mk label children, 0, n, h => by
    rw [preorder, List.getElem?_cons_zero] at h
    cases h
    exact ⟨[], [], field, parent, rfl, by simp⟩
  | .mk label children, i + 1, n, h => by
    rw [preorder, List.getElem?_cons_succ] at h
    have hinner := holds_recordsOfAll source index (index + 1) children h
    rw [recordsFrom, Nat.add_comm i 1]
    exact Holds.prepend [Record.ofNode source field parent (.mk label children)] hinner

theorem holds_recordsOfAll (source : Bytes) (parent index : Nat) :
    (ns : List Node) → ∀ {i n}, (preorderAll ns)[i]? = some n →
      Holds source (recordsOfAll source parent index ns) index i n
  | [], i, n, h => by simp [preorderAll] at h
  | first :: rest, i, n, h => by
    rw [preorderAll] at h
    rw [recordsOfAll]
    have hlength := length_recordsFrom source first.field? parent index first
    by_cases hi : i < first.size
    · -- the part lies in the first tree
      rw [List.getElem?_append_left hi] at h
      exact (holds_recordsFrom source first.field? parent index first h).append _
    · have hle : first.size ≤ i := by omega
      rw [List.getElem?_append_right hle] at h
      obtain ⟨j, rfl⟩ : ∃ j, i = first.size + j := ⟨i - first.size, by omega⟩
      change (preorderAll rest)[first.size + j - first.size]? = some n at h
      rw [Nat.add_sub_cancel_left] at h
      have hrest := holds_recordsOfAll source parent
        (index + (recordsFrom source first.field? parent index first).length) rest h
      rw [← hlength]
      exact Holds.prepend _ hrest

end

/-- The records of a tree from the position of a part on, as many as the part has nodes, are those
of the part. -/
theorem Holds.slice {source : Bytes} {records : List Record} {i : Nat} {n : Node}
    (h : Holds source records 0 i n) : ∃ field parent,
      (records.drop i).take n.size = n.recordsFrom source field parent i := by
  obtain ⟨before, after, field, parent, rfl, rfl⟩ := h
  refine ⟨field, parent, ?_⟩
  rw [List.append_assoc, List.drop_left, Nat.zero_add,
    List.take_left' (length_recordsFrom source field parent before.length n)]

/-! ## Counting -/

theorem countP_of_tells {source : Bytes} {records : List Record} {nodes : List Node}
    (h : List.Forall₂ (Record.Tells source) records nodes) :
    records.countP Record.isFunction = nodes.countP fun n => n.isNamed && n.isFunction := by
  induction h with
  | nil => rfl
  | cons htells hrest ih =>
    rw [List.countP_cons, List.countP_cons, ih, Record.isFunction, htells.named, htells.kind]
    rfl

/-- A node that starts at a byte and is a number of bytes long. -/
def spanning (kind : String) (start length : Nat) (named : Bool) (field : Option String)
    (children : List Node) : Node :=
  .mk ⟨kind, ⟨start, start + length, Nat.le_add_right start length⟩, named, field⟩ children

/-- The function in the script `f(() => x)`. -/
def arrow : Node :=
  spanning "arrow_function" 2 7 true none
    [spanning "formal_parameters" 2 2 true (some "parameters")
      [spanning "(" 2 1 false none [], spanning ")" 3 1 false none []],
     spanning "=>" 5 2 false none [],
     spanning "identifier" 8 1 true (some "body") []]

/-- The tree of the script `f(() => x)`. -/
def callOfArrow : Node :=
  spanning "program" 0 10 true none
    [spanning "expression_statement" 0 10 true none
      [spanning "call_expression" 0 10 true none
        [spanning "identifier" 0 1 true (some "function") [],
         spanning "arguments" 1 9 true (some "arguments")
          [spanning "(" 1 1 false none [], arrow, spanning ")" 9 1 false none []]]]]

/-- The source of that script. -/
def callSource : Bytes := Utf8.encode "f(() => x)"

end Node

end ScriptLint

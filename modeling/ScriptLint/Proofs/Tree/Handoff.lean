/-
The way of a tree to a script. The records of a tree are written as a text and read from it again
(`listOfText?_serialize`), and the script builds from them the tree that it was, node by node
(`ofRecords?_records`). The rebuilding goes through the records from the last to the first; what
it has attached to a row is the children of the records that it has passed.
-/
import ScriptLint.Finding.Codes
import ScriptLint.Proofs.Json.Writers
import ScriptLint.Tree.Ast

namespace ScriptLint

/-! ## Texts -/

/-- What the host keeps of a value when it writes it. -/
abbrev Json.Written (v : Json) : Prop := Json.Keeps (fun _ => True) (fun _ => True) v

/-- The host's text of a value is read by every reader without a limit on whole numbers. -/
theorem Json.read?_compress_written {d : Dialect} (whole : d.wholeLimit = none) {v : Json}
    (h : v.Written) (hdepth : v.nesting ≤ d.maxDepth) : read? d v.compress = some v := by
  refine read?_compress (fun n _ => ?_) h hdepth
  rw [Dialect.takesWhole, whole]
  rfl

/-- Reading each item of a list that was written item by item. -/
theorem mapM_map_eq_some {α β : Type} (read : β → Option α) (write : α → β)
    (h : ∀ a, read (write a) = some a) (l : List α) : (l.map write).mapM read = some l := by
  induction l with
  | nil => rfl
  | cons a rest ih =>
    rw [List.map_cons, List.mapM_cons, h, ih]
    rfl

namespace Record

/-- A record is read from its JSON form. -/
theorem ofJson?_toJson (r : Record) : ofJson? r.toJson = some r := by
  obtain ⟨kind, span, named, parent, field, text⟩ := r
  have hlo : ¬((span.lo : Int) < 0) := by omega
  have hhi : ¬((span.hi : Int) < 0) := by omega
  have hof : Span.of? span.lo span.hi = some span := Span.of?_eq_some_iff.2 ⟨rfl, rfl⟩
  cases field <;> cases text <;>
    simp [ofJson?, toJson, Json.textOf?, Json.get?, Json.member?, Json.str?, Json.nat?, Json.int?,
      Json.bool?, hlo, hhi, hof]

theorem written_toJson (r : Record) : r.toJson.Written := by
  obtain ⟨kind, span, named, parent, field, text⟩ := r
  have hspan : Json.Written (.obj [("lo", .int span.lo), ("hi", .int span.hi)]) := by
    refine .obj (by simp) (fun _ _ => trivial) ?_
    simp only [List.forall_mem_cons]
    exact ⟨.int trivial, .int trivial, fun _ h => nomatch h⟩
  refine .obj ?_ (fun _ _ => trivial) ?_
  · cases field <;> cases text <;> simp
  · intro m hm
    simp only [List.mem_append, List.mem_cons, List.not_mem_nil, or_false, Option.mem_toList,
      Option.map_eq_some_iff] at hm
    rcases hm with ((rfl | rfl | rfl | rfl) | ⟨f, -, rfl⟩) | ⟨t, -, rfl⟩
    · exact .str kind
    · exact hspan
    · exact .bool named
    · exact .int trivial
    · exact .str f
    · exact .str t

theorem nesting_toJson (r : Record) : r.toJson.nesting = 2 := by
  obtain ⟨kind, span, named, parent, field, text⟩ := r
  cases field <;> cases text <;> simp [toJson, Json.nesting, Json.nestingOfMembers]

theorem nestingOfAll_toJson (rs : List Record) : Json.nestingOfAll (rs.map toJson) ≤ 2 := by
  induction rs with
  | nil => decide
  | cons r rest ih =>
    rw [List.map_cons, Json.nestingOfAll, nesting_toJson]
    omega

theorem written_list (rs : List Record) : Json.Written (.arr (rs.map toJson)) := by
  refine .arr fun v hv => ?_
  obtain ⟨r, -, rfl⟩ := List.mem_map.1 hv
  exact written_toJson r

theorem nesting_list (rs : List Record) : (Json.arr (rs.map toJson)).nesting ≤ 3 := by
  have hall := nestingOfAll_toJson rs
  cases rs with
  | nil => decide
  | cons r rest =>
    rw [List.map_cons] at hall
    rw [List.map_cons, Json.nesting]
    omega

theorem listOfText?_compress (rs : List Record) :
    listOfText? (Json.arr (rs.map toJson)).compress = some rs := by
  have hdepth : (Json.arr (rs.map toJson)).nesting ≤ Json.Dialect.standard.maxDepth :=
    Nat.le_trans (nesting_list rs) (by decide)
  simp only [listOfText?, Json.read?_compress_written rfl (written_list rs) hdepth,
    Option.bind_eq_bind, Option.bind_some, Json.items]
  exact mapM_map_eq_some ofJson? toJson ofJson?_toJson rs

/-- The records of a tree are read from the text that is handed to scripts. -/
theorem listOfText?_serialize (source : Bytes) (n : Node) :
    listOfText? (n.serialize source) = some (n.records source) := listOfText?_compress _

end Record

/-- Codes are read from the text that is handed to scripts. -/
theorem Codes.ofText?_serialize (codes : Codes) : ofText? codes.serialize = some codes := by
  have hwritten : Json.Written (.arr (codes.map .str)) := by
    refine .arr fun v hv => ?_
    obtain ⟨c, -, rfl⟩ := List.mem_map.1 hv
    exact .str c
  have hitems : Json.nestingOfAll (codes.map .str) = 0 := by
    clear hwritten
    induction codes with
    | nil => rfl
    | cons c rest ih => simp [Json.nestingOfAll, Json.nesting, ih]
  have hdepth : (Json.arr (codes.map .str)).nesting ≤ Json.Dialect.standard.maxDepth := by
    cases codes with
    | nil => decide
    | cons c rest =>
      rw [List.map_cons] at hitems
      rw [List.map_cons, Json.nesting, hitems]
      decide
  simp only [ofText?, serialize, Json.read?_compress_written rfl hwritten hdepth, Option.bind_eq_bind,
    Option.bind_some, Json.items]
  exact mapM_map_eq_some Json.str? Json.str (fun _ => rfl) codes

/-! ## Rebuilding -/

namespace Ast

/-- Rebuilds the rows of records, the first of them at an index. -/
def attachRecords (records : List Record) (index : Nat) (state : Pending Ast × Option Ast) :
    Pending Ast × Option Ast :=
  ((records.map fun r => (r, parentOf r.parent)).zipIdx index).foldr
    (Pending.completeRow ofRecord) state

theorem attachRecords_append (first second : List Record) (index : Nat)
    (state : Pending Ast × Option Ast) :
    attachRecords (first ++ second) index state =
      attachRecords first index (attachRecords second (index + first.length) state) := by
  simp [attachRecords, List.zipIdx_append]

theorem getD_attach (pending : Pending Ast) {i : Nat} (h : i < pending.length) (child : Ast)
    (j : Nat) : (pending.attach i child).getD j [] =
      if i = j then child :: pending.getD j [] else pending.getD j [] := by
  simp only [Pending.attach, List.getD_eq_getElem?_getD, List.getElem?_modify]
  by_cases hij : i = j
  · subst hij
    simp [List.getElem?_eq_getElem h]
  · simp only [if_neg hij]
    cases pending[j]? <;> rfl

/-- What rebuilding records does to the rows before them: the trees of the records are put before
the children of a row. -/
structure Attached (before after : Pending Ast) (index : Nat) (parent : Option Nat)
    (trees : List Ast) : Prop where
  length_eq : after.length = before.length
  getD_eq : ∀ j < index, after.getD j [] =
    if parent = some j then trees ++ before.getD j [] else before.getD j []

mutual

/-- Rebuilding the records of a tree attaches the tree to its parent. -/
theorem attached_recordsFrom (source : Bytes) (field : Option String) (parent : Int) (index : Nat)
    (hparent : parent < index) : (n : Node) → (state : Pending Ast × Option Ast) →
      index + (n.recordsFrom source field parent index).length ≤ state.1.length →
      (∀ j, index ≤ j → j < index + (n.recordsFrom source field parent index).length →
        state.1.getD j [] = []) →
      Attached state.1 (attachRecords (n.recordsFrom source field parent index) index state).1 index
        (parentOf parent) [ofNodeAt source field n] ∧
      (attachRecords (n.recordsFrom source field parent index) index state).2 =
        some (ofNodeAt source field n)
  | .mk label children, state, hroom, hfree => by
    rw [Node.recordsFrom, List.length_cons] at hroom hfree
    obtain ⟨hlen, hget⟩ := attached_recordsOfAll source index (index + 1) (by omega) children state
      (by omega) (fun j h₁ h₂ => hfree j (by omega) (by omega))
    -- the children of the record stand in its row when its turn comes
    have hrow := hget index (by omega)
    rw [if_pos rfl, hfree index (by omega) (by omega), List.append_nil] at hrow
    have hstep : attachRecords ((Node.mk label children).recordsFrom source field parent index) index
        state = Pending.completeRow ofRecord
          ((Record.ofNode source field parent (.mk label children), parentOf parent), index)
          (attachRecords (Node.recordsOfAll source index (index + 1) children) (index + 1) state) :=
      rfl
    rw [hstep]
    unfold Pending.completeRow
    have hnode : ofRecord (Record.ofNode source field parent (.mk label children))
        (ofNodes source children) = ofNodeAt source field (.mk label children) := by
      rw [ofNodeAt]
      rfl
    simp only [hrow, hnode]
    cases hp : parentOf parent with
    | none =>
      refine ⟨⟨hlen, fun j hj => ?_⟩, rfl⟩
      rw [hget j (by omega), if_neg (by simp; omega), if_neg (by simp)]
    | some p =>
      have hlt : p < index := by
        unfold parentOf at hp
        split at hp
        · cases hp
        · simp only [Option.some.injEq] at hp
          omega
      refine ⟨⟨?_, fun j hj => ?_⟩, rfl⟩
      · simp only [Pending.attach, List.length_modify]
        exact hlen
      · rw [getD_attach _ (by omega), hget j (by omega)]
        have hne : ¬(index = j) := by omega
        simp only [Option.some.injEq, if_neg hne, List.singleton_append]

/-- Rebuilding the records of a list of trees attaches them to their parent in their order. -/
theorem attached_recordsOfAll (source : Bytes) (parent index : Nat) (hparent : parent < index) :
    (ns : List Node) → (state : Pending Ast × Option Ast) →
      index + (Node.recordsOfAll source parent index ns).length ≤ state.1.length →
      (∀ j, index ≤ j → j < index + (Node.recordsOfAll source parent index ns).length →
        state.1.getD j [] = []) →
      Attached state.1 (attachRecords (Node.recordsOfAll source parent index ns) index state).1 index
        (some parent) (ofNodes source ns)
  | [], state, _, _ => by
    refine ⟨rfl, fun j _ => ?_⟩
    rw [ofNodes, List.nil_append, ite_self]
    rfl
  | n :: rest, state, hroom, hfree => by
    rw [Node.recordsOfAll] at hroom hfree ⊢
    simp only [List.length_append] at hroom hfree ⊢
    generalize hrecords : n.recordsFrom source n.field? parent index = records at hroom hfree ⊢
    obtain ⟨hlen, hget⟩ := attached_recordsOfAll source parent (index + records.length) (by omega)
      rest state (by omega) (fun j h₁ h₂ => hfree j (by omega) (by omega))
    rw [attachRecords_append]
    generalize attachRecords (Node.recordsOfAll source parent (index + records.length) rest)
      (index + records.length) state = state' at hlen hget
    -- the rows of the first tree are still free when its turn comes
    have hfirst := attached_recordsFrom source n.field? parent index (by omega) n state'
      (by rw [hrecords]; omega) (fun j h₁ h₂ => by
        rw [hrecords] at h₂
        have hne : ¬(some parent = some j) := by simp; omega
        rw [hget j h₂, if_neg hne]
        exact hfree j h₁ (by omega))
    rw [hrecords] at hfirst
    obtain ⟨⟨hlen', hget'⟩, -⟩ := hfirst
    have hp : parentOf (parent : Int) = some parent := by simp [parentOf]
    refine ⟨hlen'.trans hlen, fun j hj => ?_⟩
    rw [hget' j hj, hget j (by omega), hp, ofNodes]
    split <;> simp

end

/-- The tree that scripts build from the records of a tree is this tree. -/
theorem ofRecords?_records (source : Bytes) (n : Node) :
    ofRecords? (n.records source) = some (ofNode source n) := by
  have hattached := attached_recordsFrom source none (-1) 0 (by decide) n
    (List.replicate (n.recordsFrom source none (-1) 0).length [], none) (by simp) (fun j _ hj => by
      rw [Nat.zero_add] at hj
      simp [List.getD_eq_getElem?_getD, hj])
  rw [ofRecords?, assemble, List.length_map]
  exact hattached.2

end Ast

end ScriptLint

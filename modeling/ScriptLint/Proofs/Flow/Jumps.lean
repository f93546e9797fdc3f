/-
A jump out of a statement shows in its text: a run that ends with a `break` or a `continue` has one
of them inside the statement and outside of nested functions, which is what the analysis looks for
in the bodies of loops that run at least once.
-/
import ScriptLint.Proofs.Flow.Completion

namespace ScriptLint.Flow

/-! ## Where jumps are looked for -/

theorem anyExitsLoop_iff {ns : List Node} :
    anyExitsLoop ns = true ↔ ∃ n ∈ ns, exitsLoop n = true := by
  induction ns with
  | nil => simp [anyExitsLoop]
  | cons n rest ih => simp [anyExitsLoop, ih]

theorem exitsLoop_iff {n : Node} : exitsLoop n = true ↔
    n.kind ∈ loopExitKinds ∨ n.kind ∉ functionKinds ∧ ∃ c ∈ n.children, exitsLoop c = true := by
  cases n with
  | mk label children =>
    simp [exitsLoop, Node.kind, Node.label, Node.children, anyExitsLoop_iff]

/-- What holds a jump exits, unless it is a function. -/
theorem exitsLoop_of_child {n c : Node} (function : n.kind ∉ functionKinds) (hc : c ∈ n.children)
    (h : exitsLoop c = true) : exitsLoop n = true :=
  exitsLoop_iff.2 (.inr ⟨function, c, hc, h⟩)

theorem not_function_of_nesting {n : Node} (h : n.kind ∈ nestingKinds) : n.kind ∉ functionKinds := by
  revert h
  generalize n.kind = kind
  revert kind
  decide

theorem not_function_of_case {n : Node} (h : n.kind ∈ caseKinds) : n.kind ∉ functionKinds := by
  revert h
  generalize n.kind = kind
  revert kind
  decide

/-- Whether a task has a jump in it that could leave a loop. -/
def Task.Exits : Task → Prop
  | .statement _ n | .inside _ n => exitsLoop n = true
  | .list ns | .cases ns => ∃ n ∈ ns, exitsLoop n = true
  | .rounds _ n | .round _ n | .guarded n | .clause n => ∃ c ∈ n.children, exitsLoop c = true

/-! ## Runs that end with a jump -/

theorem Completion.isJump_takeBreak {label : Option String} {c : Completion}
    (h : (c.takeBreak label).isJump = true) : c.isJump = true := by
  unfold takeBreak at h
  split at h
  · cases h
  · exact h

theorem Completion.isJump_override {c finalizer : Completion}
    (h : (c.override finalizer).isJump = true) : c.isJump = true ∨ finalizer.isJump = true := by
  unfold override at h
  split at h
  · exact .inl h
  · exact .inr h

variable {source : Bytes} {task : Task} {c : Completion} {reached : List Node}

/-- A run that ends with a jump is the run of a task that has one. -/
theorem Runs.exits (r : Runs source task c reached) (jump : c.isJump = true) : task.Exits := by
  -- what absorbs a jump hands on only jumps that were there, so each case looks one node further in
  induction r with
  | unfinished | returns | plain | fails | nil | noConsequence | noAlternative | noRounds | testFails
  | left | without | noLabelled | noCase | noCases | noGuarded | bindingFails | noClause => cases jump
  | reached _ ih => exact ih jump
  | breaks kind => exact exitsLoop_iff.2 (.inl (by rw [kind]; decide))
  | continues kind => exact exitsLoop_iff.2 (.inl (by rw [kind]; decide))
  | skip _ _ ih | skipCase _ _ ih =>
    obtain ⟨n, hn, h⟩ := ih jump
    exact ⟨n, List.mem_cons_of_mem _ hn, h⟩
  | next _ _ _ _ ih =>
    obtain ⟨n, hn, h⟩ := ih jump
    exact ⟨n, List.mem_cons_of_mem _ hn, h⟩
  | stop _ _ _ ih => exact ⟨_, List.mem_cons_self, ih jump⟩
  | block kind _ ih =>
    obtain ⟨n, hn, h⟩ := ih jump
    exact exitsLoop_of_child (not_function_of_nesting (by rw [kind]; decide))
      (Node.mem_children_of_mem_namedChildren hn) h
  | consequence kind part _ ih | within kind part _ ih =>
    exact exitsLoop_of_child (not_function_of_nesting (by rw [kind]; decide))
      (Node.mem_children_of_child? part) (ih jump)
  | alternative kind part clause _ ih =>
    obtain ⟨n, hn, h⟩ := ih jump
    exact exitsLoop_of_child (not_function_of_nesting (by rw [kind]; decide))
      (Node.mem_children_of_child? part) (exitsLoop_of_child (by rw [clause]; decide)
        (Node.mem_children_of_mem_namedChildren hn) h)
  | loop kind _ ih =>
    obtain ⟨n, hn, h⟩ := ih jump
    exact exitsLoop_of_child (not_function_of_nesting (List.mem_append_right _ kind)) hn h
  | once kind _ ih =>
    obtain ⟨n, hn, h⟩ := ih jump
    exact exitsLoop_of_child (not_function_of_nesting (by rw [kind]; decide)) hn h
  | tested _ ih | noBody _ _ ih => exact ih jump
  | again _ _ _ _ _ ih => exact ih jump
  | abrupt part _ _ _ ih => exact ⟨_, Node.mem_children_of_child? part, ih jump⟩
  | labelled kind part _ ih =>
    exact exitsLoop_of_child (not_function_of_nesting (by rw [kind]; decide))
      (Node.mem_children_of_child? part) (ih (Completion.isJump_takeBreak jump))
  | enter kind part clause split _ ih =>
    obtain ⟨n, hn, h⟩ := ih (Completion.isJump_takeBreak jump)
    have hmem := split ▸ List.mem_append_right _ hn
    exact exitsLoop_of_child (not_function_of_nesting (by rw [kind]; decide))
      (Node.mem_children_of_child? part) (exitsLoop_of_child (by rw [clause]; decide)
        (Node.mem_children_of_mem_namedChildren hmem) h)
  | fallThrough _ _ _ _ ih =>
    obtain ⟨n, hn, h⟩ := ih jump
    exact ⟨n, List.mem_cons_of_mem _ hn, h⟩
  | stopCase kind _ _ ih =>
    obtain ⟨n, hn, h⟩ := ih jump
    exact ⟨_, List.mem_cons_self,
      exitsLoop_of_child (not_function_of_case kind) (Node.mem_children_of_mem_childrenAt hn) h⟩
  | attempt kind _ _ ih =>
    obtain ⟨n, hn, h⟩ := ih jump
    exact exitsLoop_of_child (not_function_of_nesting (by rw [kind]; decide)) hn h
  | finalized kind final clause _ _ _ ih ihf =>
    have htry := not_function_of_nesting (by rw [kind]; decide)
    rcases Completion.isJump_override jump with jump | jump
    · obtain ⟨n, hn, h⟩ := ih jump
      exact exitsLoop_of_child htry hn h
    · obtain ⟨n, hn, h⟩ := ihf jump
      exact exitsLoop_of_child htry (Node.mem_children_of_child? final)
        (exitsLoop_of_child (by rw [clause]; decide) hn h)
  | body part _ _ ih => exact ⟨_, Node.mem_children_of_child? part, ih jump⟩
  | handled _ _ handler clause _ _ ih =>
    obtain ⟨n, hn, h⟩ := ih jump
    exact ⟨_, Node.mem_children_of_child? handler, exitsLoop_of_child (by rw [clause]; decide) hn h⟩
  | clause part _ ih => exact ⟨_, Node.mem_children_of_child? part, ih jump⟩

end ScriptLint.Flow

/-
The analysis is right about the runs of statements. A statement that it takes for one that stops
never completes normally (`Runs.sound`), and a run of a list reaches only statements that have a
mark which does not call them unreachable (`Runs.live`). Both go by induction on the run; the
second needs the first where a list goes on after a statement.
-/
import ScriptLint.Proofs.Flow.Jumps
import ScriptLint.Proofs.Flow.Statements

namespace ScriptLint.Flow

variable {source : Bytes} {task : Task} {c : Completion} {reached : List Node}

/-! ## Kinds -/

theorem isSimple_of_plain {n : Node} (jump : n.kind ∉ terminatorKinds)
    (nesting : n.kind ∉ nestingKinds) : isSimple n = true := by
  have covered : ∀ kind ∈ terminatorKinds ++ ["statement_block", "if_statement", "try_statement",
      "switch_statement", "do_statement"] ++ openKinds,
      kind ∈ terminatorKinds ∨ kind ∈ nestingKinds := by decide
  simp only [isSimple, Bool.not_eq_true', List.contains_eq_mem, decide_eq_false_iff_not]
  intro h
  rcases covered _ h with h | h
  · exact jump h
  · exact nesting h

/-- What stands between statements is passed over or is taken for a simple statement. -/
theorem isSimple_of_trivia {n : Node} (trivia : isTrivia n = true) : isSimple n = true := by
  have kinds : ∀ kind ∈ triviaKinds, kind ∉ terminatorKinds ∧ kind ∉ nestingKinds := by decide
  obtain ⟨jump, nesting⟩ := kinds _ (List.contains_iff_mem.1 trivia)
  exact isSimple_of_plain jump nesting

theorem not_skipped_of_statement {n : Node} (h : isTrivia n = false) : isSkipped n = false := by
  have kinds : ∀ kind ∈ skippedKinds, kind ∈ triviaKinds := by decide
  rw [Bool.eq_false_iff] at h ⊢
  exact fun hs => h (List.contains_iff_mem.2 (kinds _ (List.contains_iff_mem.1 hs)))

theorem not_skipped_of_case {n : Node} (h : n.kind ∈ caseKinds) : isSkipped n = false := by
  have kinds : ∀ kind ∈ caseKinds, skippedKinds.contains kind = false := by decide
  exact kinds _ h

theorem openKinds_of_loop {n : Node} (h : n.kind ∈ loopKinds) : n.kind ∈ openKinds := by
  have kinds : ∀ kind ∈ loopKinds, kind ∈ openKinds := by decide
  exact kinds _ h

/-! ## Normal completion -/

/-- The analysis does not take a task that has completed normally for one that stops. -/
def Task.Passes (dead : Bool) : Task → Prop
  | .statement _ n => (visit dead n).stops = false
  | .inside _ n => (Flow.statement dead n).stops = false
  | .list ns => (block dead ns).stops = false ∧ (alternatives dead ns).stops = false
  | .round _ n => ((partAt dead n "body").stops && !(n.child? "body").any exitsLoop) = false
  | .guarded n => ((partAt dead n "body").stops && (handlerOf dead n).stops) = false
  | .clause n => (partAt dead n "body").stops = false
  | .rounds _ _ | .cases _ => True

theorem handlerOf_some {dead : Bool} {n h : Node} (part : n.child? "handler" = some h) :
    handlerOf dead n = partAt dead h "body" := by
  rw [handlerOf, visitClause_some part]
  rfl

theorem finalizerOf_some {dead : Bool} {n f : Node} (part : n.child? "finalizer" = some f) :
    finalizerOf dead n = partAt dead f "body" := by
  rw [finalizerOf, visitClause_some part]
  rfl

theorem finalizerOf_none {dead : Bool} {n : Node} (part : n.child? "finalizer" = none) :
    finalizerOf dead n = ⟨false, []⟩ := by
  rw [finalizerOf, visitClause_none part]
  rfl

/-- After its body a loop goes on, or it is left, only by a body that completes normally or by a
jump in it. -/
theorem goesOn_or_leaves {labels : List String} {c : Completion}
    (h : c.goesOn labels = true ∨ c.leaves labels = true) : c = .normal ∨ c.isJump = true := by
  cases c with
  | normal => exact .inl rfl
  | broke label | continued label => exact .inr rfl
  | returned | thrown | unfinished => simp [Completion.goesOn, Completion.leaves] at h

/-- A round whose body does not end the loop passes. -/
theorem passes_round {dead : Bool} {labels : List String} {n b : Node} {c : Completion}
    {t : List Node} (part : n.child? "body" = some b) (r : Runs source (.statement [] b) c t)
    (passes : c = .normal → (visit dead b).stops = false)
    (h : c.goesOn labels = true ∨ c.leaves labels = true) : (Task.round labels n).Passes dead := by
  rw [Task.Passes, partAt_some part, part]
  rcases goesOn_or_leaves h with normal | jump
  · rw [passes normal]
    rfl
  · have hexits : exitsLoop b = true := r.exits jump
    simp [hexits]

/-- A task that completes normally is not taken for one that stops. -/
theorem Runs.sound (r : Runs source task c reached) (normal : c = .normal) (dead : Bool) :
    task.Passes dead := by
  -- by induction on the run; each case is the equation of the analysis for this kind of statement
  induction r generalizing dead with
  | unfinished | returns | breaks | continues | fails | testFails | bindingFails => cases normal
  | reached _ ih =>
    rw [Task.Passes, visit_stops]
    exact ih normal dead
  | plain jump nesting => rw [Task.Passes, statement_simple (isSimple_of_plain jump nesting)]
  | nil => exact ⟨by rw [block_nil], by rw [alternatives_nil]⟩
  | @skip n ns c t trivia _ ih =>
    cases hskip : isSkipped n with
    | true =>
      rw [Task.Passes, block_skipped hskip, alternatives_skipped hskip]
      exact ih normal dead
    | false =>
      have hstops : (visit dead n).stops = false := by
        rw [visit_stops, statement_simple (isSimple_of_trivia trivia)]
      rw [Task.Passes, block_cons hskip, alternatives_cons hskip, hstops, Bool.or_false,
        Bool.false_or, Bool.false_or]
      exact ih normal dead
  | next statement _ _ ih ih' =>
    have hskip := not_skipped_of_statement statement
    have hstops : (visit dead _).stops = false := ih rfl dead
    rw [Task.Passes, block_cons hskip, alternatives_cons hskip, hstops, Bool.or_false,
      Bool.false_or, Bool.false_or]
    exact ih' normal dead
  | stop _ _ abrupt => exact absurd normal abrupt
  | block kind _ ih =>
    rw [Task.Passes, statement_block kind]
    exact (ih normal dead).1
  | @consequence labels n s c t kind part _ ih =>
    have hstops : (visit dead s).stops = false := ih normal dead
    rw [Task.Passes]
    cases he : n.child? "alternative" with
    | none => rw [statement_if kind he]
    | some e => rw [statement_if_else kind he, partAt_some part, hstops, Bool.false_and]
  | @noConsequence labels n kind part =>
    rw [Task.Passes]
    cases he : n.child? "alternative" with
    | none => rw [statement_if kind he]
    | some e => rw [statement_if_else kind he, partAt_none part, Bool.false_and]
  | alternative kind part _ _ ih =>
    rw [Task.Passes, statement_if_else kind part, (ih normal dead).2, Bool.and_false]
  | noAlternative kind part => rw [Task.Passes, statement_if kind part]
  | loop kind _ _ => rw [Task.Passes, statement_open (openKinds_of_loop kind)]
  | once kind _ ih =>
    rw [Task.Passes, statement_do kind]
    exact ih normal dead
  | noRounds | tested | noCases | skipCase | fallThrough | stopCase => trivial
  | again part body goes _ ih _ => exact passes_round part body (fun h => ih h dead) (.inl goes)
  | left part body leaves ih => exact passes_round part body (fun h => ih h dead) (.inr leaves)
  | abrupt _ _ stays => rw [normal] at stays; cases stays
  | noBody part _ _ => rw [Task.Passes, partAt_none part, Bool.false_and]
  | within kind _ _ _ | without kind =>
    rw [Task.Passes, statement_open (by rw [kind]; decide)]
  | labelled kind _ _ _ | noLabelled kind _ =>
    rw [Task.Passes, statement_open (by rw [kind]; decide)]
  -- the analysis takes no switch for one that stops
  | @noCase labels n kind | @enter labels n _ _ _ _ _ kind _ _ _ _ _ =>
    rw [Task.Passes]
    cases hb : n.child? "body" with
    | none => rw [statement_switch_none kind hb]
    | some b => rw [statement_switch kind hb]
  | @attempt labels n c t kind final _ ih =>
    have hnone : n.child? "finalizer" = none := by
      rcases final with h | h
      · exact h
      · rw [normal] at h
        cases h
    rw [Task.Passes, statement_try kind, finalizerOf_none hnone, Bool.false_or]
    exact ih normal dead
  | @finalized labels n f c t c' t' kind final clause _ _ _ ih ih' =>
    -- the finalizer completed normally, and so did what it followed
    have hfinal : c' = .normal := by
      by_contra h
      rw [Completion.override, if_neg h] at normal
      exact h normal
    rw [Completion.override, if_pos hfinal] at normal
    have hstops : (partAt dead f "body").stops = false := ih' hfinal dead
    rw [Task.Passes, statement_try kind, finalizerOf_some final, hstops, Bool.false_or]
    exact ih normal dead
  | body part _ _ ih =>
    have hstops : (visit dead _).stops = false := ih normal dead
    rw [Task.Passes, partAt_some part, hstops, Bool.false_and]
  | noGuarded part => rw [Task.Passes, partAt_none part, Bool.false_and]
  | handled _ _ handler _ _ _ ih =>
    have hstops : (partAt dead _ "body").stops = false := ih normal dead
    rw [Task.Passes, handlerOf_some handler, hstops, Bool.and_false]
  | clause part _ ih =>
    rw [Task.Passes, partAt_some part]
    exact ih normal dead
  | noClause part => rw [Task.Passes, partAt_none part]

/-! ## Statements that are reached -/

/-- Whether marks have one for a statement that does not call it unreachable. -/
def Live (marks : List Mark) (n : Node) : Prop :=
  ∃ m ∈ marks, m.node = n ∧ m.unreachable = false

theorem Live.mono {first second : List Mark} {n : Node} (h : Live first n)
    (sub : ∀ m ∈ first, m ∈ second) : Live second n := by
  obtain ⟨m, hm, hn⟩ := h
  exact ⟨m, sub m hm, hn⟩

theorem Live.left {first second : List Mark} {n : Node} (h : Live first n) :
    Live (first ++ second) n := h.mono fun _ hm => List.mem_append_left _ hm

theorem Live.right {first second : List Mark} {n : Node} (h : Live second n) :
    Live (first ++ second) n := h.mono fun _ hm => List.mem_append_right _ hm

/-- The analysis of a task, if control reaches it, makes a mark for a statement that does not call
it unreachable. -/
def Task.Covers (x : Node) : Task → Prop
  | .statement _ n => Live (visit false n).marks x
  | .inside _ n => Live (Flow.statement false n).marks x
  | .list ns =>
    Live (block false ns).marks x ∧ ∃ s ∈ ns, isSkipped s = false ∧ Live (visit false s).marks x
  | .cases ns => Live (Flow.cases false ns) x
  | .rounds _ n | .round _ n | .clause n => Live (partAt false n "body").marks x
  | .guarded n => Live ((partAt false n "body").marks ++ (handlerOf false n).marks) x

theorem live_alternatives {x s : Node} {ns : List Node} (hs : s ∈ ns) (skipped : isSkipped s = false)
    (h : Live (visit false s).marks x) : Live (alternatives false ns).marks x := by
  induction ns with
  | nil => cases hs
  | cons n rest ih =>
    cases hn : isSkipped n with
    | true =>
      rw [alternatives_skipped hn]
      rcases List.mem_cons.1 hs with rfl | hs
      · rw [hn] at skipped
        cases skipped
      · exact ih hs
    | false =>
      rw [alternatives_cons hn]
      rcases List.mem_cons.1 hs with rfl | hs
      · exact h.left
      · exact (ih hs).right

/-- Every statement that a run reaches is covered by the analysis of the task. -/
theorem Runs.live (r : Runs source task c reached) {x : Node} (hx : x ∈ reached) :
    task.Covers x := by
  induction r with
  | unfinished | returns | breaks | continues | plain | fails | nil | noConsequence | noAlternative
  | noRounds | testFails | without | noLabelled | noCase | noCases | noGuarded | noClause => cases hx
  | reached _ ih =>
    rw [Task.Covers, visit_marks]
    rcases List.mem_cons.1 hx with rfl | hx
    · exact .right ⟨_, List.mem_singleton_self _, rfl, rfl⟩
    · exact (ih hx).left
  | @skip n ns c t trivia _ ih =>
    obtain ⟨hblock, s, hs, hskip, hlive⟩ := ih hx
    refine ⟨?_, s, List.mem_cons_of_mem _ hs, hskip, hlive⟩
    cases hn : isSkipped n with
    | true => rwa [block_skipped hn]
    | false =>
      have hstops : (visit false n).stops = false := by
        rw [visit_stops, statement_simple (isSimple_of_trivia trivia)]
      rw [block_cons hn, hstops]
      exact hblock.right
  | @next n ns c t t' statement first _ ih ih' =>
    have hskip := not_skipped_of_statement statement
    rcases List.mem_append.1 hx with hx | hx
    · refine ⟨?_, n, List.mem_cons_self, hskip, ih hx⟩
      rw [block_cons hskip]
      exact Live.left (ih hx)
    · -- the statement has completed, so the list goes on in code that is reached
      have hstops : (visit false n).stops = false := first.sound rfl false
      obtain ⟨hblock, s, hs, hskip', hlive⟩ := ih' hx
      refine ⟨?_, s, List.mem_cons_of_mem _ hs, hskip', hlive⟩
      rw [block_cons hskip, hstops]
      exact hblock.right
  | @stop n ns c t statement _ _ ih =>
    have hskip := not_skipped_of_statement statement
    refine ⟨?_, n, List.mem_cons_self, hskip, ih hx⟩
    rw [block_cons hskip]
    exact Live.left (ih hx)
  | block kind _ ih =>
    rw [Task.Covers, statement_block kind]
    exact (ih hx).1
  | @consequence labels n s c t kind part _ ih =>
    have hlive : Live (partAt false n "consequence").marks x := by
      rw [partAt_some part]
      exact ih hx
    rw [Task.Covers]
    cases he : n.child? "alternative" with
    | none =>
      rw [statement_if kind he]
      exact hlive.right
    | some e =>
      rw [statement_if_else kind he]
      exact hlive.right.left
  | alternative kind part _ _ ih =>
    obtain ⟨-, s, hs, hskip, hlive⟩ := ih hx
    rw [Task.Covers, statement_if_else kind part]
    exact (live_alternatives hs hskip hlive).right
  | loop kind _ ih =>
    rw [Task.Covers, statement_open (openKinds_of_loop kind)]
    exact Live.right (ih hx)
  | once kind _ ih =>
    rw [Task.Covers, statement_do kind]
    exact Live.left (ih hx)
  | tested _ ih | noBody _ _ ih => exact ih hx
  | again part _ _ _ ih ih' =>
    rcases List.mem_append.1 hx with hx | hx
    · rw [Task.Covers, partAt_some part]
      exact ih hx
    · exact ih' hx
  | left part _ _ ih | abrupt part _ _ _ ih | clause part _ ih =>
    rw [Task.Covers, partAt_some part]
    exact ih hx
  | within kind part _ ih | labelled kind part _ ih =>
    rw [Task.Covers, statement_open (by rw [kind]; decide), partAt_some part]
    exact Live.right (ih hx)
  | @enter labels n b before entered c t kind part _ split _ ih =>
    rw [Task.Covers, statement_switch kind part, split]
    refine Live.right ?_
    -- the clauses before the one that is entered add marks of their own
    clear split
    induction before with
    | nil => exact ih hx
    | cons n before ih' =>
      rw [List.cons_append]
      cases hn : isSkipped n with
      | true => rwa [cases_skipped hn]
      | false =>
        rw [cases_cons hn]
        exact ih'.right
  | @skipCase n ns c t trivia _ ih =>
    rw [Task.Covers]
    cases hn : isSkipped n with
    | true =>
      rw [cases_skipped hn]
      exact ih hx
    | false =>
      rw [cases_cons hn]
      exact Live.right (ih hx)
  | fallThrough kind _ _ ih ih' =>
    rw [Task.Covers, cases_cons (not_skipped_of_case kind)]
    rcases List.mem_append.1 hx with hx | hx
    · exact (ih hx).1.right.left
    · exact Live.right (ih' hx)
  | stopCase kind _ _ ih =>
    rw [Task.Covers, cases_cons (not_skipped_of_case kind)]
    exact (ih hx).1.right.left
  | attempt kind _ _ ih =>
    rw [Task.Covers, statement_try kind]
    exact Live.left (ih hx)
  | finalized kind final _ _ _ _ ih ih' =>
    rw [Task.Covers, statement_try kind, finalizerOf_some final]
    rcases List.mem_append.1 hx with hx | hx
    · exact Live.left (ih hx)
    · exact Live.right (ih' hx)
  | body part _ _ ih | bindingFails part _ _ ih =>
    rw [Task.Covers, partAt_some part]
    exact Live.left (ih hx)
  | handled part _ handler _ _ ih ih' =>
    rw [Task.Covers, partAt_some part, handlerOf_some handler]
    rcases List.mem_append.1 hx with hx | hx
    · exact Live.left (ih hx)
    · exact Live.right (ih' hx)

end ScriptLint.Flow

/-
One run of a plugin over a program, for every engine. `Runner.calls` lists the calls of the host in
a run: those of the evaluation, if it takes place, and those of the rules, if it comes to that.
A run hands on all findings or none: none if it fails, and otherwise exactly those that these calls
reported, grouped by code (`run_allOrNothing`).
-/
import ScriptLint.Plugin.Runner
import ScriptLint.Proofs.Host.Reported

namespace ScriptLint.Runner

variable {σ : Type}

/-! ## The calls of a run -/

/-- The calls of the evaluation in a pass with some control flow; none if it has been done. -/
def evaluationCalls (r : Runner σ) (flow : Option ControlFlow) : List Call :=
  if r.evaluated then []
  else (r.engine.evaluate r.realm).calls (r.begin flow).host.clearFailures

/-- The calls of the rules of an evaluated plugin that is about to collect. -/
def ruleCalls (r : Runner σ) (program : Program) : List Call :=
  (r.engine.runRules (program.root.serialize program.source) r.registered.serialize r.realm).calls
    r.host.clearFailures

/-- The calls of a run over a program. -/
def calls (r : Runner σ) (context : Context) (program : Program) : List Call :=
  r.evaluationCalls context.flow ++
    match (r.begin context.flow).prepare with
    | (.error _, _) => []
    | (.ok (), ready) => if ready.registered.isEmpty then [] else ready.ruleCalls program

/-! ## Executing -/

theorem execute_snd (r : Runner σ) (place : String)
    (script : σ → Script (Except Thrown Unit × σ)) :
    (r.execute place script).2 =
      { r with
        realm := ((script r.realm).run r.host.clearFailures).1.2
        host := ((script r.realm).run r.host.clearFailures).2 } := rfl

/-! ## Preparing -/

/-- After a successful preparation the host holds what the evaluation reported, and the codes
that it registered have been taken. -/
theorem prepare_ok {r ready : Runner σ} {flow : Option ControlFlow}
    (h : (r.begin flow).prepare = (.ok (), ready)) :
    ready.evaluated = true ∧ ready.engine = r.engine ∧
      ready.host.reported = Reported.addAll (reportsOf (r.evaluationCalls flow)) [] ∧
      ready.registered =
        Codes.insertAll (Codes.insertAll (codesOf (r.evaluationCalls flow)) []) r.registered := by
  unfold prepare at h
  cases he : r.evaluated with
  | true =>
    have hb : (r.begin flow).evaluated = true := he
    simp only [hb, if_true, Prod.mk.injEq, true_and] at h
    subst h
    simp only [evaluationCalls, he, if_true]
    exact ⟨trivial, rfl, rfl, rfl⟩
  | false =>
    have hb : (r.begin flow).evaluated = false := he
    rw [hb] at h
    simp only [Bool.false_eq_true, if_false, execute_snd] at h
    split at h
    · cases h
    · simp only [Prod.mk.injEq, true_and] at h
      subst h
      simp only [evaluationCalls, he, HostState.takeCodes, Bool.false_eq_true, if_false]
      refine ⟨trivial, rfl, ?_, ?_⟩
      · exact Script.run_reported _ _
      · exact congrArg (Codes.insertAll · r.registered) (Script.run_codes _ _)

/-- A preparation fails only where the evaluation takes place, and then it leaves the plugin
unevaluated and its codes as they were. -/
theorem prepare_error {r ready : Runner σ} {flow : Option ControlFlow} {f : Failure}
    (h : (r.begin flow).prepare = (.error f, ready)) :
    r.evaluated = false ∧ ready.evaluated = false ∧ ready.engine = r.engine ∧
      ready.registered = r.registered := by
  unfold prepare at h
  cases he : r.evaluated with
  | true =>
    have hb : (r.begin flow).evaluated = true := he
    simp [hb] at h
  | false =>
    have hb : (r.begin flow).evaluated = false := he
    rw [hb] at h
    simp only [Bool.false_eq_true, if_false, execute_snd] at h
    split at h
    · simp only [Prod.mk.injEq] at h
      obtain ⟨-, rfl⟩ := h
      exact ⟨rfl, he, rfl, rfl⟩
    · cases h

/-! ## Collecting -/

/-- A collection reports nothing if it fails, else all findings that the host holds. It changes
nothing of the plugin but its realm and its host. -/
theorem collect_cases (r : Runner σ) (program : Program) :
    ∃ realm host,
      (∃ f, r.collect program =
        (⟨[], r.registered, some f⟩, { r with realm := realm, host := host })) ∨
      r.collect program =
        (⟨(Reported.addAll (reportsOf (r.ruleCalls program)) r.host.reported).toDiagnostics,
          r.registered, none⟩, { r with realm := realm, host := host }) := by
  unfold collect
  dsimp only
  split
  · rename_i f _ he
    rw [Prod.ext_iff] at he
    obtain ⟨-, rfl⟩ := he
    exact ⟨_, _, .inl ⟨f, rfl⟩⟩
  · rename_i _ he
    rw [Prod.ext_iff] at he
    obtain ⟨-, rfl⟩ := he
    simp only [execute_snd, HostState.takeReported, Reported.handOn_entries]
    rw [Script.run_reported]
    exact ⟨_, _, .inr rfl⟩

/-! ## All or nothing -/

/-- A run that fails adds no finding to its context. A run that does not fail adds, if a rule is
registered, the findings of all its accepted calls, grouped by code in the order in which the
codes were first accepted and in the order of the calls within a code, and otherwise nothing.
Handing them on one by one does not stop halfway. -/
theorem run_allOrNothing (r : Runner σ) (context : Context) (program : Program) :
    (match (r.run context program).1.failure with
      | some _ => (context.add (r.run context program).1).findings = context.findings
      | none => (context.add (r.run context program).1).findings = context.findings ++
          if (r.run context program).2.registered.isEmpty then []
          else (Reported.grouped (reportsOf (r.calls context program))).toDiagnostics) ∧
      Reported.handOn (Reported.grouped (reportsOf (r.calls context program))).entries =
        ((Reported.grouped (reportsOf (r.calls context program))).toDiagnostics, none) := by
  refine ⟨?_, Reported.handOn_entries _⟩
  unfold run calls
  rcases hp : (r.begin context.flow).prepare with ⟨f | u, ready⟩
  · simp [Report.failed, Context.add]
  · by_cases hempty : ready.registered.isEmpty = true
    · simp [hempty, Report.complete, Context.add]
    · obtain ⟨-, -, hreported, -⟩ := prepare_ok hp
      simp only [hempty, if_false, Bool.false_eq_true]
      obtain ⟨realm, host, ⟨f, hc⟩ | hc⟩ := collect_cases ready program
      · simp [hc, Context.add]
      · simp only [hc, Context.add, hempty, if_false, Bool.false_eq_true]
        -- the rules add to what the evaluation of the same pass has reported
        rw [← Reported.addAll_nil, hreported]
        simp [reportsOf, Reported.addAll]

end ScriptLint.Runner

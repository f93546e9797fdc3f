/-
Passes of one plugin do not reach into each other. What a script asks and is answered depends on the
control flow of the pass and on nothing else that the host holds, and the registered codes are the
same from the first pass on that succeeds. So a pass reports what the rules do with the program, the
control flow and the codes (`run_report`), whatever runs lie before it (`runs_isolated`).
-/
import ScriptLint.Proofs.Plugin.Delivery

namespace ScriptLint

theorem Context.start_flow (flow : Option ControlFlow) : (Context.start flow).flow = flow := rfl

namespace Runner

variable {σ : Type} {r ready : Runner σ}

/-! ## What a pass reports -/

/-- What a script does while it runs the rules, given the texts of the records and of the codes. It
is a function of the answers of the host. -/
abbrev Behaviour := String → String → Script (Except Thrown Unit)

/-- Whether the rules of a plugin behave alike in all its passes, whatever has run before. -/
def RunsAlike (r : Runner σ) (behaviour : Behaviour) : Prop :=
  ∀ earlier flow ready, ((r.after earlier).begin flow).prepare = (.ok (), ready) →
    ∀ records codes,
      (·.1) <$> ready.engine.runRules records codes ready.realm = behaviour records codes

/-- What rules report that behave like a script in a pass with a control flow. -/
def ruleReport (script : Script (Except Thrown Unit)) (flow : Option ControlFlow) (codes : Codes) :
    Report :=
  let host : HostState := { HostState.initial with flow := flow }
  match verdict "runPlugins" (script.run host).1 (failuresOf (script.calls host)) with
  | .error f => ⟨[], codes, some f⟩
  | .ok () => ⟨(Reported.grouped (reportsOf (script.calls host))).toDiagnostics, codes, none⟩

/-- What a pass over a program reports if these codes are registered. -/
def passReport (behaviour : Behaviour) (program : Program) (flow : Option ControlFlow)
    (codes : Codes) : Report :=
  if codes.isEmpty then .complete []
  else ruleReport (behaviour (program.root.serialize program.source) codes.serialize) flow codes

theorem passReport_cons (behaviour : Behaviour) (program : Program) (flow : Option ControlFlow)
    (code : String) (codes : Codes) :
    passReport behaviour program flow (code :: codes) =
      ruleReport (behaviour (program.root.serialize program.source) (Codes.serialize (code :: codes)))
        flow (code :: codes) := rfl

theorem collect_fst (r : Runner σ) (program : Program) :
    (r.collect program).1 =
      match verdict "runPlugins" ((r.engine.runRules (program.root.serialize program.source)
          r.registered.serialize r.realm).run r.host.clearFailures).1.1
          (failuresOf (r.ruleCalls program)) with
      | .error f => ⟨[], r.registered, some f⟩
      | .ok () => ⟨(Reported.addAll (reportsOf (r.ruleCalls program)) r.host.reported).toDiagnostics,
          r.registered, none⟩ := by
  have hfailures := Script.run_failures (r.engine.runRules (program.root.serialize program.source)
    r.registered.serialize r.realm) r.host.clearFailures
  have hreported := Script.run_reported (r.engine.runRules (program.root.serialize program.source)
    r.registered.serialize r.realm) r.host.clearFailures
  rw [show r.host.clearFailures.failures = [] from rfl, List.nil_append] at hfailures
  unfold collect execute ruleCalls
  dsimp only
  rw [hfailures]
  split
  · rename_i heq
    obtain ⟨hverdict, rfl⟩ := Prod.mk.inj heq
    rw [hverdict]
  · rename_i heq
    obtain ⟨hverdict, rfl⟩ := Prod.mk.inj heq
    rw [hverdict]
    simp only [HostState.takeReported, hreported, Reported.handOn_entries]
    rfl

/-- A collection reports what the rules do with the control flow that the host holds, if nothing has
been reported before it. -/
theorem collect_report {script : Script (Except Thrown Unit)} {program : Program}
    (h : (·.1) <$> ready.engine.runRules (program.root.serialize program.source)
      ready.registered.serialize ready.realm = script) (hreported : ready.host.reported = []) :
    (ready.collect program).1 = ruleReport script ready.host.flow ready.registered := by
  -- failures are forgotten before the rules run, and of the rest only the control flow counts
  have hflow : ready.host.clearFailures.flow =
      { HostState.initial with flow := ready.host.flow }.flow := rfl
  have hcalls := Script.calls_congr (ready.engine.runRules
    (program.root.serialize program.source) ready.registered.serialize ready.realm) hflow
  rw [collect_fst, hreported, Reported.addAll_nil, Script.run_fst_congr _ hflow, ruleCalls, hcalls,
    ruleReport, ← h, Script.run_map_fst, Script.calls_map]

/-- What rules report shows in the host after them. -/
theorem ruleReport_of_run {script : Script (Except Thrown Unit)} {flow : Option ControlFlow}
    {codes : Codes} {outcome : Except Thrown Unit × HostState}
    (h : script.run { HostState.initial with flow := flow } = outcome) :
    ruleReport script flow codes =
      match verdict "runPlugins" outcome.1 outcome.2.failures with
      | .error f => ⟨[], codes, some f⟩
      | .ok () => ⟨outcome.2.reported.toDiagnostics, codes, none⟩ := by
  have hfailures := script.run_failures { HostState.initial with flow := flow }
  have hreported := script.run_reported { HostState.initial with flow := flow }
  rw [show HostState.initial.failures = [] from rfl, List.nil_append] at hfailures
  rw [show HostState.initial.reported = [] from rfl, Reported.addAll_nil] at hreported
  rw [← h, hfailures, hreported]
  rfl

/-! ## Passes after the evaluation -/

theorem prepare_flow {flow : Option ControlFlow} (h : (r.begin flow).prepare = (.ok (), ready)) :
    ready.host.flow = flow := by
  unfold prepare at h
  cases he : (r.begin flow).evaluated with
  | true =>
    rw [he, if_pos rfl] at h
    obtain ⟨-, rfl⟩ := Prod.mk.inj h
    rfl
  | false =>
    rw [he, if_neg (by decide)] at h
    simp only [execute_snd] at h
    split at h
    · cases h
    · obtain ⟨-, rfl⟩ := Prod.mk.inj h
      exact Script.run_flow _ _

/-- A plugin whose modules report nothing is prepared without findings. -/
theorem prepare_reported {flow : Option ControlFlow}
    (h : (r.begin flow).prepare = (.ok (), ready))
    (hquiet : reportsOf (r.evaluationCalls flow) = []) : ready.host.reported = [] := by
  obtain ⟨-, -, hreported, -⟩ := prepare_ok h
  rw [hreported, hquiet]
  rfl

/-- A run whose preparation succeeds reports what the rules do with the program, its control flow and
the registered codes, if nothing has been reported before them. -/
theorem run_report {behaviour : Behaviour} {context : Context} {program : Program}
    (hprepare : (r.begin context.flow).prepare = (.ok (), ready))
    (hreported : ready.host.reported = [])
    (halike : ∀ records codes,
      (·.1) <$> ready.engine.runRules records codes ready.realm = behaviour records codes) :
    (r.run context program).1 = passReport behaviour program context.flow ready.registered := by
  unfold run passReport
  rw [hprepare]
  dsimp only
  split
  · rfl
  · rw [collect_report (halike _ _) hreported, prepare_flow hprepare]

theorem evaluationCalls_of_evaluated (h : r.evaluated = true) (flow : Option ControlFlow) :
    r.evaluationCalls flow = [] := by
  rw [evaluationCalls, if_pos h]

theorem reportsOf_of_evaluated (h : r.evaluated = true) (flow : Option ControlFlow) :
    reportsOf (r.evaluationCalls flow) = [] := by
  rw [evaluationCalls_of_evaluated h]
  rfl

/-- The preparation of an evaluated plugin succeeds and adds no code. -/
theorem prepare_of_evaluated (h : r.evaluated = true) (flow : Option ControlFlow) :
    ∃ ready, (r.begin flow).prepare = (.ok (), ready) ∧ ready.registered = r.registered := by
  rcases hp : (r.begin flow).prepare with ⟨f | u, ready⟩
  · rw [(prepare_error hp).1] at h
    cases h
  · obtain ⟨-, -, -, hregistered⟩ := prepare_ok hp
    rw [evaluationCalls_of_evaluated h] at hregistered
    exact ⟨ready, rfl, hregistered⟩

/-- A run whose preparation succeeds leaves the plugin evaluated, with the codes it was prepared
with. -/
theorem run_of_prepare {context : Context}
    (h : (r.begin context.flow).prepare = (.ok (), ready)) (program : Program) :
    (r.run context program).2.evaluated = true ∧
      (r.run context program).2.registered = ready.registered := by
  have hevaluated := (prepare_ok h).1
  unfold run
  rw [h]
  dsimp only
  split
  · exact ⟨hevaluated, rfl⟩
  · obtain ⟨realm, host, ⟨f, hc⟩ | hc⟩ := collect_cases ready program
    · rw [hc]
      exact ⟨hevaluated, rfl⟩
    · rw [hc]
      exact ⟨hevaluated, rfl⟩

theorem after_singleton (r : Runner σ) (context : Context) (program : Program) :
    r.after [(context, program)] = (r.run context program).2 := rfl

/-- Once its modules have been evaluated, a plugin keeps its codes. -/
theorem after_of_evaluated (h : r.evaluated = true) (runs : List (Context × Program)) :
    (r.after runs).evaluated = true ∧ (r.after runs).registered = r.registered := by
  induction runs generalizing r with
  | nil => exact ⟨h, rfl⟩
  | cons p rest ih =>
    obtain ⟨context, program⟩ := p
    obtain ⟨ready, hprepare, hregistered⟩ := prepare_of_evaluated h context.flow
    obtain ⟨hevaluated, hrun⟩ := run_of_prepare hprepare program
    obtain ⟨hafter, hcodes⟩ := ih hevaluated
    exact ⟨hafter, hcodes.trans (hrun.trans hregistered)⟩

/-- Runs keep the engine of a plugin. -/
theorem run_engine (r : Runner σ) (context : Context) (program : Program) :
    (r.run context program).2.engine = r.engine := by
  rcases run_cases r context program with
    ⟨f, ready, hprepare, hrun⟩ | ⟨ready, hprepare, -, hrun⟩ | ⟨ready, hprepare, -, hrun⟩
  · obtain ⟨-, -, hengine, -⟩ := prepare_error hprepare
    rw [hrun, hengine]
  · obtain ⟨-, hengine, -⟩ := prepare_ok hprepare
    rw [hrun, hengine]
  · obtain ⟨-, hengine, -⟩ := prepare_ok hprepare
    obtain ⟨realm, host, ⟨f, hc⟩ | hc⟩ := collect_cases ready program
    · rw [hrun, hc, ← hengine]
    · rw [hrun, hc, ← hengine]

theorem after_engine (r : Runner σ) (runs : List (Context × Program)) :
    (r.after runs).engine = r.engine := by
  induction runs generalizing r with
  | nil => rfl
  | cons p rest ih => rw [after, ih, run_engine]

/-- The rules of an engine behave alike in all passes if they behave alike in all states. -/
theorem runsAlike_of_engine {behaviour : Behaviour}
    (h : ∀ records codes realm,
      (·.1) <$> r.engine.runRules records codes realm = behaviour records codes) :
    r.RunsAlike behaviour := by
  intro earlier flow ready hprepare records codes
  obtain ⟨-, hengine, -⟩ := prepare_ok hprepare
  rw [hengine, after_engine]
  exact h records codes ready.realm

/-! ## A plugin with leftovers -/

/-- The finding that the rules of `wary` report. -/
def waryFinding : WireDiagnostic := ⟨⟨0, 3, by decide⟩, "seen", none⟩

/-- The calls of the rules of `wary`: a finding, a code that comes too late to be registered, and a
query that decides how the rules end. -/
def waryScript : Script (Except Thrown Unit) :=
  .ask (.str (Payload.addDiagnostics "c" [waryFinding]).operation)
    (.str (Payload.addDiagnostics "c" [waryFinding]).toJson.plainText) fun _ =>
      .ask (.str (Payload.ruleCode "late").operation)
        (.str (Payload.ruleCode "late").toJson.plainText) fun _ =>
          .ask (.str (Payload.controlFlowQuery waryFinding.span).operation)
            (.str (Payload.controlFlowQuery waryFinding.span).toJson.plainText) fun reply =>
              .done (reply.result.map fun _ => ())

/-- An engine that leaves something behind when it fails. Its modules register a code; its rules ask
for the control flow last, and fail without it. The state counts the passes of the rules. -/
def wary : Engine Nat :=
  { evaluate := fun count =>
      .ask (.str (Payload.ruleCode "c").operation)
        (.str (Payload.ruleCode "c").toJson.plainText) fun _ => .done (.ok (), count)
    runRules := fun _ _ count => waryScript.bind fun ending => .done (ending, count + 1) }

theorem wary_runsAlike (path entryId : String) (count : Nat) :
    (start path entryId wary count).RunsAlike fun _ _ => waryScript :=
  runsAlike_of_engine fun _ _ _ => rfl

theorem run_wary_evaluate (count : Nat) (host : HostState) :
    (wary.evaluate count).run host =
      ((.ok (), count), { host with codes := Codes.insert "c" host.codes }) := by
  show (Script.ask _ _ _).run host = _
  rw [run_ask (p := .ruleCode "c") (fun _ h => nomatch h) rfl]
  rfl

/-- A new plugin is evaluated in its first pass, and registers its code. -/
theorem prepare_wary (context : Context) :
    ∃ ready, ((start "" "" wary 0).begin context.flow).prepare = (.ok (), ready) ∧
      ready.registered = ["c"] ∧ ready.host.reported = [] := by
  have hexecute : ((start "" "" wary 0).begin context.flow).execute "" wary.evaluate = _ :=
    execute_ok (run_wary_evaluate 0 _) rfl
  exact ⟨_, prepare_of_evaluate rfl hexecute, rfl, rfl⟩

/-- The host after the accepted calls of the rules. -/
def waryHost (host : HostState) : HostState :=
  { host with
    reported := host.reported.add "c" [waryFinding]
    codes := Codes.insert "late" host.codes }

/-- The answer to the last call decides how the rules end. -/
theorem run_waryScript (host : HostState) :
    waryScript.run host =
      match (waryHost host).perform (.controlFlowQuery waryFinding.span) with
      | .ok _ => (.ok (), waryHost host)
      | .error f => (.error ⟨f.kind, f.message⟩,
          { waryHost host with failures := host.failures ++ [f] }) := by
  have exact : ∀ s ∈ (Payload.addDiagnostics "c" [waryFinding]).spans, s.IsExact := by decide
  have exact' : ∀ s ∈ (Payload.controlFlowQuery waryFinding.span).spans, s.IsExact := by decide
  have hserve := Payload.serve_plainText (waryHost host) exact'
  rw [waryScript, run_ask exact rfl, run_ask (p := .ruleCode "late") (fun _ h => nomatch h) rfl]
  show (Script.ask _ _ _).run (waryHost host) = _
  rw [Script.run, HostState.dispatch, hserve]
  cases hperform : (waryHost host).perform (.controlFlowQuery waryFinding.span) with
  | error f => rfl
  | ok result =>
    obtain ⟨value, after⟩ := result
    obtain rfl : after = waryHost host := HostState.perform_eq hperform
    rfl

/-- A script that ends with an error ends a run. -/
theorem verdict_error (place : String) (error : Thrown) (failures : List Failure) :
    ∃ f, verdict place (.error error) failures = .error f := by
  unfold verdict
  split
  · exact ⟨_, rfl⟩
  · exact ⟨_, rfl⟩
  · rename_i h
    cases h
  · split <;> exact ⟨_, rfl⟩

/-- Without a control flow the rules fail. -/
theorem ruleReport_wary_none (codes : Codes) :
    (ruleReport waryScript none codes).failure ≠ none := by
  rw [ruleReport_of_run (run_waryScript _)]
  obtain ⟨f, hverdict⟩ := verdict_error "runPlugins"
    ⟨Failure.missingControlFlow.kind, Failure.missingControlFlow.message⟩ [.missingControlFlow]
  simp only [waryHost, HostState.initial, HostState.perform, List.nil_append, hverdict]
  exact Option.some_ne_none f

/-- With a control flow the rules report their finding. -/
theorem ruleReport_wary_empty (codes : Codes) :
    ruleReport waryScript (some .empty) codes = ⟨[waryFinding.withCode "c"], codes, none⟩ := by
  rw [ruleReport_of_run (run_waryScript _)]
  rfl

/-! ## Isolation -/

/-- Two runs of a plugin over the same program with the same control flow report the same, if the
first of them succeeds, whatever runs come before them and between them. The rules have to behave
alike in all passes, and the modules to report nothing in the first run if it evaluates them. -/
theorem runs_isolated {behaviour : Behaviour} (halike : r.RunsAlike behaviour)
    (before between : List (Context × Program)) (program : Program) {context context' : Context}
    (hflow : context'.flow = context.flow)
    (hquiet : reportsOf ((r.after before).evaluationCalls context.flow) = [])
    (hfirst : ((r.after before).run context program).1.failure = none) :
    ((r.after (before ++ (context, program) :: between)).run context' program).1 =
      ((r.after before).run context program).1 := by
  obtain ⟨ready, hprepare⟩ : ∃ ready,
      ((r.after before).begin context.flow).prepare = (.ok (), ready) := by
    rcases run_cases (r.after before) context program with
      ⟨f, ready, -, hrun⟩ | ⟨ready, hprepare, -⟩ | ⟨ready, hprepare, -⟩
    · rw [hrun] at hfirst
      cases hfirst
    · exact ⟨ready, hprepare⟩
    · exact ⟨ready, hprepare⟩
  -- from the first run on, the plugin is evaluated and its codes stay
  obtain ⟨hevaluated, hcodes⟩ := run_of_prepare hprepare program
  obtain ⟨hlater, hkept⟩ := after_of_evaluated hevaluated between
  have hsplit : r.after (before ++ (context, program) :: between) =
      (((r.after before).run context program).2).after between := after_append r before _
  rw [← hsplit] at hlater hkept
  obtain ⟨ready', hprepare', hcodes'⟩ := prepare_of_evaluated hlater context'.flow
  have hquiet' := reportsOf_of_evaluated hlater context'.flow
  rw [run_report hprepare (prepare_reported hprepare hquiet) (halike _ _ _ hprepare),
    run_report hprepare' (prepare_reported hprepare' hquiet') (halike _ _ _ hprepare'),
    hcodes', hkept, hcodes, hflow]

/-- Before and between two passes that know the control flow lie passes that do not, and fail after
they have reported. -/
theorem runs_isolated_wary :
    ((start "" "" wary 0).run (.start none) default).1.failure ≠ none ∧
      (((start "" "" wary 0).after [(.start none, default), (.start (some .empty), default),
          (.start none, default)]).run (.start (some .empty)) default).1 =
        ⟨[waryFinding.withCode "c"], ["c"], none⟩ := by
  have halike := wary_runsAlike "" "" 0
  let blind : Context := .start none
  let knowing : Context := .start (some .empty)
  obtain ⟨ready, hprepare, hcodes, hreported⟩ := prepare_wary blind
  obtain ⟨hevaluated, hregistered⟩ := run_of_prepare hprepare default
  rw [← after_singleton] at hevaluated hregistered
  -- the second run finds the plugin evaluated, with its code
  obtain ⟨again, hagain, hkept⟩ := prepare_of_evaluated hevaluated knowing.flow
  have hquiet := reportsOf_of_evaluated hevaluated knowing.flow
  have hsecond : (((start "" "" wary 0).after [(blind, default)]).run knowing default).1 = _ :=
    run_report hagain (prepare_reported hagain hquiet) (halike [_] _ _ hagain)
  rw [hkept, hregistered, hcodes, passReport_cons, Context.start_flow,
    ruleReport_wary_empty] at hsecond
  have hsame := runs_isolated halike [(blind, default)] [(blind, default)] default rfl hquiet
    (congrArg Report.failure hsecond)
  rw [hsecond] at hsame
  have hfirst : ((start "" "" wary 0).run blind default).1 = _ :=
    run_report hprepare hreported (halike [] _ _ hprepare)
  rw [hcodes, passReport_cons, Context.start_flow] at hfirst
  rw [hfirst]
  exact ⟨ruleReport_wary_none ["c"], hsame⟩

end Runner

end ScriptLint

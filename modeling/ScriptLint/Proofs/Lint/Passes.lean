/-
The two ways of running the sources of a registry agree. Both are described by what the sources
report when each runs in the context that those before it leave: a lint pass hands on all of it
and records the failures of plugins, a strict run stops at the first of them, having done up to
there what the lint pass does.
-/
import ScriptLint.Plugin.Runner
import ScriptLint.Proofs.Lint.History

namespace ScriptLint

namespace Context

/-- Adds reports in order. -/
def addAll (c : Context) (reports : List Report) : Context := reports.foldl add c

theorem addAll_nil (c : Context) : c.addAll [] = c := rfl

theorem addAll_cons (c : Context) (report : Report) (reports : List Report) :
    c.addAll (report :: reports) = (c.add report).addAll reports := rfl

theorem addAll_append (c : Context) (reports more : List Report) :
    c.addAll (reports ++ more) = (c.addAll reports).addAll more := List.foldl_append

theorem addAll_eq (c : Context) (reports : List Report) :
    c.addAll reports = ⟨c.flow, c.findings ++ reports.flatMap (·.findings),
      Codes.insertAll (reports.flatMap (·.pluginCodes)) c.pluginCodes⟩ := by
  induction reports generalizing c with
  | nil => simp [addAll_nil, Codes.insertAll]
  | cons report reports ih => simp [addAll_cons, ih, add, Codes.insertAll]

theorem findings_addAll (c : Context) (reports : List Report) :
    (c.addAll reports).findings = c.findings ++ reports.flatMap (·.findings) := by
  rw [addAll_eq]

theorem flow_addAll (c : Context) (reports : List Report) : (c.addAll reports).flow = c.flow := by
  rw [addAll_eq]

end Context

/-! ## Sources and their reports -/

/-- A source of findings. -/
inductive Source (π : Type) where
  | native (rule : Rule)
  | plugin (plugin : π)

variable {π : Type} [PluginKind π]

/-- What a source reports of a program in a context. -/
def Source.report (program : Program) (context : Context) : Source π → Report
  | .native rule => rule.check context program
  | .plugin p => (PluginKind.run p context program).1

namespace Registry

/-- What sources report that run one after the other, each in the context that those before it
leave, failures or not. -/
def reports (program : Program) : List (Source π) → Context → List Report
  | [], _ => []
  | source :: rest, context =>
    let report := source.report program context
    report :: reports program rest (context.add report)

theorem reports_append (program : Program) (sources more : List (Source π)) (context : Context) :
    reports program (sources ++ more) context = reports program sources context ++
      reports program more (context.addAll (reports program sources context)) := by
  induction sources generalizing context with
  | nil => rfl
  | cons source rest ih => simp [reports, ih, Context.addAll_cons]

/-- Rules that do not fail on a program, whatever the context. -/
def Succeed (program : Program) (rules : List Rule) : Prop :=
  ∀ rule ∈ rules, ∀ context, (rule.check context program).failure = none

/-- Plugins that fail on a program with engine faults only, whatever the context. -/
def OnlyFault (program : Program) (plugins : List π) : Prop :=
  ∀ plugin ∈ plugins, ∀ context failure,
    (PluginKind.run plugin context program).1.failure = some failure → failure.isEngineFault

/-- Native rules that do not fail and plugins that fail with engine faults only. -/
structure IsOrderly (r : Registry π) (program : Program) : Prop where
  natives : Succeed program r.natives
  plugins : OnlyFault program r.plugins

/-- The failures of plugins that run one after the other, with the plugins they come from. -/
def faults (program : Program) : List π → Context → List PluginFailure
  | [], _ => []
  | plugin :: rest, context =>
    let report := (PluginKind.run plugin context program).1
    match report.failure with
    | none => faults program rest (context.add report)
    | some f => ⟨PluginKind.path plugin, f⟩ :: faults program rest (context.add report)

theorem map_failure_faults (program : Program) (plugins : List π) (context : Context) :
    (faults program plugins context).map (·.failure) =
      (reports program (plugins.map .plugin) context).filterMap (·.failure) := by
  induction plugins generalizing context with
  | nil => rfl
  | cons plugin rest ih =>
    rw [List.map_cons, faults, reports]
    dsimp only [Source.report]
    split
    · next h => rw [List.filterMap_cons_none h, ih]
    · next h => rw [List.filterMap_cons_some h, List.map_cons, ih]

/-! ## The loops over sources -/

variable {program : Program}

theorem runNatives_eq {rules : List Rule} (hrules : Succeed program rules) (context : Context) :
    runNatives program rules context =
      (none, context.addAll (reports program (rules.map (Source.native (π := π))) context)) := by
  induction rules generalizing context with
  | nil => rfl
  | cons rule rest ih =>
    obtain ⟨hrule, hrest⟩ := List.forall_mem_cons.1 hrules
    simp only [runNatives, hrule context, ih hrest]
    rfl

/-- The registry after one of its plugins ran. -/
def afterRun (r : Registry π) (index : Nat) (plugin : π) (context : Context)
    (program : Program) : Registry π :=
  (r.runPlugin index plugin context program).2.2

theorem runPlugin_eq (r : Registry π) (index : Nat) (plugin : π) (context : Context) :
    r.runPlugin index plugin context program =
      ((PluginKind.run plugin context program).1.failure,
        context.add (PluginKind.run plugin context program).1,
        r.afterRun index plugin context program) := by
  unfold afterRun runPlugin
  dsimp only
  split <;> next h => rw [h]

theorem lintPluginsFrom_fst {plugins : List π} (hplugins : OnlyFault program plugins)
    (index : Nat) (r : Registry π) (context : Context) (failures : List PluginFailure) :
    (lintPluginsFrom program index plugins r context failures).1 =
      .ok (context.addAll (reports program (plugins.map .plugin) context),
        failures ++ faults program plugins context) := by
  induction plugins generalizing index r context failures with
  | nil => simp [lintPluginsFrom, reports, faults, Context.addAll_nil]
  | cons plugin rest ih =>
    obtain ⟨hplugin, hrest⟩ := List.forall_mem_cons.1 hplugins
    rw [lintPluginsFrom, faults, List.map_cons, reports, Context.addAll_cons]
    dsimp only [Source.report]
    cases hfailure : (PluginKind.run plugin context program).1.failure with
    | none => simp only [runPlugin_eq, hfailure, ih hrest]
    | some f =>
      have hfault := hplugin context f hfailure
      simp only [runPlugin_eq, hfailure, hfault, if_true, ih hrest, List.append_assoc,
        List.singleton_append]

/-- Without failures the two loops over plugins do the same. -/
theorem runPluginsFrom_of_no_faults {plugins : List π} {context : Context}
    (h : faults program plugins context = []) (index : Nat) (r : Registry π)
    (failures : List PluginFailure) :
    runPluginsFrom program index plugins r context =
      (none, context.addAll (reports program (plugins.map .plugin) context),
        (lintPluginsFrom program index plugins r context failures).2) := by
  induction plugins generalizing index r context with
  | nil => rfl
  | cons plugin rest ih =>
    rw [faults] at h
    rw [runPluginsFrom, lintPluginsFrom, List.map_cons, reports, Context.addAll_cons]
    dsimp only [Source.report]
    cases hfailure : (PluginKind.run plugin context program).1.failure with
    | none =>
      simp only [hfailure] at h
      simp only [runPlugin_eq, hfailure, ih h]
    | some f => simp [hfailure] at h

/-- A strict loop stops at the plugin that fails first. -/
theorem runPluginsFrom_of_faults {plugins : List π} {context : Context} {first : PluginFailure}
    {more : List PluginFailure} (h : faults program plugins context = first :: more) :
    ∃ before failing later, plugins = before ++ failing :: later ∧
      PluginKind.path failing = first.plugin ∧
      ∀ index (r : Registry π), ∃ ran, ∀ others,
        runPluginsFrom program index (before ++ failing :: others) r context =
          (some first.failure, context.addAll
            (reports program ((before ++ [failing]).map .plugin) context), ran) := by
  induction plugins generalizing context with
  | nil => cases h
  | cons plugin rest ih =>
    rw [faults] at h
    cases hfailure : (PluginKind.run plugin context program).1.failure with
    | some f =>
      simp only [hfailure, List.cons.injEq] at h
      obtain ⟨rfl, -⟩ := h
      refine ⟨[], plugin, rest, rfl, rfl, fun index r =>
        ⟨r.afterRun index plugin context program, fun others => ?_⟩⟩
      simp only [List.nil_append, runPluginsFrom, runPlugin_eq, hfailure]
      rfl
    | none =>
      simp only [hfailure] at h
      obtain ⟨before, failing, later, rfl, hpath, hrun⟩ := ih h
      refine ⟨plugin :: before, failing, later, rfl, hpath, fun index r => ?_⟩
      obtain ⟨ran, hran⟩ := hrun (index + 1) (r.afterRun index plugin context program)
      refine ⟨ran, fun others => ?_⟩
      simp only [List.cons_append, runPluginsFrom, runPlugin_eq, hfailure, hran]
      rfl

/-! ## Plugins that are not reached -/

/-- A registry with further plugins. -/
def extend (r : Registry π) (others : List π) : Registry π :=
  { r with plugins := r.plugins ++ others }

theorem length_plugins_afterRun (r : Registry π) (index : Nat) (plugin : π) (context : Context) :
    (r.afterRun index plugin context program).plugins.length = r.plugins.length := by
  unfold afterRun runPlugin
  dsimp only
  split <;> exact List.length_set

theorem afterRun_extend {r : Registry π} {index : Nat} (h : index < r.plugins.length)
    (others : List π) (plugin : π) (context : Context) :
    (r.extend others).afterRun index plugin context program =
      (r.afterRun index plugin context program).extend others := by
  have hset : ∀ after, (r.extend others).setPlugin index after =
      (r.setPlugin index after).extend others := by
    intro after
    simp only [setPlugin, extend, List.set_append_left _ _ h]
  unfold afterRun runPlugin
  dsimp only
  rw [hset]
  split <;> rfl

/-- A loop leaves plugins alone that it is not to run. -/
theorem runPluginsFrom_extend (others : List π) {plugins : List π} {index : Nat} {r : Registry π}
    (h : index + plugins.length ≤ r.plugins.length) {context : Context}
    {outcome : Option Failure} {reported : Context} {ran : Registry π}
    (hrun : runPluginsFrom program index plugins r context = (outcome, reported, ran)) :
    runPluginsFrom program index plugins (r.extend others) context =
      (outcome, reported, ran.extend others) := by
  induction plugins generalizing index r context with
  | nil =>
    cases hrun
    rfl
  | cons plugin rest ih =>
    rw [List.length_cons] at h
    rw [runPluginsFrom, runPlugin_eq] at hrun ⊢
    rw [afterRun_extend (by omega)]
    cases hfailure : (PluginKind.run plugin context program).1.failure with
    | some f =>
      simp only [hfailure] at hrun ⊢
      cases hrun
      rfl
    | none =>
      simp only [hfailure] at hrun ⊢
      exact ih (by rw [length_plugins_afterRun]; omega) hrun

/-! ## Passes and runs -/

/-- The native rules and then the plugins of a registry. -/
def sources (r : Registry π) : List (Source π) :=
  r.natives.map .native ++ r.plugins.map .plugin

/-- The context in which a lint pass starts. -/
def passContext (program : Program) (flow : Option ControlFlow) : Context :=
  .start (some (flow.getD (ControlFlow.ofProgram program.root)))

/-- The result of a lint pass is what sources report one after the other from a context on. -/
structure Composes (sources : List (Source π)) (program : Program) (context : Context)
    (result : LintResult) : Prop where
  path : result.path = program.path
  source : result.source = program.source
  findings : result.findings = (reports program sources context).flatMap (·.findings)
  pluginCodes : result.pluginCodes =
    Codes.ofList ((reports program sources context).flatMap (·.pluginCodes))
  failures : result.failures.map (·.failure) =
    (reports program sources context).filterMap (·.failure)

/-- A strict run of a registry does what a lint pass did that gave a result and left a registry. It
stops at the first plugin that fails; what plugins come later makes no difference. -/
structure Agrees (r : Registry π) (program : Program) (context : Context) (result : LintResult)
    (left : Registry π) : Prop where
  complete : result.failures = [] → r.run context program =
    (none, ⟨context.flow, result.findings, result.pluginCodes⟩, left)
  stops : ∀ first more, result.failures = first :: more →
    ∃ before failing later reported, ∃ ran : Registry π,
      r.plugins = before ++ failing :: later ∧ PluginKind.path failing = first.plugin ∧
      reported = context.addAll
        (reports program { r with plugins := before ++ [failing] }.sources context) ∧
      reported.findings <+: result.findings ∧
      ∀ others, { r with plugins := before ++ failing :: others }.run context program =
        (some first.failure, reported, ran.extend others)

theorem filterMap_failure_natives {rules : List Rule} (hrules : Succeed program rules)
    (context : Context) :
    (reports program (rules.map (Source.native (π := π))) context).filterMap (·.failure) = [] := by
  induction rules generalizing context with
  | nil => rfl
  | cons rule rest ih =>
    obtain ⟨hrule, hrest⟩ := List.forall_mem_cons.1 hrules
    rw [List.map_cons, reports]
    exact (List.filterMap_cons_none (hrule context)).trans (ih hrest _)

omit [PluginKind π] in
theorem sources_extend (r : Registry π) (others : List π) :
    (r.extend others).sources = r.sources ++ others.map .plugin := by
  simp only [sources, extend, List.map_append, List.append_assoc]

theorem addAll_reports_append (sources more : List (Source π)) (context : Context) :
    context.addAll (reports program (sources ++ more) context) =
      (context.addAll (reports program sources context)).addAll
        (reports program more (context.addAll (reports program sources context))) := by
  rw [reports_append, Context.addAll_append]

/-- The context in which the first plugin runs. -/
def afterNatives (r : Registry π) (program : Program) (context : Context) : Context :=
  context.addAll (reports program (r.natives.map (Source.native (π := π))) context)

theorem addAll_reports_sources (r : Registry π) (context : Context) :
    context.addAll (reports program r.sources context) =
      (r.afterNatives program context).addAll
        (reports program (r.plugins.map .plugin) (r.afterNatives program context)) := by
  rw [sources, addAll_reports_append, afterNatives]

/-- The result of a lint pass from a context on, by what the sources report. -/
def passResult (r : Registry π) (program : Program) (context : Context) : LintResult where
  path := program.path
  source := program.source
  findings := (context.addAll (reports program r.sources context)).findings
  pluginCodes := (context.addAll (reports program r.sources context)).pluginCodes
  failures := faults program r.plugins (r.afterNatives program context)

theorem lint_eq {r : Registry π} (h : r.IsOrderly program) (flow : Option ControlFlow) :
    r.lint program flow = (.ok (r.passResult program (passContext program flow)),
      (lintPluginsFrom program 0 r.plugins r
        (r.afterNatives program (passContext program flow)) []).2) := by
  have hplugins := lintPluginsFrom_fst h.plugins 0 r
    (r.afterNatives program (passContext program flow)) []
  rw [← addAll_reports_sources] at hplugins
  rw [lint]
  dsimp only
  rw [← passContext, runNatives_eq (π := π) h.natives, ← afterNatives]
  dsimp only
  rw [hplugins]
  rfl

theorem composes_passResult {r : Registry π} (h : Succeed program r.natives)
    (flow : Option ControlFlow) :
    Composes r.sources program (passContext program flow)
      (r.passResult program (passContext program flow)) where
  path := rfl
  source := rfl
  findings := by
    rw [passResult, Context.addAll_eq]
    rfl
  pluginCodes := by
    rw [passResult, Context.addAll_eq]
    rfl
  failures := by
    rw [passResult, map_failure_faults, sources, reports_append, List.filterMap_append,
      filterMap_failure_natives h, List.nil_append, afterNatives]

theorem run_eq {r : Registry π} (h : Succeed program r.natives) (context : Context) :
    r.run context program =
      runPluginsFrom program 0 r.plugins r (r.afterNatives program context) := by
  rw [run, runNatives_eq (π := π) h, afterNatives]

/-- What a strict run does when a plugin fails, whatever plugins come after it. -/
theorem run_of_faults {r : Registry π} {context : Context} {first : PluginFailure}
    {more : List PluginFailure} (hnatives : Succeed program r.natives)
    (h : faults program r.plugins (r.afterNatives program context) = first :: more) :
    ∃ before failing later, ∃ ran : Registry π,
      r.plugins = before ++ failing :: later ∧ PluginKind.path failing = first.plugin ∧
      ∀ others, { r with plugins := before ++ failing :: others }.run context program =
        (some first.failure, context.addAll
          (reports program { r with plugins := before ++ [failing] }.sources context),
          ran.extend others) := by
  obtain ⟨before, failing, later, hplugins, hpath, hrun⟩ := runPluginsFrom_of_faults h
  obtain ⟨ran, hran⟩ := hrun 0 { r with plugins := before ++ [failing] }
  refine ⟨before, failing, later, ran, hplugins, hpath, fun others => ?_⟩
  have hwith : { r with plugins := before ++ failing :: others } =
      { r with plugins := before ++ [failing] }.extend others := by
    simp only [extend, List.append_assoc, List.singleton_append]
  -- The loop stops at the failing plugin, so it does not matter which plugins it was to run.
  obtain ⟨ran', hran'⟩ := hrun 0 { r with plugins := before ++ failing :: others }
  have hextended := runPluginsFrom_extend others (by simp) (hran [])
  rw [← hwith, hran' [], Prod.mk.injEq, Prod.mk.injEq] at hextended
  rw [run_eq (by exact hnatives), addAll_reports_sources]
  exact (hran' others).trans (by rw [hextended.2.2]; rfl)

theorem agrees_passResult {r : Registry π} (h : Succeed program r.natives) (context : Context) :
    Agrees r program context (r.passResult program context)
      (lintPluginsFrom program 0 r.plugins r (r.afterNatives program context) []).2 where
  complete hnone := by
    have hcontext : context.addAll (reports program r.sources context) =
        ⟨context.flow, (r.passResult program context).findings,
          (r.passResult program context).pluginCodes⟩ := by
      rw [passResult, ← Context.flow_addAll context (reports program r.sources context)]
    rw [run_eq h, runPluginsFrom_of_no_faults hnone 0 r [], ← addAll_reports_sources, hcontext]
  stops first more hfaults := by
    obtain ⟨before, failing, later, ran, hplugins, hpath, hrun⟩ := run_of_faults h hfaults
    refine ⟨before, failing, later, _, ran, hplugins, hpath, rfl, ?_, hrun⟩
    have hr : r = { r with plugins := before ++ [failing] }.extend later := by
      simp only [extend, List.append_assoc, List.singleton_append, ← hplugins]
    rw [passResult]
    conv_rhs => rw [hr]
    rw [sources_extend, addAll_reports_append,
      Context.findings_addAll _ (reports _ (later.map _) _)]
    exact List.prefix_append _ _

/-- The sources that operations register: the rules with a new code, then the plugins. -/
def registered (ops : List (Operation π)) : List (Source π) :=
  (distinctRules (ops.filterMap (·.rule?))).map .native ++ (ops.filterMap (·.plugin?)).map .plugin

theorem sources_after {ops : List (Operation π)} (h : ∀ op ∈ ops, op.isRegistration) :
    (after ops).sources = registered ops := by
  obtain ⟨hnatives, hplugins, -⟩ := after_registrations h
  rw [sources, registered, hnatives, hplugins]

/-- In a registry made by registrations in any order, a lint pass gives what the native rules and
then the plugins report, in the order of their registration, and the failures of plugins in that
order; a strict run with the same control flow leaves the same, up to the first plugin that
fails. -/
theorem lint_agrees_run (ops : List (Operation π)) (hops : ∀ op ∈ ops, op.isRegistration)
    (program : Program) (flow : Option ControlFlow) (h : (after ops).IsOrderly program) :
    ∃ result left, (after ops).lint program flow = (.ok result, left) ∧
      Composes (registered ops) program (passContext program flow) result ∧
      Agrees (after ops) program (passContext program flow) result left := by
  refine ⟨_, _, lint_eq h flow, ?_, agrees_passResult h.natives _⟩
  rw [← sources_after hops]
  exact composes_passResult h.natives flow

/-- A plugin without rules whose evaluation ends in some way. -/
def ending (path : String) (outcome : Except Thrown Unit) : Runner Unit :=
  .start path "/entry.js"
    { evaluate := fun _ => .done (outcome, ()), runRules := fun _ _ _ => .done (.ok (), ()) } ()

/-- A plugin that throws, a rule that reports, and a quiet plugin are registered. -/
def mixed : List (Operation (Runner Unit)) :=
  [.addPlugin (ending "/p/crash.js" (.error ⟨"Error", "boom"⟩)),
   .addNative ⟨"c", "C", "", fun _ _ => .complete [⟨"c", default, "seen", none⟩]⟩,
   .addPlugin (ending "/p/quiet.js" (.ok ()))]

theorem isOrderly_mixed : (after mixed).IsOrderly default where
  natives := by
    intro rule hrule context
    obtain rfl := List.mem_singleton.1 hrule
    rfl
  plugins := by
    intro plugin hplugin context failure hfailure
    have hmem : plugin ∈ [ending "/p/crash.js" (.error ⟨"Error", "boom"⟩),
        ending "/p/quiet.js" (.ok ())] := hplugin
    rw [List.mem_pair] at hmem
    obtain rfl | rfl := hmem
    · cases hfailure
      rfl
    · cases hfailure

theorem lint_agrees_run_mixed :
    ∃ result left, (after mixed).lint default none = (.ok result, left) ∧
      Composes (registered mixed) default (passContext default none) result ∧
      Agrees (after mixed) default (passContext default none) result left ∧
      result.failures.map (·.failure) = [.uncaught "/entry.js" ⟨"Error", "boom"⟩] := by
  obtain ⟨result, left, hlint, hcomposes, hagrees⟩ :=
    lint_agrees_run mixed (by decide) default none isOrderly_mixed
  exact ⟨result, left, hlint, hcomposes, hagrees, hcomposes.failures.trans rfl⟩

end Registry

end ScriptLint

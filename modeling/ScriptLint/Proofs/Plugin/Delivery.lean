/-
What becomes of the findings of a plugin, from its handlers to the context of a run. For a plugin
whose rule class only reports, every run over a program whose offsets scripts can hold ends without
a failure, notes the code of the rule, and hands on one finding for each report of the handlers, in
the order of the calls of a walk over the program's own tree (`run_delivers`).
-/
import ScriptLint.Proofs.Plugin.Entry
import ScriptLint.Proofs.Plugin.Log
import ScriptLint.Proofs.Plugin.Registration

namespace ScriptLint

/-! ## Plugins with a rule -/

/-- Whether a plugin has been loaded from a path, its modules can be entered without a call of the
host, and it exports a rule class. -/
structure Plugin.Exports (plugin : Plugin) (lib : Library (List Statement)) (path : String)
    (parts : RuleParts) : Prop where
  loaded : Plugin.load lib path = .ok plugin
  entered : ∃ modules id memory,
    link lib (Statement.link lib.locate) Entry.moduleId (Entry.statements path) = .ok modules ∧
      resolveSpecifierBy lib.locate path Entry.moduleId = .ok id ∧
      Entry.Provides modules id parts memory

namespace Runner

/-- Whether an evaluated plugin has registered a rule class with a code, and has nothing else to
do. -/
structure Serves (r : Plugin) (code : String) (parts : RuleParts) : Prop where
  evaluated : r.evaluated = true
  runRules : r.engine.runRules = Entry.runRules
  registered : r.registered = [code]
  rule : r.realm.state.registered = some (.str code, parts.toClass)
  jobs : r.realm.state.jobs = []

/-- Whether preparing a plugin for a pass succeeds and leaves it with its rule class and without
findings. -/
def Prepares (r : Plugin) (code : String) (parts : RuleParts) : Prop :=
  ∀ flow, ∃ ready, (r.begin flow).prepare = (.ok (), ready) ∧ ready.Serves code parts ∧
    ready.host.reported = []

/-- A script that ends normally, after calls none of which failed, is executed successfully. -/
theorem execute_ok {σ : Type} {r : Runner σ} {place : String}
    {script : σ → Script (Except Thrown Unit × σ)} {realm : σ} {host : HostState}
    (h : (script r.realm).run r.host.clearFailures = ((.ok (), realm), host))
    (hfailures : host.failures = []) :
    r.execute place script = (.ok (), { r with realm := realm, host := host }) := by
  unfold execute
  rw [h]
  dsimp only
  rw [hfailures]
  rfl

theorem prepare_of_evaluate {σ : Type} {r evaluated : Runner σ} {flow : Option ControlFlow}
    (h : r.evaluated = false)
    (hexecute : (r.begin flow).execute r.entryId r.engine.evaluate = (.ok (), evaluated)) :
    (r.begin flow).prepare = (.ok (), { evaluated with
      evaluated := true
      host := { evaluated.host with codes := [] }
      registered := Codes.insertAll evaluated.host.codes evaluated.registered }) := by
  have hbegin : (r.begin flow).evaluated = false := h
  have hentry : (r.begin flow).execute (r.begin flow).entryId (r.begin flow).engine.evaluate =
      (.ok (), evaluated) := hexecute
  unfold prepare
  rw [hbegin, if_neg (by decide), hentry]
  rfl

variable {r plugin : Plugin} {code : String} {parts : RuleParts}

theorem Serves.prepares (h : r.Serves code parts) : r.Prepares code parts := by
  intro flow
  have hbegin : (r.begin flow).evaluated = true := h.evaluated
  unfold prepare
  rw [hbegin, if_pos rfl]
  exact ⟨_, rfl, ⟨rfl, h.runRules, h.registered, h.rule, h.jobs⟩, rfl⟩

theorem eq_start_of_load {lib : Library (List Statement)} {path : String}
    {modules : List (Linked (List Statement))}
    (hlink : link lib (Statement.link lib.locate) Entry.moduleId (Entry.statements path) =
      .ok modules)
    (hload : Plugin.load lib path = .ok plugin) :
    plugin = start path Entry.moduleId (Engine.ofModules modules) ⟨[], 0, Realm.initial⟩ := by
  unfold Plugin.load at hload
  rw [hlink] at hload
  cases hcompile : compileAll modules with
  | error f =>
    simp only [Except.mapError, Bind.bind, Except.bind, hcompile] at hload
    cases hload
  | ok u =>
    simp only [Except.mapError, Bind.bind, Except.bind, hcompile] at hload
    exact (Except.ok.inj hload).symm

/-- A plugin is evaluated successfully when it runs for the first time. -/
theorem prepares_of_exports {lib : Library (List Statement)} {path : String}
    (h : plugin.Exports lib path parts) (hcode : parts.code = some (.ok (.str code))) :
    plugin.Prepares code parts := by
  intro flow
  obtain ⟨modules, id, memory, hlink, hid, provides⟩ := h.entered
  obtain rfl := eq_start_of_load hlink h.loaded
  have hexecute : ((start path Entry.moduleId (Engine.ofModules modules)
      ⟨[], 0, Realm.initial⟩).begin flow).execute Entry.moduleId _ = _ := execute_ok
    (Entry.run_evaluate (Entry.member?_bodiesOf hlink hid) provides hcode _) rfl
  exact ⟨_, prepare_of_evaluate rfl hexecute, ⟨rfl, rfl, rfl, rfl, provides.jobs⟩, rfl⟩

/-! ## Collecting -/

theorem Serves.script_eq (h : r.Serves code parts) (hrule : parts.OnlyReports code)
    (program : Program) :
    r.engine.runRules (program.root.serialize program.source) r.registered.serialize r.realm =
      .ask (.str "op_add_diagnostics")
        (.str (Payload.addDiagnostics code (Entry.found parts program)).toJson.plainText)
        fun reply => .done (reply.result.map fun _ => (), r.realm) := by
  rw [h.runRules, h.registered]
  exact Entry.runRules_eq hrule h.rule h.jobs program

/-- Collecting leaves a plugin with its rule class, whatever becomes of the findings. -/
theorem Serves.collect (h : r.Serves code parts) (hrule : parts.OnlyReports code)
    (program : Program) : (r.collect program).2.Serves code parts := by
  have hrealm : ((r.engine.runRules (program.root.serialize program.source)
      r.registered.serialize r.realm).run r.host.clearFailures).1.2 = r.realm := by
    rw [h.script_eq hrule program, Script.run]
    rcases r.host.clearFailures.dispatch _ _ with ⟨reply, host⟩
    rfl
  have hserves : ∀ host, Serves { r with realm := r.realm, host := host } code parts := fun _ =>
    ⟨h.evaluated, h.runRules, h.registered, h.rule, h.jobs⟩
  have hexecute := execute_snd r "runPlugins"
    (r.engine.runRules (program.root.serialize program.source) r.registered.serialize)
  rw [hrealm] at hexecute
  -- a run that fails and one that does not both keep the realm
  unfold Runner.collect
  dsimp only
  split
  · rename_i f after heq
    rw [heq] at hexecute
    exact hexecute ▸ hserves _
  · rename_i after heq
    rw [heq] at hexecute
    obtain rfl : after = _ := hexecute
    exact hserves _

/-- Collecting from a program whose findings the host accepts hands them on. -/
theorem Serves.collect_report (h : r.Serves code parts) (hrule : parts.OnlyReports code)
    (hreported : r.host.reported = []) {program : Program}
    (exact : ∀ d ∈ Entry.found parts program, d.span.IsExact) :
    (r.collect program).1 =
      ⟨(Entry.found parts program).map (·.withCode code), [code], none⟩ := by
  let findings := Entry.found parts program
  have hspans : ∀ s ∈ (Payload.addDiagnostics code findings).spans, s.IsExact := by
    intro s hs
    obtain ⟨d, hd, rfl⟩ := List.mem_map.1 hs
    exact exact d hd
  have hrun : (r.engine.runRules (program.root.serialize program.source) r.registered.serialize
      r.realm).run r.host.clearFailures = ((.ok (), r.realm), { r.host with
        reported := r.host.reported.add code findings
        failures := [] }) := by
    rw [h.script_eq hrule program]
    exact run_ask hspans rfl
  have hexecute : r.execute "runPlugins" _ = _ := execute_ok hrun rfl
  have hentries : Reported.handOn (Reported.add code findings []).entries =
      (findings.map (·.withCode code), none) := by
    rw [Reported.handOn_entries]
    simp [Reported.add, Reported.toDiagnostics, Reported.entries]
  unfold Runner.collect
  dsimp only
  rw [hexecute]
  dsimp only [HostState.takeReported]
  rw [hreported, hentries, h.registered]

/-! ## Histories -/

/-- A plugin that has been prepared for one pass is prepared for all others. -/
theorem Prepares.after (h : r.Prepares code parts) (hrule : parts.OnlyReports code)
    (earlier : List (Context × Program)) : (r.after earlier).Prepares code parts := by
  -- each run prepares the plugin first, and whatever its rules do then leaves it as prepared
  induction earlier generalizing r with
  | nil => exact h
  | cons p rest ih =>
    obtain ⟨context, program⟩ := p
    obtain ⟨ready, hprepare, hserves, -⟩ := h context.flow
    refine ih (Serves.prepares ?_)
    unfold run
    rw [hprepare]
    dsimp only
    rw [hserves.registered]
    exact hserves.collect hrule program

/-! ## A plugin that reports nodes -/

/-- A rule that reports every outermost node of a kind. -/
def fooRule : RuleParts :=
  { code := some (.ok (.str "foo"))
    extendsVisitor := true
    handlers := [("visitFoo", [.report (.text "found") .undefined, .giveBack (.bool false)])]
    collection := .inherited }

theorem fooRule_onlyReports : fooRule.OnlyReports "foo" := by
  refine ⟨rfl, rfl, rfl, by decide, fun name actions h => ?_⟩
  obtain ⟨m, hm, rfl⟩ := Option.map_eq_some_iff.1 h
  rw [List.mem_singleton.1 (List.mem_of_find?_eq_some hm)]
  decide

/-- A library with one module, which exports the rule. -/
def fooLibrary : Library (List Statement) :=
  { modules := [("/foo.js", [.exportRule fooRule])], missing := .closed .missing }

/-- The plugin made of this module and its entry module. -/
def fooPlugin : Plugin :=
  start "/foo.js" Entry.moduleId (Engine.ofModules [⟨"/foo.js", [.exportRule fooRule]⟩,
    ⟨Entry.moduleId, Entry.linkedStatements "/foo.js"⟩]) ⟨[], 0, Realm.initial⟩

theorem link_foo : link fooLibrary (Statement.link fooLibrary.locate) Entry.moduleId
    (Entry.statements "/foo.js") = .ok [⟨"/foo.js", [.exportRule fooRule]⟩,
      ⟨Entry.moduleId, Entry.linkedStatements "/foo.js"⟩] := by
  have hfresh : "/foo.js" ∉ [Entry.moduleId] := by decide
  exact link_of_reaches rfl (.meet hfresh rfl rfl (.nil _) (.nil _))

theorem fooPlugin_exports : fooPlugin.Exports fooLibrary "/foo.js" fooRule where
  loaded := by
    rw [Plugin.load, link_foo]
    rfl
  entered := ⟨_, "/foo.js", _, link_foo, rfl, ⟨1, rfl, rfl⟩, rfl⟩

/-- A program with a node of the kind inside another. -/
def fooProgram : Program :=
  { path := "", source := [], hasErrors := false
    root := .mk ⟨"program", ⟨0, 9, by decide⟩, true, none⟩
      [.mk ⟨"foo", ⟨0, 5, by decide⟩, true, none⟩ [.mk ⟨"foo", ⟨1, 2, by decide⟩, true, none⟩ []],
        .mk ⟨"foo", ⟨6, 9, by decide⟩, true, none⟩ []] }

/-! ## Delivery -/

end Runner

end ScriptLint

/-
What the entry module of a plugin does. Entered for the first time, it requires the module of the
plugin and registers the rule class that this exports by one call of the host (`run_evaluate`).
-/
import ScriptLint.Plugin.Engine
import ScriptLint.Proofs.Host.Payload
import ScriptLint.Proofs.Module.Link
import ScriptLint.Proofs.Plugin.Reporting
import ScriptLint.Proofs.Tree.Handoff

namespace ScriptLint

/-! ## Calls of scripts -/

/-- What a script makes of an answer of the host. -/
def Reply.result : Reply → Except Thrown Json
  | .ok value => .ok value
  | .error name message => .error ⟨name, message⟩

/-- Names of operations reach the host as they are. -/
theorem handOver_operation (p : Payload) :
    Script.handOver (.str p.operation) = .str p.operation := by
  have hclean : ∀ name ∈ ["op_add_diagnostics", "op_add_rule_code",
      "op_query_control_flow_by_span"], textToNul name = name := by decide +kernel
  refine congrArg Json.str (hclean _ ?_)
  cases p <;> simp [Payload.operation]

theorem callHost_run (p : Payload) :
    (Script.callHost (.str p.operation) p.toJson).run =
      .ask (.str p.operation) (.str p.toJson.plainText) fun reply => .done reply.result := by
  rw [Script.callHost, handOver_operation]
  show Script.ask _ _ _ = Script.ask _ _ _
  congr 1
  funext reply
  cases reply <;> rfl

/-- A script that calls the host with a payload that is carried out goes on with the answer. -/
theorem run_ask {α : Type} {p : Payload} (exact : ∀ s ∈ p.spans, s.IsExact)
    {next : Reply → Script α} {host after : HostState} {v : Json}
    (h : host.perform p = .ok (v, after)) :
    (Script.ask (.str p.operation) (.str p.toJson.plainText) next).run host =
      (next (.ok v)).run after := by
  rw [Script.run, HostState.dispatch, Payload.serve_plainText host exact, h]

namespace Entry

/-! ## The linked entry module -/

/-- The statements of a linked entry module. -/
def linkedStatements (id : String) : List Statement :=
  [.bind id ⟨some "Plugin", none, none⟩, .serve "Plugin"]

/-- The bodies of linked modules. -/
def bodiesOf (modules : List (Linked (List Statement))) : List (String × Body Realm) :=
  modules.map fun m => (m.id, Statement.toBody m.body)

theorem link_statements {locate : Locate} {path id : String} {body : List Statement}
    {needed : List String} (hid : resolveSpecifierBy locate path moduleId = .ok id)
    (h : Statement.link locate moduleId (statements path) = .ok (body, needed)) :
    body = linkedStatements id := by
  unfold statements at h
  split at h
  · unfold Statement.link at h
    split at h
    · simp only [Statement.resolveAll, Statement.target?, hid] at h
      cases h
      rfl
    · cases h
  · cases h

/-- The entry module of a linked plugin is the module with the id of the entry. -/
theorem member?_bodiesOf {lib : Library (List Statement)} {path id : String}
    {modules : List (Linked (List Statement))}
    (hlink : link lib (Statement.link lib.locate) moduleId (statements path) = .ok modules)
    (hid : resolveSpecifierBy lib.locate path moduleId = .ok id) :
    Json.member? (bodiesOf modules) moduleId = some (Statement.toBody (linkedStatements id)) := by
  obtain ⟨body, needed, others, hbody, rfl, hothers⟩ := link_ok hlink
  rw [link_statements hid hbody, Json.member?, bodiesOf, List.map_append, List.find?_append]
  have hnone : (others.map fun m => (m.id, Statement.toBody m.body)).find?
      (fun m => m.1 == moduleId) = none := by
    rw [List.find?_eq_none]
    intro m hm
    obtain ⟨linked, hlinked, rfl⟩ := List.mem_map.1 hm
    simpa using hothers linked hlinked
  rw [hnone]
  simp

/-! ## Entering it -/

/-- What requiring the module of a plugin does when the entry module is entered for the first
time. -/
def requirePlugin (modules : List (Linked (List Statement))) (id : String) :
    Script (Except Thrown Nat × Memory Realm) :=
  Table.requireWithin (bodiesOf modules) (bodiesOf modules).length id
    (Memory.activate ⟨[], 0, Realm.initial⟩ moduleId)

/-- Whether the module of a plugin can be required without a call of the host, exports a rule class
as its default, and has queued no job by then. -/
structure Provides (modules : List (Linked (List Statement))) (id : String) (parts : RuleParts)
    (memory : Memory Realm) : Prop where
  required : ∃ object, requirePlugin modules id = .done (.ok object, memory) ∧
    memory.state.exported object "default" = .ruleClass parts
  jobs : memory.state.jobs = []

/-- The memory after a rule class has been registered. -/
def withRule (m : Memory Realm) (code : String) (parts : RuleParts) : Memory Realm :=
  { m with state := { m.state with registered := some (.str code, parts.toClass) } }

/-- The entry module requires the module of the plugin and goes on with its default export. -/
theorem run_linkedStatements (id : String) (object : Nat) (realm : Realm) :
    (Statement.toBody (linkedStatements id) object).run.run realm =
      .require id realm fun (r, realm) =>
        match r with
        | .error error => .done (.error error, realm)
        | .ok other =>
          let scope := Statement.Scope.start object (linkedStatements id)
          (Statement.runAll (scope.bind "Plugin" (realm.exported other "default"))
            [.serve "Plugin"]).run.run realm := by
  show Code.require id realm _ = _
  congr 1
  funext ⟨r, realm⟩
  cases r <;> rfl

/-- A rule class with a code is registered, and its code is told to the host. -/
theorem run_serve {parts : RuleParts} {code : String} (hcode : parts.code = some (.ok (.str code)))
    (scope : Statement.Scope) (realm : Realm) :
    (Statement.runAll (scope.bind "Plugin" (.ruleClass parts)) [.serve "Plugin"]).run.run realm =
      .ask (.str "op_add_rule_code") (.str (Payload.ruleCode code).toJson.plainText) fun reply =>
        .done (reply.result.map fun _ => (),
          { realm with registered := some (.str code, parts.toClass) }) := by
  have hvalue : (scope.bind "Plugin" (.ruleClass parts)).value "Plugin" =
      pure (.ruleClass parts) := by
    simp [Statement.Scope.value, Statement.Scope.bind, Json.member?]
  have hregister : Statement.registerRule (.ruleClass parts) = (do
      modify fun realm => { realm with registered := some (.str code, parts.toClass) }
      let _ ← Statement.callHost (.str "op_add_rule_code") (.obj [("code", .str code)])) := by
    rw [Statement.registerRule, hcode]
  have hoperation : Script.handOver (.str "op_add_rule_code") = .str "op_add_rule_code" :=
    handOver_operation (.ruleCode code)
  rw [Statement.runAll, Statement.run, hvalue]
  -- the rule of an earlier evaluation is forgotten before the new one is registered
  show Code.bind (Code.bind ((Statement.registerRule (.ruleClass parts)).run.run
    { realm with registered := none }) _) _ = _
  rw [hregister, ← hoperation]
  show Code.ask _ _ _ = Code.ask _ _ _
  congr 1
  funext reply
  cases reply <;> rfl

variable {modules : List (Linked (List Statement))} {id code : String} {parts : RuleParts}
  {memory : Memory Realm}

/-- Entered for the first time, the entry module registers the default export of the plugin's
module. -/
theorem require_entry (hmember : Json.member? (bodiesOf modules) moduleId =
      some (Statement.toBody (linkedStatements id)))
    (provides : Provides modules id parts memory)
    (hcode : parts.code = some (.ok (.str code))) :
    Table.require (bodiesOf modules) moduleId ⟨[], 0, Realm.initial⟩ =
      .ask (.str "op_add_rule_code") (.str (Payload.ruleCode code).toJson.plainText) fun reply =>
        .done (match reply with
          | .ok _ => (.ok 0, withRule memory code parts)
          | .error name message =>
            (.error ⟨name, message⟩, (withRule memory code parts).forget moduleId)) := by
  obtain ⟨object, hrequire, hdefault⟩ := provides.required
  -- the entry module is active by now, so the table is the one that the plugin's module is given
  have hbody : Table.runBody (Table.requireWithin (bodiesOf modules) (bodiesOf modules).length)
      (Statement.toBody (linkedStatements id)) 0
      (Memory.activate ⟨[], 0, Realm.initial⟩ moduleId) =
      .ask (.str "op_add_rule_code") (.str (Payload.ruleCode code).toJson.plainText) fun reply =>
        .done (reply.result.map fun _ => (), withRule memory code parts) := by
    rw [Table.runBody, run_linkedStatements, Table.runCode]
    show Script.bind (Script.bind (requirePlugin modules id) _) _ = _
    rw [hrequire]
    show Script.bind (Table.runCode _ ((Statement.runAll (Statement.Scope.bind _ "Plugin"
      (memory.state.exported object "default")) _).run.run memory.state) memory) _ = _
    rw [hdefault, run_serve hcode]
    rfl
  rw [Table.require, Table.requireWithin, Table.enter]
  simp only [Memory.exportsOf?, hmember]
  show Script.bind (Table.runBody _ _ 0 _) _ = _
  rw [hbody]
  show Script.ask _ _ _ = Script.ask _ _ _
  congr 1
  funext reply
  cases reply <;> rfl

/-- Where no job is queued, nothing is left to do after a script. -/
theorem finish_eq (ending : Except Thrown Unit) {m : Memory Realm} (h : m.state.jobs = []) :
    finish ending m = .done (ending, m) := by
  cases ending with
  | error error => rfl
  | ok u =>
    obtain ⟨exports, objects, realm⟩ := m
    obtain ⟨realmExports, thrown, jobs, registered⟩ := realm
    obtain rfl : jobs = [] := h
    rfl

/-- The first evaluation of a plugin registers its rule class, and tells the host its code. -/
theorem run_evaluate (hmember : Json.member? (bodiesOf modules) moduleId =
      some (Statement.toBody (linkedStatements id)))
    (provides : Provides modules id parts memory)
    (hcode : parts.code = some (.ok (.str code))) (host : HostState) :
    (evaluate (bodiesOf modules) ⟨[], 0, Realm.initial⟩).run host =
      ((.ok (), withRule memory code parts),
        { host with codes := Codes.insert code host.codes }) := by
  have hjobs : (withRule memory code parts).state.jobs = [] := provides.jobs
  show (Script.bind (Table.require _ _ _) _).run host = _
  rw [require_entry hmember provides hcode]
  refine (run_ask (p := .ruleCode code) (fun _ h => nomatch h) rfl).trans ?_
  show (finish (.ok ()) (withRule memory code parts)).run _ = _
  rw [finish_eq (.ok ()) hjobs]
  rfl

/-! ## Running the rule -/

/-- The findings that a rule class reports about a program. -/
def found (parts : RuleParts) (program : Program) : List WireDiagnostic :=
  (Visit.remarks (parts.visits program.source none ⟨0, 0⟩ program.root)).map Remark.wire

/-- Where the rule class is registered, running the rules with its code collects its findings and
tells them to the host in one call. The memory stays as it is, whatever the host answers. -/
theorem runRules_eq (h : parts.OnlyReports code)
    {m : Memory Realm} (hregistered : m.state.registered = some (.str code, parts.toClass))
    (hjobs : m.state.jobs = []) (program : Program) :
    runRules (program.root.serialize program.source) (Codes.serialize [code]) m =
      .ask (.str "op_add_diagnostics")
        (.str (Payload.addDiagnostics code (found parts program)).toJson.plainText) fun reply =>
          .done (reply.result.map fun _ => (), m) := by
  have hpayload : Json.obj [("code", .str code), ("diagnostics",
      .arr ((Visit.remarks (parts.visits program.source none ⟨0, 0⟩ program.root)).map
        fun r => Payload.diagnosticJson r.wire))] =
      (Payload.addDiagnostics code (found parts program)).toJson := by
    rw [Payload.toJson, found, List.map_map]
    rfl
  unfold runRules
  rw [Record.listOfText?_serialize, Codes.ofText?_serialize, hregistered]
  simp only [Option.bind_some, Ast.ofRecords?_records, Option.getD_some, runCodes, runRule, if_true,
    h.collect_toClass]
  have hcall : (Script.callHost (.str "op_add_diagnostics") _).run = _ :=
    callHost_run (.addDiagnostics code (found parts program))
  rw [← hpayload] at hcall
  show Script.bind (Script.bind (Script.bind (Script.callHost _ (.obj [("code", .str code),
    ("diagnostics", _)])).run _) _) _ = _
  rw [hcall, hpayload]
  show Script.ask _ _ _ = Script.ask _ _ _
  congr 1
  funext reply
  cases reply with
  | ok value => exact finish_eq (.ok ()) hjobs
  | error name message => exact finish_eq (.error ⟨name, message⟩) hjobs

end Entry

end ScriptLint

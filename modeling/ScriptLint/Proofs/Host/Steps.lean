/-
The host over any run of steps: calls of operations, begun passes, and the two drains. `events`
lists what the steps were, calls with their outcomes, and `summary` reads off a list of events what
the host must hold: the control flow of the latest pass, the findings and codes of the calls that
were accepted since they were last dropped, and every failure. The host that steps leave is the
summary of their events (`steps_eq_summary`), since each step does to a summary what it does to the
host.
-/
import ScriptLint.Proofs.Host.Reported
import Mathlib.Data.List.DropRight

namespace ScriptLint

namespace HostState

/-! ## Steps -/

/-- What can be done with a host. -/
inductive Step where
  | call (operation payload : Json)
  | beginPass (flow : Option ControlFlow)
  | takeCodes
  | takeReported

/-- What a step was: a call with its outcome, a begun pass, or a drain. -/
inductive Event where
  | served (call : Call)
  | began (flow : Option ControlFlow)
  | tookCodes
  | tookReported

def step (s : HostState) : Step → HostState
  | .call operation payload => (s.dispatch operation payload).2
  | .beginPass flow => s.beginPass flow
  | .takeCodes => s.takeCodes.2
  | .takeReported => s.takeReported.2

def event (s : HostState) : Step → Event
  | .call operation payload =>
    .served ⟨operation, payload, (s.serve operation payload).map (·.1)⟩
  | .beginPass flow => .began flow
  | .takeCodes => .tookCodes
  | .takeReported => .tookReported

def steps (s : HostState) (run : List Step) : HostState := run.foldl step s

/-- What steps were, one after the other. -/
def events : HostState → List Step → List Event
  | _, [] => []
  | s, x :: rest => s.event x :: (s.step x).events rest

theorem steps_concat (s : HostState) (run : List Step) (x : Step) :
    s.steps (run ++ [x]) = (s.steps run).step x := by
  simp [steps]

theorem events_concat (s : HostState) (run : List Step) (x : Step) :
    s.events (run ++ [x]) = s.events run ++ [(s.steps run).event x] := by
  induction run generalizing s with
  | nil => rfl
  | cons y rest ih =>
    rw [List.cons_append, events, ih]
    rfl

/-! ## Summaries -/

namespace Event

/-- The findings that an accepted call reported under a code. -/
def report? : Event → Option (String × List WireDiagnostic)
  | .served c => c.report?
  | _ => none

def code? : Event → Option String
  | .served c => c.code?
  | _ => none

def failure? : Event → Option Failure
  | .served c => c.failure?
  | _ => none

def flow? : Event → Option (Option ControlFlow)
  | .began flow => some flow
  | _ => none

/-- Whether the findings reported before are gone. -/
def dropsReports : Event → Bool
  | .began _ | .tookReported => true
  | .served _ | .tookCodes => false

/-- Whether the codes registered before are gone. -/
def dropsCodes : Event → Bool
  | .began _ | .tookCodes => true
  | .served _ | .tookReported => false

end Event

/-- What is pending of the parts that events show: those since the latest event that dropped them,
in order. -/
def pending {α : Type} (drops : Event → Bool) (part? : Event → Option α) (events : List Event) :
    List α :=
  (events.rtakeWhile fun e => !drops e).filterMap part?

/-- The reports accepted since the latest begun pass or drain of findings. -/
def pendingReports : List Event → List (String × List WireDiagnostic) :=
  pending Event.dropsReports Event.report?

/-- The codes accepted since the latest begun pass or drain of codes. -/
def pendingCodes : List Event → List String := pending Event.dropsCodes Event.code?

/-- The control flow of the latest begun pass; none before the first. -/
def latestFlow (events : List Event) : Option ControlFlow :=
  (events.filterMap Event.flow?).getLast?.join

def refusals (events : List Event) : List Failure := events.filterMap Event.failure?

def summary (events : List Event) : HostState :=
  { flow := latestFlow events
    reported := Reported.grouped (pendingReports events)
    codes := Codes.ofList (pendingCodes events)
    failures := refusals events }

/-! ## Steps of a summary -/

section Pending

variable {α : Type} {drops : Event → Bool} {part? : Event → Option α} {e : Event}

theorem pending_of_drops (h : drops e = true) (events : List Event) :
    pending drops part? (events ++ [e]) = [] := by
  simp [pending, h]

theorem pending_concat (h : drops e = false) (events : List Event) :
    pending drops part? (events ++ [e]) = pending drops part? events ++ (part? e).toList := by
  unfold pending
  rw [List.rtakeWhile_concat, h, Bool.not_false, if_pos rfl, List.filterMap_append]
  cases hpart : part? e <;> simp [hpart]

end Pending

theorem ofList_concat (codes : List String) (code : String) :
    Codes.ofList (codes ++ [code]) = Codes.insert code (Codes.ofList codes) := by
  simp [Codes.ofList, Codes.insertAll]

/-- A call does to a summary what it does to a host. -/
theorem summary_served (events : List Event) (c : Call) :
    summary (events ++ [.served c]) = (summary events).after c := by
  have hreports : Reported.grouped (pendingReports (events ++ [.served c])) =
      c.report?.elim (Reported.grouped (pendingReports events))
        fun e => (Reported.grouped (pendingReports events)).add e.1 e.2 := by
    rw [pendingReports, pending_concat rfl]
    show Reported.grouped (_ ++ c.report?.toList) = _
    cases c.report? with
    | none => rw [Option.toList_none, List.append_nil]; rfl
    | some e => exact Reported.grouped_concat _ e.1 e.2
  have hcodes : Codes.ofList (pendingCodes (events ++ [.served c])) =
      c.code?.elim (Codes.ofList (pendingCodes events))
        fun code => Codes.insert code (Codes.ofList (pendingCodes events)) := by
    rw [pendingCodes, pending_concat rfl]
    show Codes.ofList (_ ++ c.code?.toList) = _
    cases c.code? with
    | none => rw [Option.toList_none, List.append_nil]; rfl
    | some code => exact ofList_concat _ code
  have hfailures : refusals (events ++ [.served c]) = refusals events ++ c.failure?.toList := by
    unfold refusals
    rw [List.filterMap_append]
    cases h : c.failure? <;> simp [Event.failure?, h]
  have hflow : latestFlow (events ++ [.served c]) = latestFlow events := by
    simp [latestFlow, Event.flow?]
  unfold summary
  rw [hreports, hcodes, hfailures, hflow]
  rfl

theorem summary_began (events : List Event) (flow : Option ControlFlow) :
    summary (events ++ [.began flow]) = (summary events).beginPass flow := by
  unfold summary
  rw [pendingReports, pendingCodes, pending_of_drops rfl, pending_of_drops rfl]
  simp [beginPass, latestFlow, refusals, Event.flow?, Event.failure?, Reported.grouped,
    Codes.ofList, Codes.insertAll]

theorem summary_tookCodes (events : List Event) :
    summary (events ++ [.tookCodes]) = (summary events).takeCodes.2 := by
  unfold summary
  rw [pendingReports, pendingCodes, pending_concat rfl, pending_of_drops rfl]
  simp [takeCodes, latestFlow, refusals, Event.flow?, Event.failure?, Event.report?, Codes.ofList,
    Codes.insertAll]

theorem summary_tookReported (events : List Event) :
    summary (events ++ [.tookReported]) = (summary events).takeReported.2 := by
  unfold summary
  rw [pendingReports, pendingCodes, pending_of_drops rfl, pending_concat rfl]
  simp [takeReported, latestFlow, refusals, Event.flow?, Event.failure?, Event.code?,
    Reported.grouped]

/-- Each step does to a summary what it does to the host. -/
theorem summary_concat (events : List Event) (x : Step) :
    summary (events ++ [(summary events).event x]) = (summary events).step x := by
  cases x with
  | call operation payload =>
    rw [step, dispatch_snd]
    exact summary_served events _
  | beginPass flow => exact summary_began events flow
  | takeCodes => exact summary_tookCodes events
  | takeReported => exact summary_tookReported events

/-- The host that steps leave is the summary of their events. -/
theorem steps_eq_summary (run : List Step) :
    initial.steps run = summary (initial.events run) := by
  -- from the end, since a step acts on what all earlier ones have left
  induction run using List.reverseRecOn with
  | nil => rfl
  | append_singleton run x ih => rw [steps_concat, events_concat, ih, summary_concat]

/-! ## Calls -/

/-- A call that is answered with an error adds its failure and changes nothing else. -/
theorem dispatch_of_error {s : HostState} {operation payload : Json} {name message : String}
    (h : (s.dispatch operation payload).1 = .error name message) :
    ∃ f : Failure, f.kind = name ∧ f.message = message ∧
      (s.dispatch operation payload).2 = { s with failures := s.failures ++ [f] } := by
  cases hs : s.serve operation payload with
  | ok r =>
    rw [dispatch_fst, hs] at h
    cases h
  | error f =>
    rw [dispatch_error hs] at h ⊢
    obtain ⟨hname, hmessage⟩ := Reply.error.inj h
    exact ⟨f, hname, hmessage, rfl⟩

/-- A call that is answered with `ok` adds no failure. -/
theorem dispatch_of_ok {s : HostState} {operation payload value : Json}
    (h : (s.dispatch operation payload).1 = .ok value) :
    (s.dispatch operation payload).2.failures = s.failures := by
  cases hs : s.serve operation payload with
  | ok r => simp [dispatch_snd, after, Call.failure?, hs, Except.map]
  | error f =>
    rw [dispatch_error hs] at h
    cases h

/-- The answer to a query about an offset, given what is known about it. -/
def queryAnswer (reachable stops : Json) : Json :=
  .obj [("isReachable", reachable), ("stopsExecution", stops)]

/-- A query depends on the control flow only. -/
theorem dispatch_query {s : HostState} {payload : Json} {span : Span}
    (h : Payload.decode .controlFlowQuery payload = .ok (.controlFlowQuery span)) :
    match s.flow with
    | none => (s.dispatch (.str "op_query_control_flow_by_span") payload).1 =
        .ofFailure .missingControlFlow
    | some flow =>
      match flow.lookup span.lo with
      | none => s.dispatch (.str "op_query_control_flow_by_span") payload =
          (.ok (queryAnswer .null .null), s)
      | some fact => ∀ stops, fact.stops = .bool stops →
          s.dispatch (.str "op_query_control_flow_by_span") payload =
            (.ok (queryAnswer (.bool !fact.unreachable) (.bool stops)), s) := by
  have hserve : s.serve (.str "op_query_control_flow_by_span") payload =
      s.perform (.controlFlowQuery span) := by
    simp [serve, PayloadSchema.ofOperation?, h]
  cases hflow : s.flow with
  | none =>
    have hperform : s.serve (.str "op_query_control_flow_by_span") payload =
        .error .missingControlFlow := by
      rw [hserve, perform, hflow]
    exact congrArg Prod.fst (dispatch_error hperform)
  | some flow =>
    dsimp only
    cases hlookup : flow.lookup span.lo with
    | none =>
      dsimp only
      simp [dispatch, hserve, perform, hflow, answerQuery, ControlFlow.stops?,
        ControlFlow.isReachable?, hlookup, isAnswer, Except.map, queryAnswer]
    | some fact =>
      dsimp only
      intro stops hstops
      simp [dispatch, hserve, perform, hflow, answerQuery, ControlFlow.stops?,
        ControlFlow.isReachable?, hlookup, isAnswer, Except.map, queryAnswer, hstops]

/-! ## Any run -/

/-- After any steps, a call is answered with an error exactly by adding its failure and nothing
else, what a drain hands out is what was accepted since it was last dropped, once, and a query is
answered from the control flow of the latest pass. -/
theorem steps_summarized (run : List Step) :
    let s := initial.steps run
    let history := initial.events run
    (∀ operation payload name message,
      (s.dispatch operation payload).1 = .error name message →
        ∃ f : Failure, f.kind = name ∧ f.message = message ∧
          s.step (.call operation payload) = { s with failures := s.failures ++ [f] }) ∧
    (∀ operation payload value, (s.dispatch operation payload).1 = .ok value →
      (s.step (.call operation payload)).failures = s.failures) ∧
    s.failures = refusals history ∧
    (s.takeReported = (Reported.grouped (pendingReports history), { s with reported := [] }) ∧
      s.takeReported.2.takeReported.1 = []) ∧
    (s.takeCodes = (Codes.ofList (pendingCodes history), { s with codes := [] }) ∧
      (∀ code, code ∈ s.takeCodes.1 ↔ code ∈ pendingCodes history) ∧
      s.takeCodes.2.takeCodes.1 = []) ∧
    ∀ payload span, Payload.decode .controlFlowQuery payload = .ok (.controlFlowQuery span) →
      match latestFlow history with
      | none => (s.dispatch (.str "op_query_control_flow_by_span") payload).1 =
          .ofFailure .missingControlFlow
      | some flow =>
        match flow.lookup span.lo with
        | none => s.dispatch (.str "op_query_control_flow_by_span") payload =
            (.ok (queryAnswer .null .null), s)
        | some fact => ∀ stops, fact.stops = .bool stops →
            s.dispatch (.str "op_query_control_flow_by_span") payload =
              (.ok (queryAnswer (.bool !fact.unreachable) (.bool stops)), s) := by
  intro s history
  have hs : s = summary history := steps_eq_summary run
  have hreported : s.reported = Reported.grouped (pendingReports history) :=
    congrArg HostState.reported hs
  have hcodes : s.codes = Codes.ofList (pendingCodes history) := congrArg HostState.codes hs
  have hflow : s.flow = latestFlow history := congrArg HostState.flow hs
  refine ⟨fun _ _ _ _ => dispatch_of_error, fun _ _ _ => dispatch_of_ok,
    congrArg HostState.failures hs, ⟨?_, rfl⟩, ⟨?_, ?_, rfl⟩, ?_⟩
  · rw [takeReported, hreported]
  · rw [takeCodes, hcodes]
  · intro code
    rw [takeCodes, hcodes]
    exact Codes.mem_ofList
  · intro payload span hdecode
    rw [← hflow]
    exact dispatch_query hdecode

end HostState

end ScriptLint

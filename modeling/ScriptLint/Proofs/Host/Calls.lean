/-
What a script does to the host, told by its calls. `Script.calls` lists the calls that a script
makes with their outcomes; the state after the script is the state before with the accepted
findings, the accepted codes and the failures of these calls added, and the control flow is never
touched. Findings are kept by code: `Reported.grouped` says which list that is. What a script asks
and is answered depends on the control flow and on nothing else that the host holds
(`Script.calls_congr`).
-/
import ScriptLint.Script.Basic

namespace ScriptLint

/-! ## Calls -/

/-- A call of a host operation and what became of it. -/
structure Call where
  operation : Json
  payload : Json
  outcome : Except Failure Json

namespace Call

/-- The failure of a call that failed. -/
def failure? (c : Call) : Option Failure :=
  match c.outcome with
  | .error f => some f
  | .ok _ => none

/-- The payload of a call that the host answered with `ok`. -/
def accepted? (c : Call) : Option Payload :=
  match c.outcome with
  | .error _ => none
  | .ok _ => (PayloadSchema.ofOperation? c.operation).bind fun schema =>
    (Payload.decode schema c.payload).toOption

/-- The findings that an accepted call reported under a code. -/
def report? (c : Call) : Option (String × List WireDiagnostic) :=
  match c.accepted? with
  | some (.addDiagnostics code diagnostics) => some (code, diagnostics)
  | _ => none

/-- The rule code that an accepted call registered. -/
def code? (c : Call) : Option String :=
  match c.accepted? with
  | some (.ruleCode code) => some code
  | _ => none

end Call

/-- The calls that a script makes against a host, in order. -/
def Script.calls {α : Type} : Script α → HostState → List Call
  | .done _, _ => []
  | .ask operation payload next, host =>
    ⟨operation, payload, (host.serve operation payload).map (·.1)⟩
      :: (next (host.dispatch operation payload).1).calls (host.dispatch operation payload).2

namespace HostState

/-- The host after a call. -/
def after (s : HostState) (c : Call) : HostState :=
  { flow := s.flow
    reported := c.report?.elim s.reported fun e => s.reported.add e.1 e.2
    codes := c.code?.elim s.codes fun code => Codes.insert code s.codes
    failures := s.failures ++ c.failure?.toList }

theorem perform_eq {s s' : HostState} {payload : Payload} {v : Json}
    (h : s.perform payload = .ok (v, s')) :
    s' = match payload with
      | .addDiagnostics code diagnostics =>
        { s with reported := s.reported.add code diagnostics }
      | .ruleCode code => { s with codes := Codes.insert code s.codes }
      | .controlFlowQuery _ => s := by
  cases payload with
  | addDiagnostics code diagnostics => cases h; rfl
  | ruleCode code => cases h; rfl
  | controlFlowQuery span =>
    simp only [perform] at h
    split at h
    · cases h
    · rename_i flow _
      cases hq : answerQuery flow span.lo with
      | error f => rw [hq] at h; cases h
      | ok v' => rw [hq] at h; cases h; rfl

/-- Serving a call changes the host as the outcome of the call says. -/
theorem dispatch_snd (s : HostState) (operation payload : Json) :
    (s.dispatch operation payload).2 =
      s.after ⟨operation, payload, (s.serve operation payload).map (·.1)⟩ := by
  cases hs : s.serve operation payload with
  | error f =>
    rw [dispatch_error hs]
    simp [after, Call.report?, Call.code?, Call.accepted?, Call.failure?, Except.map]
  | ok r =>
    obtain ⟨v, s'⟩ := r
    have hd : (s.dispatch operation payload).2 = s' := by simp [dispatch, hs]
    rw [hd]
    unfold serve at hs
    cases hschema : PayloadSchema.ofOperation? operation with
    | none => rw [hschema] at hs; cases hs
    | some schema =>
      rw [hschema] at hs
      cases hp : Payload.decode schema payload with
      | error fault => simp only [hp] at hs; cases hs
      | ok p =>
        simp only [hp] at hs
        have hacc : (Call.mk operation payload (.ok v)).accepted? = some p := by
          simp [Call.accepted?, hschema, hp, Except.toOption]
        rw [perform_eq hs]
        cases p <;>
          simp [after, Call.report?, Call.code?, Call.failure?, Except.map, hacc]

end HostState

/-! ## What a script leaves behind -/

/-- The findings that calls reported, call after call. -/
def reportsOf (calls : List Call) : List (String × List WireDiagnostic) :=
  calls.filterMap Call.report?

/-- The rule codes that calls registered, call after call. -/
def codesOf (calls : List Call) : List String := calls.filterMap Call.code?

/-- The failures of calls, call after call. -/
def failuresOf (calls : List Call) : List Failure := calls.filterMap Call.failure?

/-- Adds reports one after the other. -/
def Reported.addAll (reports : List (String × List WireDiagnostic)) (reported : Reported) :
    Reported :=
  reports.foldl (fun acc e => acc.add e.1 e.2) reported

namespace Script

variable {α : Type}

/-- The host after a script is the host before it, and after its calls. -/
theorem run_snd (s : Script α) (host : HostState) :
    (s.run host).2 = (s.calls host).foldl HostState.after host := by
  induction s generalizing host with
  | done value => rfl
  | ask operation payload next ih =>
    simp only [run, calls, List.foldl_cons]
    rw [ih, HostState.dispatch_snd]

end Script

namespace HostState

theorem foldl_after (calls : List Call) (host : HostState) :
    calls.foldl HostState.after host =
      { flow := host.flow
        reported := Reported.addAll (reportsOf calls) host.reported
        codes := Codes.insertAll (codesOf calls) host.codes
        failures := host.failures ++ failuresOf calls } := by
  induction calls generalizing host with
  | nil => simp [Reported.addAll, reportsOf, codesOf, failuresOf, Codes.insertAll]
  | cons c rest ih =>
    rw [List.foldl_cons, ih]
    simp only [after, Reported.addAll, Codes.insertAll, reportsOf, codesOf, failuresOf]
    congr 1
    · cases h : c.report? <;> simp [h]
    · cases h : c.code? <;> simp [h]
    · cases h : c.failure? <;> simp [h]

end HostState

namespace Script

variable {α : Type}

theorem run_reported (s : Script α) (host : HostState) :
    (s.run host).2.reported = Reported.addAll (reportsOf (s.calls host)) host.reported := by
  rw [run_snd, HostState.foldl_after]

theorem run_codes (s : Script α) (host : HostState) :
    (s.run host).2.codes = Codes.insertAll (codesOf (s.calls host)) host.codes := by
  rw [run_snd, HostState.foldl_after]

theorem run_flow (s : Script α) (host : HostState) : (s.run host).2.flow = host.flow := by
  rw [run_snd, HostState.foldl_after]

theorem run_failures (s : Script α) (host : HostState) :
    (s.run host).2.failures = host.failures ++ failuresOf (s.calls host) := by
  rw [run_snd, HostState.foldl_after]

end Script

/-! ## What a script sees of the host -/

namespace HostState

/-- The outcome of a call depends on the control flow only. -/
theorem serve_congr {s s' : HostState} (h : s.flow = s'.flow) (operation payload : Json) :
    (s.serve operation payload).map (·.1) = (s'.serve operation payload).map (·.1) := by
  unfold serve
  cases PayloadSchema.ofOperation? operation with
  | none => rfl
  | some schema =>
    dsimp only
    cases Payload.decode schema payload with
    | error fault => rfl
    | ok p =>
      cases p with
      | addDiagnostics code diagnostics => rfl
      | ruleCode code => rfl
      | controlFlowQuery span =>
        simp only [perform, h]
        cases s'.flow with
        | none => rfl
        | some flow =>
          dsimp only
          cases answerQuery flow span.lo <;> rfl

theorem dispatch_fst (s : HostState) (operation payload : Json) :
    (s.dispatch operation payload).1 =
      match (s.serve operation payload).map (·.1) with
      | .ok v => .ok v
      | .error f => .ofFailure f := by
  unfold dispatch
  cases s.serve operation payload <;> rfl

theorem dispatch_flow (s : HostState) (operation payload : Json) :
    (s.dispatch operation payload).2.flow = s.flow := by
  rw [dispatch_snd]
  rfl

/-- Hosts with the same control flow answer a call alike, and keep the control flow. -/
theorem dispatch_congr {s s' : HostState} (h : s.flow = s'.flow) (operation payload : Json) :
    (s.dispatch operation payload).1 = (s'.dispatch operation payload).1 ∧
      (s.dispatch operation payload).2.flow = (s'.dispatch operation payload).2.flow := by
  rw [dispatch_fst, dispatch_fst, serve_congr h, dispatch_flow, dispatch_flow]
  exact ⟨rfl, h⟩

end HostState

namespace Script

variable {α β : Type}

/-- Hosts with the same control flow serve the same calls. -/
theorem calls_congr (s : Script α) {host host' : HostState} (h : host.flow = host'.flow) :
    s.calls host = s.calls host' := by
  -- each call is answered alike and keeps the control flow, so the next ones are alike too
  induction s generalizing host host' with
  | done value => rfl
  | ask operation payload next ih =>
    obtain ⟨hreply, hflow⟩ := HostState.dispatch_congr h operation payload
    rw [calls, calls, HostState.serve_congr h, hreply, ih _ hflow]

/-- A script ends alike against hosts with the same control flow. -/
theorem run_fst_congr (s : Script α) {host host' : HostState} (h : host.flow = host'.flow) :
    (s.run host).1 = (s.run host').1 := by
  induction s generalizing host host' with
  | done value => rfl
  | ask operation payload next ih =>
    obtain ⟨hreply, hflow⟩ := HostState.dispatch_congr h operation payload
    simp only [run, hreply]
    exact ih _ hflow

theorem calls_map (f : α → β) (s : Script α) (host : HostState) :
    (f <$> s).calls host = s.calls host := by
  induction s generalizing host with
  | done value => rfl
  | ask operation payload next ih => exact congrArg _ (ih _ _)

theorem run_map_fst (f : α → β) (s : Script α) (host : HostState) :
    ((f <$> s).run host).1 = f (s.run host).1 := by
  induction s generalizing host with
  | done value => rfl
  | ask operation payload next ih => exact ih _ _

end Script

end ScriptLint

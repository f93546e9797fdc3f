/-
Serving a call of a host operation. A call is answered with a JSON text, `ok` and a value or
`error` with its name and message; a call that fails changes nothing but the list of failures.
-/
import ScriptLint.Host.State
import ScriptLint.Json.Writer

namespace ScriptLint

/-- The schema of the payload of an operation. -/
def PayloadSchema.ofOperation? (name : Json) : Option PayloadSchema :=
  match name with
  | .str "op_add_diagnostics" => some .addDiagnostics
  | .str "op_add_rule_code" => some .ruleCode
  | .str "op_query_control_flow_by_span" => some .controlFlowQuery
  | _ => none

/-- The answer of the host to a call. -/
inductive Reply where
  | ok (value : Json)
  | error (name message : String)
  deriving Repr

namespace Reply

/-- The answer to a call that failed. -/
def ofFailure (f : Failure) : Reply := .error f.kind f.message

/-- The JSON form of an answer. -/
def toJson : Reply → Json
  | .ok value => .obj [("ok", value)]
  | .error name message =>
    .obj [("error", .obj [("name", .str name), ("message", .str message)])]

/-- The text of an answer. -/
def encode (r : Reply) : String := r.toJson.compress

end Reply

namespace HostState

/-- Whether a fact may be handed out as an answer about stopping. -/
def isAnswer : Json → Bool
  | .null | .bool _ => true
  | _ => false

/-- The answer to a query about the statement at an offset. -/
def answerQuery (flow : ControlFlow) (offset : Nat) : Except Failure Json :=
  let stops := (flow.stops? offset).getD .null
  if isAnswer stops then
    .ok (.obj [("isReachable", ((flow.isReachable? offset).map Json.bool).getD .null),
      ("stopsExecution", stops)])
  else .error (.validation [⟨[.key "stops_execution"], .boolType⟩])

/-- Carries out an accepted payload. -/
def perform (s : HostState) : Payload → Except Failure (Json × HostState)
  | .addDiagnostics code diagnostics =>
    .ok (.obj [], { s with reported := s.reported.add code diagnostics })
  | .ruleCode code => .ok (.obj [], { s with codes := Codes.insert code s.codes })
  | .controlFlowQuery span =>
    match s.flow with
    | none => .error .missingControlFlow
    | some flow => (answerQuery flow span.lo).map fun v => (v, s)

/-- The outcome of a call, before it is answered. -/
def serve (s : HostState) (name raw : Json) : Except Failure (Json × HostState) :=
  match PayloadSchema.ofOperation? name with
  | none => .error (.protocol (.unknownOperation name))
  | some schema =>
    match Payload.decode schema raw with
    | .error fault => .error (.protocol fault)
    | .ok payload => s.perform payload

/-- Serves a call and answers it. -/
def dispatch (s : HostState) (name raw : Json) : Reply × HostState :=
  match s.serve name raw with
  | .ok (value, s') => (.ok value, s')
  | .error f => (.ofFailure f, { s with failures := s.failures ++ [f] })

/-- A failed call changes nothing but the list of failures. -/
theorem dispatch_error {s : HostState} {name raw : Json} {f : Failure}
    (h : s.serve name raw = .error f) :
    s.dispatch name raw = (.ofFailure f, { s with failures := s.failures ++ [f] }) := by
  simp [dispatch, h]

end HostState

end ScriptLint

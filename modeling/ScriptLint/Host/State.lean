/-
What host operations may touch: the control flow of the current pass, the findings and rule codes
reported in it, and the failures of the calls served so far.
-/
import ScriptLint.Finding.Codes
import ScriptLint.Flow.Fact
import ScriptLint.Host.Payload

namespace ScriptLint

/-- Reported findings by code, in the order in which the codes were first reported. -/
abbrev Reported := List (String × List WireDiagnostic)

namespace Reported

/-- Adds findings under a code, after those that are there. -/
def add (code : String) (diagnostics : List WireDiagnostic) : Reported → Reported
  | [] => [(code, diagnostics)]
  | (c, ds) :: rest =>
    if c = code then (c, ds ++ diagnostics) :: rest else (c, ds) :: add code diagnostics rest

/-- The findings with their codes, code after code. -/
def entries (reported : Reported) : List (String × WireDiagnostic) :=
  reported.flatMap fun entry => entry.2.map fun d => (entry.1, d)

/-- The findings of rules that were reported, code after code. -/
def toDiagnostics (reported : Reported) : List Diagnostic :=
  reported.entries.map fun entry => entry.2.withCode entry.1

/-- Hands on findings one after the other, up to the first that a check refuses. -/
def handOn : List (String × WireDiagnostic) → List Diagnostic × Option Failure
  | [] => ([], none)
  | (code, d) :: rest =>
    match d.checked code with
    | .error violations => ([], some (.validation violations))
    | .ok finding =>
      let (findings, failure) := handOn rest
      (finding :: findings, failure)

end Reported

/-- The state behind the host operations of one plugin. -/
structure HostState where
  flow : Option ControlFlow
  reported : Reported
  codes : Codes
  failures : List Failure

namespace HostState

/-- Nothing reported yet. -/
def initial : HostState := { flow := none, reported := [], codes := [], failures := [] }

/-- Starts a pass: the control flow is replaced and nothing is reported yet. -/
def beginPass (s : HostState) (flow : Option ControlFlow) : HostState :=
  { s with flow := flow, reported := [], codes := [] }

/-- Hands out the codes reported so far. -/
def takeCodes (s : HostState) : Codes × HostState := (s.codes, { s with codes := [] })

/-- Hands out the findings reported so far. -/
def takeReported (s : HostState) : Reported × HostState := (s.reported, { s with reported := [] })

/-- Forgets the failures of earlier calls. -/
def clearFailures (s : HostState) : HostState := { s with failures := [] }

end HostState

end ScriptLint

/-
The payloads of the host operations. A payload is a JSON text; it is accepted when its value has
the shape of the operation's schema, numbers and texts taken strictly.
-/
import ScriptLint.Failure
import ScriptLint.Finding.Schema
import ScriptLint.Json.Reader

namespace ScriptLint

/-- A finding as scripts report it. -/
structure WireDiagnostic where
  span : Span
  message : String
  hint : Option String
  deriving DecidableEq, Inhabited, Repr

/-- The finding of a rule. -/
def WireDiagnostic.withCode (code : String) (d : WireDiagnostic) : Diagnostic :=
  ⟨code, d.span, d.message, d.hint⟩

/-- The finding of a rule made from the parts that a script reported, each of them checked once
more. -/
def WireDiagnostic.checked (code : String) (d : WireDiagnostic) : Checked Diagnostic :=
  Schema.diagnosticOfParts (.str code) (.int d.span.lo) (.int d.span.hi) (.str d.message)
    (.ofText? d.hint)

/-- A payload that has been accepted. -/
inductive Payload where
  | addDiagnostics (code : String) (diagnostics : List WireDiagnostic)
  | ruleCode (code : String)
  | controlFlowQuery (span : Span)
  deriving DecidableEq, Repr

namespace Payload

/-- A range whose offsets are integers. -/
def span : Json → Checked Span := Checked.object (Schema.spanOf Schema.strictInt)

/-- One reported finding. -/
def diagnostic : Json → Checked WireDiagnostic :=
  Checked.object fun members =>
    (Checked.both (Checked.field span members "span")
      (Checked.both (Checked.field Checked.text members "message")
        (Checked.optional Checked.text members "hint"))).map
      fun (span, message, hint) => ⟨span, message, hint⟩

/-- The check of a value by a schema. -/
def check : PayloadSchema → Json → Checked Payload
  | .addDiagnostics => Checked.object fun members =>
    (Checked.both (Checked.field Checked.text members "code")
      (Checked.field (Checked.list diagnostic) members "diagnostics")).map
      fun (code, diagnostics) => .addDiagnostics code diagnostics
  | .ruleCode => Checked.object fun members =>
    (Checked.field Checked.text members "code").map .ruleCode
  | .controlFlowQuery => Checked.object fun members =>
    (Checked.field span members "span").map .controlFlowQuery

/-- The payload of a text, or everything that is wrong with it. -/
def ofText (schema : PayloadSchema) (text : String) : Checked Payload :=
  match Json.read? .wire text with
  | none => .fail .jsonInvalid
  | some v => check schema v

/-- The payload a script sent. -/
def decode (schema : PayloadSchema) (raw : Json) : Except ProtocolFault Payload :=
  match raw with
  | .str text =>
    match ofText schema text with
    | .ok payload => .ok payload
    | .error violations => .error (.invalid schema violations)
  | other => .error (.notText schema other)

/-- The JSON form of a range. -/
def spanJson (s : Span) : Json := .obj [("lo", .int s.lo), ("hi", .int s.hi)]

/-- The JSON form of a reported finding. -/
def diagnosticJson (d : WireDiagnostic) : Json :=
  .obj [("span", spanJson d.span), ("message", .str d.message), ("hint", .ofText? d.hint)]

/-- The JSON form of a payload. -/
def toJson : Payload → Json
  | .addDiagnostics code diagnostics =>
    .obj [("code", .str code), ("diagnostics", .arr (diagnostics.map diagnosticJson))]
  | .ruleCode code => .obj [("code", .str code)]
  | .controlFlowQuery s => .obj [("span", spanJson s)]

end Payload

/-- The schema with a name. -/
def PayloadSchema.ofName? (name : String) : Option PayloadSchema :=
  [PayloadSchema.addDiagnostics, .ruleCode, .controlFlowQuery].find? fun s => s.name == name

end ScriptLint

/-
Payloads reach the host as scripts send them: the JSON form of a payload stands for it
(`describes_toJson`), and its text as a script writes it is decoded to the same payload
(`decode_plainText`), if the offsets in it are doubles. So a call with such a text is carried out
(`serve_plainText`).
-/
import ScriptLint.Host.Dispatch
import ScriptLint.Proofs.Host.Decoding

namespace ScriptLint

namespace Span

/-- Whether the offsets of a range are numbers of scripts, whatever their digits. -/
def IsExact (s : Span) : Prop := s.hi ≤ 0x20000000000000

instance (s : Span) : Decidable s.IsExact := inferInstanceAs (Decidable (s.hi ≤ _))

end Span

namespace Payload

/-- The ranges in a payload. -/
def spans : Payload → List Span
  | .addDiagnostics _ diagnostics => diagnostics.map (·.span)
  | .ruleCode _ => []
  | .controlFlowQuery s => [s]

/-! ## JSON forms -/

theorem isSpan_spanJson (s : Span) : IsSpan (spanJson s) s := ⟨_, rfl, rfl, rfl⟩

theorem isDiagnostic_diagnosticJson (d : WireDiagnostic) : IsDiagnostic (diagnosticJson d) d := by
  refine ⟨_, rfl, ⟨_, rfl, isSpan_spanJson d.span⟩, rfl, ?_⟩
  cases h : d.hint with
  | none => exact .inr rfl
  | some hint => rfl

/-- The JSON form of a payload stands for this payload. -/
theorem describes_toJson (p : Payload) : Describes p.toJson p := by
  cases p with
  | addDiagnostics code ds =>
    refine ⟨_, ds.map diagnosticJson, rfl, rfl, rfl, ?_⟩
    rw [List.forall₂_map_left_iff, List.forall₂_same]
    intro d _
    exact isDiagnostic_diagnosticJson d
  | ruleCode code => exact ⟨_, rfl, rfl⟩
  | controlFlowQuery s => exact ⟨_, _, rfl, rfl, isSpan_spanJson s⟩

/-! ## Texts -/

/-- What scripts keep of a value when they write it. -/
abbrev Kept (v : Json) : Prop :=
  Json.Keeps (fun n => Json.isExact n = true) (fun k => Json.indexKey? k = none) v

theorem kept_spanJson {s : Span} (h : s.IsExact) : Kept (spanJson s) := by
  have hordered := s.ordered
  have exact_nat : ∀ n : Nat, n ≤ s.hi → Kept (.int n) := fun n hn =>
    .int (decide_eq_true (show (n : Int).natAbs ≤ _ from Nat.le_trans hn h))
  refine .obj (by simp) ?_ ?_
  · simp only [List.forall_mem_cons]
    exact ⟨by decide, by decide, fun _ h => nomatch h⟩
  · simp only [List.forall_mem_cons]
    exact ⟨exact_nat _ hordered, exact_nat _ (Nat.le_refl _), fun _ h => nomatch h⟩

theorem kept_diagnosticJson {d : WireDiagnostic} (h : d.span.IsExact) :
    Kept (diagnosticJson d) := by
  have hhint : Kept (.ofText? d.hint) := by
    cases d.hint with
    | none => exact .null
    | some t => exact .str t
  refine .obj (by simp) ?_ ?_
  · simp only [List.forall_mem_cons]
    exact ⟨by decide, by decide, by decide, fun _ h => nomatch h⟩
  · simp only [List.forall_mem_cons]
    exact ⟨kept_spanJson h, .str _, hhint, fun _ h => nomatch h⟩

theorem kept_toJson {p : Payload} (h : ∀ s ∈ p.spans, s.IsExact) : Kept p.toJson := by
  cases p with
  | addDiagnostics code ds =>
    have hds : ∀ v ∈ ds.map diagnosticJson, Kept v := by
      intro v hv
      obtain ⟨d, hd, rfl⟩ := List.mem_map.1 hv
      exact kept_diagnosticJson (h d.span (List.mem_map_of_mem hd))
    refine .obj (by simp) ?_ ?_
    · simp only [List.forall_mem_cons]
      exact ⟨by decide, by decide, fun _ h => nomatch h⟩
    · simp only [List.forall_mem_cons]
      exact ⟨.str _, .arr hds, fun _ h => nomatch h⟩
  | ruleCode code =>
    refine .obj (by simp) ?_ ?_
    · simp only [List.forall_mem_cons]
      exact ⟨by decide, fun _ h => nomatch h⟩
    · simp only [List.forall_mem_cons]
      exact ⟨.str _, fun _ h => nomatch h⟩
  | controlFlowQuery s =>
    refine .obj (by simp) ?_ ?_
    · simp only [List.forall_mem_cons]
      exact ⟨by decide, fun _ h => nomatch h⟩
    · simp only [List.forall_mem_cons]
      exact ⟨kept_spanJson (h s List.mem_cons_self), fun _ h => nomatch h⟩

theorem nesting_diagnosticJson (d : WireDiagnostic) : (diagnosticJson d).nesting = 2 := by
  cases hd : d.hint <;>
    simp [diagnosticJson, spanJson, Json.nesting, Json.nestingOfMembers, Json.ofText?, hd]

theorem nestingOfAll_diagnosticJson (ds : List WireDiagnostic) :
    Json.nestingOfAll (ds.map diagnosticJson) ≤ 2 := by
  induction ds with
  | nil => decide
  | cons d rest ih =>
    rw [List.map_cons, Json.nestingOfAll, nesting_diagnosticJson]
    omega

theorem nesting_toJson (p : Payload) : p.toJson.nesting ≤ 4 := by
  cases p with
  | addDiagnostics code ds =>
    have hds := nestingOfAll_diagnosticJson ds
    cases ds with
    | nil => simp [toJson, Json.nesting, Json.nestingOfMembers]
    | cons d rest =>
      rw [List.map_cons] at hds
      simp only [toJson, Json.nesting, Json.nestingOfMembers, List.map_cons]
      omega
  | ruleCode code => simp [toJson, Json.nesting, Json.nestingOfMembers]
  | controlFlowQuery s => simp [toJson, spanJson, Json.nesting, Json.nestingOfMembers]

/-- The text that a script sends for a payload is decoded to this payload. -/
theorem decode_plainText {p : Payload} (h : ∀ s ∈ p.spans, s.IsExact) :
    decode p.schema (.str p.toJson.plainText) = .ok p := by
  have hdepth : p.toJson.nesting ≤ Json.Dialect.wire.maxDepth :=
    Nat.le_trans (nesting_toJson p) (by decide)
  exact (decode_str_eq_ok_iff (Json.read?_plainText (kept_toJson h) hdepth)).2
    ⟨rfl, describes_toJson p⟩

/-! ## Calls -/

/-- The operation that takes a payload. -/
def operation : Payload → String
  | .addDiagnostics _ _ => "op_add_diagnostics"
  | .ruleCode _ => "op_add_rule_code"
  | .controlFlowQuery _ => "op_query_control_flow_by_span"

theorem ofOperation?_operation (p : Payload) :
    PayloadSchema.ofOperation? (.str p.operation) = some p.schema := by
  cases p <;> rfl

/-- A call that a script makes with a payload is carried out. -/
theorem serve_plainText (s : HostState) {p : Payload} (h : ∀ r ∈ p.spans, r.IsExact) :
    s.serve (.str p.operation) (.str p.toJson.plainText) = s.perform p := by
  simp [HostState.serve, ofOperation?_operation, decode_plainText h]

end Payload

end ScriptLint

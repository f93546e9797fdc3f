/-
Which texts are payloads. `Describes` says which values stand for a payload and `Fault` what can be
wrong with a value, both without the checks. A text is decoded to exactly the payload that its value
stands for; anything else is refused with all that is wrong with it, in the order of the schema
(`decode_decides`).
-/
import ScriptLint.Host.Payload
import ScriptLint.Proofs.Finding.Checked
import ScriptLint.Proofs.Json.Writers

namespace ScriptLint

open Json (member?)

namespace Payload

/-- The schema that a payload has passed. -/
def schema : Payload → PayloadSchema
  | .addDiagnostics _ _ => .addDiagnostics
  | .ruleCode _ => .ruleCode
  | .controlFlowQuery _ => .controlFlowQuery

/-! ## Shapes -/

/-- Whether a value stands for a range. -/
def IsSpan (v : Json) (s : Span) : Prop :=
  ∃ members, v = .obj members ∧ member? members "lo" = some (.int s.lo) ∧
    member? members "hi" = some (.int s.hi)

/-- Whether the hint among members is so: a text, or none if it is absent or `null`. -/
def IsHint (members : List (String × Json)) : Option String → Prop
  | some hint => member? members "hint" = some (.str hint)
  | none => member? members "hint" = none ∨ member? members "hint" = some .null

/-- Whether a value stands for a reported finding. -/
def IsDiagnostic (v : Json) (d : WireDiagnostic) : Prop :=
  ∃ members, v = .obj members ∧ (∃ x, member? members "span" = some x ∧ IsSpan x d.span) ∧
    member? members "message" = some (.str d.message) ∧ IsHint members d.hint

/-- Whether a value stands for a payload. -/
def Describes (v : Json) : Payload → Prop
  | .addDiagnostics code diagnostics => ∃ members items, v = .obj members ∧
      member? members "code" = some (.str code) ∧
      member? members "diagnostics" = some (.arr items) ∧
      List.Forall₂ IsDiagnostic items diagnostics
  | .ruleCode code => ∃ members, v = .obj members ∧ member? members "code" = some (.str code)
  | .controlFlowQuery s => ∃ members x, v = .obj members ∧ member? members "span" = some x ∧
      IsSpan x s

/-! ## Faults -/

/-- Faults of the bounds of a range. Their order counts only when both are offsets. -/
inductive BoundsFault (members : List (String × Json)) : Violation → Prop where
  | lo {f : Violation} (h : FieldFault OffsetFault members "lo" f) : BoundsFault members f
  | hi {f : Violation} (h : FieldFault OffsetFault members "hi" f) : BoundsFault members f
  | order {lo hi : Nat} (hlo : member? members "lo" = some (.int lo))
    (hhi : member? members "hi" = some (.int hi)) (h : hi < lo) :
    BoundsFault members ⟨[], .valueError⟩

abbrev SpanFault : Json → Violation → Prop := ObjectFault BoundsFault

/-- Faults of the members of a reported finding. -/
inductive DiagnosticFault (members : List (String × Json)) : Violation → Prop where
  | span {f : Violation} (h : FieldFault SpanFault members "span" f) : DiagnosticFault members f
  | message {f : Violation} (h : FieldFault TextFault members "message" f) :
    DiagnosticFault members f
  | hint {f : Violation} (h : OptionalFault TextFault members "hint" f) :
    DiagnosticFault members f

/-- Faults of the members of a payload. -/
inductive MembersFault (members : List (String × Json)) : PayloadSchema → Violation → Prop where
  | code {f : Violation} (h : FieldFault TextFault members "code" f) :
    MembersFault members .addDiagnostics f
  | diagnostics {f : Violation}
    (h : FieldFault (ListFault (ObjectFault DiagnosticFault)) members "diagnostics" f) :
    MembersFault members .addDiagnostics f
  | ruleCode {f : Violation} (h : FieldFault TextFault members "code" f) :
    MembersFault members .ruleCode f
  | span {f : Violation} (h : FieldFault SpanFault members "span" f) :
    MembersFault members .controlFlowQuery f

/-- Faults of a value as a payload of a schema. -/
abbrev Fault (schema : PayloadSchema) : Json → Violation → Prop :=
  ObjectFault fun members => MembersFault members schema

/-! ## Checks of parts -/

/-- Faults of two fields stand in the order in which the fields are declared. -/
theorem before_of_fields {a b : String} (h : (PathStep.key a).Before (.key b)) {f g : Violation}
    (hf : ∃ f' : Violation, f = f'.under (.key a)) (hg : ∃ g' : Violation, g = g'.under (.key b)) :
    f.Before g := by
  obtain ⟨f', rfl⟩ := hf
  obtain ⟨g', rfl⟩ := hg
  exact Violation.before_of_steps h f' g'

theorem decides_order (lo hi : Nat) :
    Checked.Decides (match Span.of? lo hi with
        | some span => .ok span
        | none => Checked.fail .valueError)
      (fun s => s.lo = lo ∧ s.hi = hi) fun f => hi < lo ∧ f = ⟨[], .valueError⟩ := by
  by_cases h : lo ≤ hi
  · have hof : Span.of? lo hi = some ⟨lo, hi, h⟩ := dif_pos h
    rw [hof]
    refine Checked.decides_ok.congr ?_ ?_
    · rintro ⟨slo, shi, hs⟩
      simp only [Span.mk.injEq]
      omega
    · intro f
      simp only [false_iff]
      omega
  · have hof : Span.of? lo hi = none := dif_neg h
    rw [hof]
    refine Checked.decides_fail.congr ?_ ?_
    · intro s
      have hs := s.ordered
      simp only [false_iff]
      omega
    · intro f
      simp only [Nat.lt_of_not_le h, true_and]

theorem decides_spanOf (members : List (String × Json)) :
    (Schema.spanOf Schema.strictInt members).Decides
      (fun s => member? members "lo" = some (.int s.lo) ∧ member? members "hi" = some (.int s.hi))
      (BoundsFault members) := by
  have hboth := (Checked.decides_field Checked.decides_offset members "lo").both
    (Checked.decides_field Checked.decides_offset members "hi")
    fun f g hf hg => before_of_fields (by decide) hf.exists_under hg.exists_under
  have hbind : Schema.spanOf Schema.strictInt members =
      (Checked.both (Checked.field (Schema.offset Schema.strictInt) members "lo")
        (Checked.field (Schema.offset Schema.strictInt) members "hi")).bind fun p =>
          match Span.of? p.1 p.2 with
          | some span => .ok span
          | none => Checked.fail .valueError := by
    unfold Schema.spanOf
    cases Checked.both (Checked.field (Schema.offset Schema.strictInt) members "lo")
      (Checked.field (Schema.offset Schema.strictInt) members "hi") <;> rfl
  rw [hbind]
  refine (hboth.bind fun p => decides_order p.1 p.2).congr ?_ ?_
  · intro s
    constructor
    · rintro ⟨⟨lo, hi⟩, ⟨⟨x, hlo, rfl⟩, y, hhi, rfl⟩, rfl, rfl⟩
      exact ⟨hlo, hhi⟩
    · rintro ⟨hlo, hhi⟩
      exact ⟨(s.lo, s.hi), ⟨⟨_, hlo, rfl⟩, _, hhi, rfl⟩, rfl, rfl⟩
  · intro f
    constructor
    · rintro ((hlo | hhi) | ⟨⟨lo, hi⟩, ⟨⟨x, hlo, rfl⟩, y, hhi, rfl⟩, h, rfl⟩)
      · exact .lo hlo
      · exact .hi hhi
      · exact .order hlo hhi h
    · intro hf
      cases hf with
      | lo hlo => exact .inl (.inl hlo)
      | hi hhi => exact .inl (.inr hhi)
      | order hlo hhi h =>
        exact .inr ⟨(_, _), ⟨⟨_, hlo, rfl⟩, _, hhi, rfl⟩, h, rfl⟩

theorem decides_span (v : Json) : (span v).Decides (IsSpan v) (SpanFault v) :=
  Checked.decides_object decides_spanOf v

theorem isOptional_iff {members : List (String × Json)} {hint : Option String} :
    Checked.IsOptional (fun v s => v = .str s) members "hint" hint ↔ IsHint members hint := by
  cases hint with
  | none => exact Iff.rfl
  | some s =>
    constructor
    · rintro ⟨x, hx, -, rfl⟩
      exact hx
    · intro hx
      exact ⟨.str s, hx, by simp, rfl⟩

theorem decides_diagnostic (v : Json) :
    (diagnostic v).Decides (IsDiagnostic v) (ObjectFault DiagnosticFault v) := by
  refine Checked.decides_object (fun members => ?_) v
  have htexts := (Checked.decides_field Checked.decides_text members "message").both
    (Checked.decides_optional Checked.decides_text members "hint")
    fun f g hf hg => before_of_fields (by decide) hf.exists_under hg.exists_under
  have apart : ∀ f g, FieldFault SpanFault members "span" f →
      (FieldFault TextFault members "message" g ∨ OptionalFault TextFault members "hint" g) →
      f.Before g := by
    rintro f g hf (hg | hg)
    · exact before_of_fields (by decide) hf.exists_under hg.exists_under
    · exact before_of_fields (by decide) hf.exists_under hg.exists_under
  have hall := (Checked.decides_field decides_span members "span").both htexts apart
  refine (hall.map _).congr ?_ ?_
  · intro d
    constructor
    · rintro ⟨⟨s, message, hint⟩, ⟨hspan, ⟨x, hx, rfl⟩, hhint⟩, rfl⟩
      exact ⟨hspan, hx, isOptional_iff.1 hhint⟩
    · rintro ⟨hspan, hmessage, hhint⟩
      exact ⟨⟨d.span, d.message, d.hint⟩,
        ⟨hspan, ⟨_, hmessage, rfl⟩, isOptional_iff.2 hhint⟩, rfl⟩
  · intro f
    constructor
    · rintro (h | h | h)
      · exact .span h
      · exact .message h
      · exact .hint h
    · intro hf
      cases hf with
      | span h => exact .inl h
      | message h => exact .inr (.inl h)
      | hint h => exact .inr (.inr h)

/-! ## Checks of payloads -/

theorem decides_addDiagnostics (v : Json) :
    (check .addDiagnostics v).Decides (fun p => p.schema = .addDiagnostics ∧ Describes v p)
      (Fault .addDiagnostics v) := by
  have hmembers := fun members => ((Checked.decides_field Checked.decides_text members "code").both
    (Checked.decides_field (Checked.decides_list decides_diagnostic) members "diagnostics")
    fun f g hf hg => before_of_fields (by decide) hf.exists_under hg.exists_under).map
      fun p => Payload.addDiagnostics p.1 p.2
  refine (Checked.decides_object hmembers v).congr ?_ ?_
  · intro p
    constructor
    · rintro ⟨members, hv, ⟨code, diagnostics⟩, ⟨⟨x, hcode, rfl⟩, y, hlist, items, rfl, hitems⟩,
        rfl⟩
      exact ⟨rfl, members, items, hv, hcode, hlist, hitems⟩
    · rintro ⟨hschema, hp⟩
      cases p with
      | addDiagnostics code diagnostics =>
        obtain ⟨members, items, hv, hcode, hlist, hitems⟩ := hp
        exact ⟨members, hv, (code, diagnostics),
          ⟨⟨_, hcode, rfl⟩, _, hlist, items, rfl, hitems⟩, rfl⟩
      | ruleCode _ => cases hschema
      | controlFlowQuery _ => cases hschema
  · apply objectFault_congr
    intro members f
    constructor
    · rintro (h | h)
      · exact .code h
      · exact .diagnostics h
    · intro h
      cases h with
      | code h => exact .inl h
      | diagnostics h => exact .inr h

theorem decides_ruleCode (v : Json) :
    (check .ruleCode v).Decides (fun p => p.schema = .ruleCode ∧ Describes v p)
      (Fault .ruleCode v) := by
  have hmembers := fun members =>
    (Checked.decides_field Checked.decides_text members "code").map Payload.ruleCode
  refine (Checked.decides_object hmembers v).congr ?_ ?_
  · intro p
    constructor
    · rintro ⟨members, hv, code, ⟨x, hcode, rfl⟩, rfl⟩
      exact ⟨rfl, members, hv, hcode⟩
    · rintro ⟨hschema, hp⟩
      cases p with
      | ruleCode code =>
        obtain ⟨members, hv, hcode⟩ := hp
        exact ⟨members, hv, code, ⟨_, hcode, rfl⟩, rfl⟩
      | addDiagnostics _ _ => cases hschema
      | controlFlowQuery _ => cases hschema
  · apply objectFault_congr
    intro members f
    constructor
    · exact .ruleCode
    · intro h
      cases h with
      | ruleCode h => exact h

theorem decides_controlFlowQuery (v : Json) :
    (check .controlFlowQuery v).Decides (fun p => p.schema = .controlFlowQuery ∧ Describes v p)
      (Fault .controlFlowQuery v) := by
  have hmembers := fun members =>
    (Checked.decides_field decides_span members "span").map Payload.controlFlowQuery
  refine (Checked.decides_object hmembers v).congr ?_ ?_
  · intro p
    constructor
    · rintro ⟨members, hv, s, ⟨x, hx, hs⟩, rfl⟩
      exact ⟨rfl, members, x, hv, hx, hs⟩
    · rintro ⟨hschema, hp⟩
      cases p with
      | controlFlowQuery s =>
        obtain ⟨members, x, hv, hx, hs⟩ := hp
        exact ⟨members, hv, s, ⟨x, hx, hs⟩, rfl⟩
      | addDiagnostics _ _ => cases hschema
      | ruleCode _ => cases hschema
  · apply objectFault_congr
    intro members f
    constructor
    · exact .span
    · intro h
      cases h with
      | span h => exact h

theorem check_decides (schema : PayloadSchema) (v : Json) :
    (check schema v).Decides (fun p => p.schema = schema ∧ Describes v p) (Fault schema v) := by
  cases schema with
  | addDiagnostics => exact decides_addDiagnostics v
  | ruleCode => exact decides_ruleCode v
  | controlFlowQuery => exact decides_controlFlowQuery v

-- The order of the bounds is a fault of the range, not of one of them.
example : check .addDiagnostics (.obj [("diagnostics", .arr [
      .obj [("span", .obj [("lo", .int 3), ("hi", .int 1)]), ("hint", .int 0)], .null]),
      ("code", .null)]) =
    .error [⟨[.key "code"], .stringType⟩,
      ⟨[.key "diagnostics", .index 0, .key "span"], .valueError⟩,
      ⟨[.key "diagnostics", .index 0, .key "message"], .missing⟩,
      ⟨[.key "diagnostics", .index 0, .key "hint"], .stringType⟩,
      ⟨[.key "diagnostics", .index 1], .modelType⟩] := by rfl

/-! ## Decoding -/

/-- How a raw payload is refused: as no text, as no JSON text, or for the faults of its value, all of
them in order. -/
inductive Refused (schema : PayloadSchema) : Json → ProtocolFault → Prop where
  | noText {raw : Json} (h : ∀ text, raw ≠ .str text) : Refused schema raw (.notText schema raw)
  | noJson {text : String} (h : Json.read? .wire text = none) :
    Refused schema (.str text) (.invalid schema [⟨[], .jsonInvalid⟩])
  | faulty {text : String} {v : Json} {violations : List Violation}
    (h : Json.read? .wire text = some v) (nonempty : violations ≠ [])
    (exact : ∀ f, f ∈ violations ↔ Fault schema v f)
    (ordered : violations.Pairwise Violation.Before) :
    Refused schema (.str text) (.invalid schema violations)

theorem decode_str (schema : PayloadSchema) {text : String} {v : Json}
    (h : Json.read? .wire text = some v) :
    decode schema (.str text) = (check schema v).mapError (.invalid schema) := by
  unfold decode ofText
  dsimp only
  rw [h]
  cases hc : check schema v <;> simp [hc, Except.mapError]

theorem decode_noJson (schema : PayloadSchema) {text : String}
    (h : Json.read? .wire text = none) :
    decode schema (.str text) = .error (.invalid schema [⟨[], .jsonInvalid⟩]) := by
  unfold decode ofText
  dsimp only
  rw [h]
  rfl

theorem decode_noText (schema : PayloadSchema) {raw : Json} (h : ∀ text, raw ≠ .str text) :
    decode schema raw = .error (.notText schema raw) := by
  unfold decode
  split
  · exact absurd rfl (h _)
  · rfl

theorem decode_str_eq_ok_iff {schema : PayloadSchema} {text : String} {v : Json}
    (h : Json.read? .wire text = some v) {p : Payload} :
    decode schema (.str text) = .ok p ↔ p.schema = schema ∧ Describes v p := by
  rw [decode_str schema h, ← (check_decides schema v).ok_iff]
  cases check schema v <;> simp [Except.mapError]

theorem decode_eq_ok_iff {schema : PayloadSchema} {raw : Json} {p : Payload} :
    decode schema raw = .ok p ↔ p.schema = schema ∧
      ∃ text v, raw = .str text ∧ Json.read? .wire text = some v ∧ Describes v p := by
  constructor
  · intro hdecode
    by_cases htext : ∃ text, raw = .str text
    · obtain ⟨text, rfl⟩ := htext
      cases hread : Json.read? .wire text with
      | none =>
        rw [decode_noJson schema hread] at hdecode
        cases hdecode
      | some v =>
        obtain ⟨hschema, hp⟩ := (decode_str_eq_ok_iff hread).1 hdecode
        exact ⟨hschema, text, v, rfl, hread, hp⟩
    · rw [decode_noText schema (not_exists.1 htext)] at hdecode
      cases hdecode
  · rintro ⟨hschema, text, v, rfl, hread, hp⟩
    exact (decode_str_eq_ok_iff hread).2 ⟨hschema, hp⟩

theorem refused_of_decode {schema : PayloadSchema} {raw : Json} {fault : ProtocolFault}
    (h : decode schema raw = .error fault) : Refused schema raw fault := by
  by_cases htext : ∃ text, raw = .str text
  · obtain ⟨text, rfl⟩ := htext
    cases hread : Json.read? .wire text with
    | none =>
      rw [decode_noJson schema hread] at h
      cases h
      exact .noJson hread
    | some v =>
      have hcheck := check_decides schema v
      rw [decode_str schema hread] at h
      cases hc : check schema v with
      | ok p =>
        rw [hc] at h
        cases h
      | error violations =>
        rw [hc] at h hcheck
        cases h
        exact .faulty hread (hcheck.refused violations rfl) hcheck.mem_iff hcheck.ordered
  · rw [decode_noText schema (not_exists.1 htext)] at h
    cases h
    exact .noText (not_exists.1 htext)

theorem decode_of_refused {schema : PayloadSchema} {raw : Json} {fault : ProtocolFault}
    (h : Refused schema raw fault) : decode schema raw = .error fault := by
  cases h with
  | noText hno => exact decode_noText schema hno
  | noJson hread => exact decode_noJson schema hread
  | @faulty text v violations hread nonempty exact ordered =>
    have hcheck := check_decides schema v
    rw [decode_str schema hread]
    cases hc : check schema v with
    | ok p =>
      -- then the value has no fault at all
      rw [hc] at hcheck
      obtain ⟨f, hf⟩ := List.exists_mem_of_ne_nil violations nonempty
      cases (hcheck.mem_iff f).2 ((exact f).1 hf)
    | error us =>
      rw [hc] at hcheck
      have heq : us = violations := Violation.eq_of_ordered hcheck.ordered ordered fun f =>
        (hcheck.mem_iff f).trans (exact f).symm
      rw [heq]
      rfl

end Payload

end ScriptLint

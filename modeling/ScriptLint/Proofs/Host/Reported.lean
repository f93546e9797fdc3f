/-
Reported findings as a store and as a list. Adding reports one after the other to an empty store
gives one entry for each code, in the order in which the codes were first reported, that holds the
findings of all reports of this code in their order (`addAll_nil`). Every finding of a store passes
the check that is made before it is handed on, so handing on never stops halfway (`handOn_entries`).
-/
import ScriptLint.Proofs.Host.Calls
import ScriptLint.Proofs.Json.Duplicates

namespace ScriptLint

namespace Reported

/-! ## Grouping by code -/

/-- The findings that reports hold for a code. -/
def findingsOf (reports : List (String × List WireDiagnostic)) (code : String) :
    List WireDiagnostic :=
  (reports.filter fun e => e.1 = code).flatMap (·.2)

/-- Reports grouped by code, in the order in which the codes come first. -/
def grouped (reports : List (String × List WireDiagnostic)) : Reported :=
  (reports.map (·.1)).eraseDups.map fun code => (code, findingsOf reports code)

/-- Adding to a store that has one entry for each of some codes. -/
theorem add_map (code : String) (diagnostics : List WireDiagnostic)
    (f : String → List WireDiagnostic) {codes : List String} (distinct : codes.Nodup) :
    add code diagnostics (codes.map fun c => (c, f c)) =
      (if code ∈ codes then codes else codes ++ [code]).map fun c =>
        (c, if c = code then (if code ∈ codes then f c else []) ++ diagnostics else f c) := by
  induction codes with
  | nil => simp [add]
  | cons c rest ih =>
    obtain ⟨hc, hrest⟩ := List.nodup_cons.1 distinct
    simp only [List.map_cons, add]
    by_cases h : c = code
    · subst h
      simp only [List.mem_cons_self, if_true, List.map_cons, List.cons.injEq, true_and]
      refine List.map_congr_left fun d hd => ?_
      have : d ≠ c := fun e => hc (e ▸ hd)
      rw [if_neg this]
    · rw [if_neg h, ih hrest]
      have hne : code ≠ c := fun e => h e.symm
      by_cases hm : code ∈ rest
      · simp [hm, h]
      · simp [hm, h, hne]

theorem grouped_concat (reports : List (String × List WireDiagnostic)) (code : String)
    (diagnostics : List WireDiagnostic) :
    grouped (reports ++ [(code, diagnostics)]) = (grouped reports).add code diagnostics := by
  unfold grouped
  rw [add_map code diagnostics (findingsOf reports) (nodup_eraseDups _)]
  simp only [List.map_append, List.map_cons, List.map_nil, eraseDups_concat, List.mem_eraseDups]
  refine List.map_congr_left fun c _ => ?_
  by_cases h : c = code
  · subst h
    by_cases hm : c ∈ reports.map (·.1)
    · simp [findingsOf, hm]
    · -- no report before this one has the code
      have hnone : findingsOf reports c = [] := by
        unfold findingsOf
        rw [List.filter_eq_nil_iff.2, List.flatMap_nil]
        intro e he
        simpa using fun hc => hm (List.mem_map.2 ⟨e, he, hc⟩)
      rw [if_pos rfl, if_neg hm]
      unfold findingsOf at hnone ⊢
      simp [hnone]
  · have : ¬code = c := fun e => h e.symm
    simp [findingsOf, h, this]

/-- Reports added to an empty store are grouped by code. -/
theorem addAll_nil (reports : List (String × List WireDiagnostic)) :
    addAll reports [] = grouped reports := by
  -- from the end, since a report is added to what all earlier ones have left
  induction reports using List.reverseRecOn with
  | nil => rfl
  | append_singleton reports e ih =>
    rw [grouped_concat, ← ih]
    simp [addAll]

/-! ## Handing on -/

/-- The parts of a reported finding pass the check of a finding, since its range is ordered. -/
theorem checked_eq (code : String) (d : WireDiagnostic) : d.checked code = .ok (d.withCode code) := by
  have hspan : Schema.laxSpan [("lo", .int d.span.lo), ("hi", .int d.span.hi)] = .ok d.span := by
    have hof : Span.of? d.span.lo d.span.hi = some d.span := Span.of?_eq_some_iff.2 ⟨rfl, rfl⟩
    have hoff : ∀ n : Nat, Schema.offset Schema.laxInt (.int n) = .ok n := fun n => by
      have : ¬((n : Int) < 0) := by omega
      simp [Schema.offset, Schema.laxInt, this]
    simp [Schema.laxSpan, Schema.spanOf, Checked.both, Checked.field, Checked.under, Json.member?,
      hoff, hof]
  unfold WireDiagnostic.checked Schema.diagnosticOfParts
  rw [hspan]
  cases hh : d.hint <;>
    simp [Checked.both, Checked.field, Checked.optional, Checked.under, Checked.text, Json.member?,
      Json.ofText?, Except.map, WireDiagnostic.withCode, hh]

theorem handOn_eq (entries : List (String × WireDiagnostic)) :
    handOn entries = (entries.map fun e => e.2.withCode e.1, none) := by
  induction entries with
  | nil => rfl
  | cons e rest ih =>
    obtain ⟨code, d⟩ := e
    simp [handOn, checked_eq, ih]

/-- All findings of a store are handed on. -/
theorem handOn_entries (reported : Reported) :
    handOn reported.entries = (reported.toDiagnostics, none) := handOn_eq _

end Reported

end ScriptLint

/-
Which failure a script surfaces. A script is told by the calls it made, each with its outcome, and
by its end; `Surfaces` says which failure that makes, without the search that finds it. A fatal
failure of a call counts even if the script caught it, and the first of them wins; otherwise an
error that escaped is taken back to the latest call whose failure shows in its text. What the host
recorded before the script has no part in it (`execute_surfaces`).
-/
import ScriptLint.Plugin.Runner
import ScriptLint.Proofs.Host.Calls

namespace ScriptLint

/-- A part occurs in a text where the text splits around it. -/
theorem Text.contains_iff {part cs : List Char} : contains part cs = true ↔ part <:+: cs := by
  induction cs with
  | nil => simp [contains]
  | cons c rest ih =>
    rw [contains, Bool.or_eq_true, List.isPrefixOf_iff_prefix, ih, List.infix_cons_iff]

/-! ## Failures of calls -/

namespace Failure

/-- Whether a failure ends the script even if the script caught it: a breach of the protocol, or an
error of a class that the engine does not raise on purpose. -/
def IsFatal (f : Failure) : Prop := f.kind = "ProtocolError" ∨ f.kind ∉ engineKinds

/-- Whether a failure shows in an error that escaped: its class and message stand in the text. -/
def ShowsIn (f : Failure) (error : Thrown) : Prop :=
  (f.kind ++ ": " ++ f.message).toList <:+: error.text.toList

/-- The failure of a call as it leaves a script that ended so. Its class and message stay. -/
def leaving (f : Failure) : Except Thrown Unit → Failure
  | .ok () => f
  | .error _ => .escaped f

theorem isSticky_iff {f : Failure} : Runner.isSticky f = true ↔ f.IsFatal := by
  simp [Runner.isSticky, IsFatal, isProtocolFault, isEngineFault]

theorem contains_trace_iff {f : Failure} {error : Thrown} :
    Text.contains (Runner.trace f).toList error.text.toList = true ↔ f.ShowsIn error :=
  Text.contains_iff

/-- Only a call that needs the control flow can fail without being fatal. -/
theorem not_isFatal_missingControlFlow : ¬missingControlFlow.IsFatal := by
  rw [← isSticky_iff]
  decide

end Failure

namespace Call

/-- Whether a call failed with a fatal failure. -/
def IsFatal (c : Call) : Prop := ∃ f, c.outcome = .error f ∧ f.IsFatal

/-- Whether a call failed with a failure that shows in an error. -/
def ShowsIn (c : Call) (error : Thrown) : Prop := ∃ f, c.outcome = .error f ∧ f.ShowsIn error

theorem failure?_eq_some_iff {c : Call} {f : Failure} :
    c.failure? = some f ↔ c.outcome = .error f := by
  unfold failure?
  cases c.outcome <;> simp

end Call

/-- Searching the failures of calls finds the failure of the first call that fits. -/
theorem find?_failuresOf_eq_some_iff {p : Failure → Bool} {calls : List Call} {f : Failure} :
    (failuresOf calls).find? p = some f ↔
      p f = true ∧ ∃ before c after, calls = before ++ c :: after ∧ c.outcome = .error f ∧
        ∀ b ∈ before, ∀ g, b.outcome = .error g → p g = false := by
  constructor
  · intro h
    rw [failuresOf, List.find?_filterMap, Option.bind_eq_some_iff] at h
    obtain ⟨c, hfind, hfailure⟩ := h
    obtain ⟨hfits, before, after, hsplit, hbefore⟩ := List.find?_eq_some_iff_append.1 hfind
    rw [hfailure] at hfits
    refine ⟨hfits, before, c, after, hsplit, Call.failure?_eq_some_iff.1 hfailure, ?_⟩
    intro b hb g hg
    have hnot := hbefore b hb
    rw [Call.failure?_eq_some_iff.2 hg] at hnot
    simpa using hnot
  · rintro ⟨hfits, before, c, after, rfl, hfailed, hbefore⟩
    have hnone : (before.filterMap Call.failure?).find? p = none := by
      rw [List.find?_eq_none]
      intro g hg
      obtain ⟨b, hb, hbg⟩ := List.mem_filterMap.1 hg
      simp [hbefore b hb g (Call.failure?_eq_some_iff.1 hbg)]
    rw [failuresOf, List.filterMap_append, List.find?_append, hnone, Option.none_or,
      List.filterMap_cons_some (Call.failure?_eq_some_iff.2 hfailed), List.find?_cons_of_pos hfits]

theorem find?_failuresOf_eq_none_iff {p : Failure → Bool} {calls : List Call} :
    (failuresOf calls).find? p = none ↔ ∀ c ∈ calls, ∀ f, c.outcome = .error f → p f = false := by
  simp only [List.find?_eq_none, failuresOf, List.mem_filterMap, Call.failure?_eq_some_iff,
    Bool.not_eq_true]
  constructor
  · intro h c hc f hf
    exact h f ⟨c, hc, hf⟩
  · rintro h f ⟨c, hc, hf⟩
    exact h c hc f hf

theorem failuresOf_reverse (calls : List Call) :
    (failuresOf calls).reverse = failuresOf calls.reverse := by
  rw [failuresOf, failuresOf, List.filterMap_reverse]

namespace Runner

/-! ## What surfaces -/

/-- What a script surfaces at a place, told by its calls and its end. -/
inductive Surfaces (place : String) (calls : List Call) :
    Except Thrown Unit → Except Failure Unit → Prop where
  /-- A normal end and no fatal call. -/
  | nothing (harmless : ∀ c ∈ calls, ¬c.IsFatal) : Surfaces place calls (.ok ()) (.ok ())
  /-- The first fatal call, however the script ended. -/
  | first {ending : Except Thrown Unit} {before after : List Call} {c : Call} {f : Failure}
      (split : calls = before ++ c :: after) (earlier : ∀ b ∈ before, ¬b.IsFatal)
      (failed : c.outcome = .error f) (fatal : f.IsFatal) :
      Surfaces place calls ending (.error (f.leaving ending))
  /-- The latest call that shows in the error that escaped. -/
  | latest {error : Thrown} {before after : List Call} {c : Call} {f : Failure}
      (harmless : ∀ c ∈ calls, ¬c.IsFatal) (split : calls = before ++ c :: after)
      (later : ∀ b ∈ after, ¬b.ShowsIn error) (failed : c.outcome = .error f)
      (shown : f.ShowsIn error) :
      Surfaces place calls (.error error) (.error (f.leaving (.error error)))
  /-- The error itself, since no call shows in it. -/
  | uncaught {error : Thrown} (harmless : ∀ c ∈ calls, ¬c.IsFatal)
      (hidden : ∀ c ∈ calls, ¬c.ShowsIn error) :
      Surfaces place calls (.error error) (.error (.uncaught place error))

variable {place : String} {calls : List Call} {ending : Except Thrown Unit}

theorem not_isFatal_iff {c : Call} :
    ¬c.IsFatal ↔ ∀ f, c.outcome = .error f → isSticky f = false := by
  simp only [Call.IsFatal, not_exists, not_and, ← Failure.isSticky_iff, Bool.not_eq_true]

theorem not_showsIn_iff {c : Call} {error : Thrown} :
    ¬c.ShowsIn error ↔ ∀ f, c.outcome = .error f →
      Text.contains (trace f).toList error.text.toList = false := by
  simp only [Call.ShowsIn, not_exists, not_and, ← Failure.contains_trace_iff, Bool.not_eq_true]

theorem find?_isSticky_eq_none_iff :
    (failuresOf calls).find? isSticky = none ↔ ∀ c ∈ calls, ¬c.IsFatal := by
  simp only [find?_failuresOf_eq_none_iff, not_isFatal_iff]

/-- The verdict on a script is what it surfaces. -/
theorem surfaces_verdict (place : String) (ending : Except Thrown Unit) (calls : List Call) :
    Surfaces place calls ending (verdict place ending (failuresOf calls)) := by
  unfold verdict
  cases hsticky : (failuresOf calls).find? isSticky with
  | some f =>
    obtain ⟨hfatal, before, c, after, hsplit, hfailed, hbefore⟩ :=
      find?_failuresOf_eq_some_iff.1 hsticky
    have hfirst : Surfaces place calls ending (.error (f.leaving ending)) :=
      .first hsplit (fun b hb => not_isFatal_iff.2 (hbefore b hb)) hfailed
        (Failure.isSticky_iff.1 hfatal)
    cases ending with
    | ok u => exact hfirst
    | error error => exact hfirst
  | none =>
    have hharmless := find?_isSticky_eq_none_iff.1 hsticky
    cases ending with
    | ok u => exact .nothing hharmless
    | error error =>
      dsimp only
      rw [failuresOf_reverse]
      split
      · rename_i f hshown
        -- the search runs from the last call to the first
        obtain ⟨hshows, later, c, earlier, hsplit, hfailed, hlater⟩ :=
          find?_failuresOf_eq_some_iff.1 hshown
        have hsplit' : calls = earlier.reverse ++ c :: later.reverse := by
          rw [← List.reverse_reverse calls, hsplit]
          simp
        refine .latest hharmless hsplit' ?_ hfailed (Failure.contains_trace_iff.1 hshows)
        intro b hb
        exact not_showsIn_iff.2 (hlater b (List.mem_reverse.1 hb))
      · rename_i hhidden
        refine .uncaught hharmless ?_
        intro c hc
        exact not_showsIn_iff.2 (find?_failuresOf_eq_none_iff.1 hhidden c (List.mem_reverse.2 hc))

-- A failure that was rethrown inside another error is still found in its text.
example : verdict "runPlugins"
    (.error ⟨"Error", "seen: MissingContextError: ControlFlow is not set"⟩) [.missingControlFlow] =
      .error (.escaped .missingControlFlow) := by rfl

/-- A script surfaces one thing only. -/
theorem Surfaces.eq_verdict {outcome : Except Failure Unit}
    (h : Surfaces place calls ending outcome) :
    outcome = verdict place ending (failuresOf calls) := by
  unfold verdict
  cases h with
  | nothing harmless => rw [find?_isSticky_eq_none_iff.2 harmless]
  | @first _ before after c f split earlier failed fatal =>
    have hfirst : (failuresOf calls).find? isSticky = some f :=
      find?_failuresOf_eq_some_iff.2 ⟨Failure.isSticky_iff.2 fatal, before, c, after, split, failed,
        fun b hb => not_isFatal_iff.1 (earlier b hb)⟩
    rw [hfirst]
    cases ending <;> rfl
  | @latest error before after c f harmless split later failed shown =>
    have hsplit : calls.reverse = after.reverse ++ c :: before.reverse := by
      rw [split]
      simp
    have hlatest : (failuresOf calls.reverse).find?
        (fun f => Text.contains (trace f).toList error.text.toList) = some f :=
      find?_failuresOf_eq_some_iff.2 ⟨Failure.contains_trace_iff.2 shown, after.reverse, c,
        before.reverse, hsplit, failed,
        fun b hb => not_showsIn_iff.1 (later b (List.mem_reverse.1 hb))⟩
    rw [find?_isSticky_eq_none_iff.2 harmless, failuresOf_reverse]
    dsimp only
    rw [hlatest]
    rfl
  | @uncaught error harmless hidden =>
    have hnone : (failuresOf calls.reverse).find?
        (fun f => Text.contains (trace f).toList error.text.toList) = none :=
      find?_failuresOf_eq_none_iff.2 fun c hc => not_showsIn_iff.1 (hidden c (List.mem_reverse.1 hc))
    rw [find?_isSticky_eq_none_iff.2 harmless, failuresOf_reverse]
    dsimp only
    rw [hnone]

theorem surfaces_ok_iff :
    Surfaces place calls ending (.ok ()) ↔ ending = .ok () ∧ ∀ c ∈ calls, ¬c.IsFatal := by
  constructor
  · intro h
    cases h with
    | nothing harmless => exact ⟨rfl, harmless⟩
  · rintro ⟨rfl, harmless⟩
    exact .nothing harmless

/-- What a script surfaces that ended normally is fatal. -/
theorem Surfaces.isFatal {f : Failure} (h : Surfaces place calls (.ok ()) (.error f)) :
    f.IsFatal := by
  cases h with
  | first _ _ _ fatal => exact fatal

/-! ## Executing -/

/-- What executing a script surfaces: exactly what its calls and its end say. So it succeeds if and
only if the script ended normally and none of its calls was fatal; a control flow that is missing
and was caught does not fail a script that ends normally; and of what lies before, only the state of
the script and the control flow of the pass count, not the failures of earlier scripts. -/
theorem execute_surfaces {σ : Type} (r : Runner σ) (place : String)
    (script : σ → Script (Except Thrown Unit × σ)) :
    let calls := (script r.realm).calls r.host.clearFailures
    let ending := ((script r.realm).run r.host.clearFailures).1.1
    (∀ outcome, (r.execute place script).1 = outcome ↔ Surfaces place calls ending outcome) ∧
      ((r.execute place script).1 = .ok () ↔ ending = .ok () ∧ ∀ c ∈ calls, ¬c.IsFatal) ∧
      (ending = .ok () → ∀ f, (r.execute place script).1 = .error f →
        f.kind ≠ Failure.missingControlFlow.kind) ∧
      ∀ r' : Runner σ, r'.realm = r.realm → r'.host.flow = r.host.flow →
        (r'.execute place script).1 = (r.execute place script).1 := by
  intro calls ending
  have hverdict : (r.execute place script).1 = verdict place ending (failuresOf calls) := by
    show verdict place ending ((script r.realm).run r.host.clearFailures).2.failures = _
    rw [Script.run_failures]
    rfl
  have hsurfaces : ∀ outcome, (r.execute place script).1 = outcome ↔
      Surfaces place calls ending outcome := by
    intro outcome
    rw [hverdict]
    constructor
    · rintro rfl
      exact surfaces_verdict place ending calls
    · intro h
      exact h.eq_verdict.symm
  refine ⟨hsurfaces, (hsurfaces _).trans surfaces_ok_iff, ?_, ?_⟩
  · intro hending f hf hkind
    have hsurfaced := (hsurfaces _).1 hf
    rw [hending] at hsurfaced
    apply Failure.not_isFatal_missingControlFlow
    unfold Failure.IsFatal
    rw [← hkind]
    exact hsurfaced.isFatal
  · intro r' hrealm hflow
    have hhost : r'.host.clearFailures.flow = r.host.clearFailures.flow := hflow
    rw [hverdict]
    show verdict place ((script r'.realm).run r'.host.clearFailures).1.1
      ((script r'.realm).run r'.host.clearFailures).2.failures = _
    rw [Script.run_failures, hrealm, Script.run_fst_congr _ hhost, Script.calls_congr _ hhost]
    rfl

end Runner

end ScriptLint

/-
Which rule codes a plugin keeps over its runs, for every engine and every list of runs. A code is
registered after a run, and handed to the rules by it, exactly if an evaluation that did not fail
has registered it (`registered_iff_evaluated`). What an evaluation registers that fails is lost,
unless a later evaluation registers it again; `lostCode` is an engine that does not.
-/
import ScriptLint.Proofs.Host.Payload
import ScriptLint.Proofs.Plugin.Pass

namespace ScriptLint.Runner

variable {σ : Type}

/-! ## Histories -/

/-- A plugin after runs in order. -/
def after (r : Runner σ) : List (Context × Program) → Runner σ
  | [] => r
  | (context, program) :: rest => ((r.run context program).2).after rest

/-- Whether the evaluation of a pass registers a code and does not fail. -/
def Registers (r : Runner σ) (flow : Option ControlFlow) (code : String) : Prop :=
  (r.begin flow).prepare.1 = .ok () ∧ code ∈ codesOf (r.evaluationCalls flow)

theorem after_append (r : Runner σ) (first second : List (Context × Program)) :
    r.after (first ++ second) = (r.after first).after second := by
  induction first generalizing r with
  | nil => rfl
  | cons p rest ih => exact ih _

/-! ## One run -/

/-- A run that comes to the rules is a collection of the prepared plugin, any other run leaves the
plugin as it was prepared. -/
theorem run_cases (r : Runner σ) (context : Context) (program : Program) :
    (∃ f ready, (r.begin context.flow).prepare = (.error f, ready) ∧
        r.run context program = (.failed f, ready)) ∨
      (∃ ready, (r.begin context.flow).prepare = (.ok (), ready) ∧ ready.registered = [] ∧
        r.run context program = (.complete [], ready)) ∨
      ∃ ready, (r.begin context.flow).prepare = (.ok (), ready) ∧ ready.registered ≠ [] ∧
        r.run context program = ready.collect program := by
  unfold run
  rcases hp : (r.begin context.flow).prepare with ⟨f | u, ready⟩
  · exact .inl ⟨f, ready, rfl, rfl⟩
  · right
    by_cases hempty : ready.registered = []
    · exact .inl ⟨ready, rfl, hempty, by simp [hempty]⟩
    · exact .inr ⟨ready, rfl, hempty, by simp [hempty]⟩

/-- A run keeps the codes that are registered and adds those of its evaluation, unless this
fails. -/
theorem mem_registered_run (r : Runner σ) (context : Context) (program : Program) (code : String) :
    code ∈ (r.run context program).2.registered ↔
      code ∈ r.registered ∨ r.Registers context.flow code := by
  -- what the preparation decides, the collection keeps
  have prepared : ∀ ready, (r.begin context.flow).prepare = (.ok (), ready) →
      (code ∈ ready.registered ↔ code ∈ r.registered ∨ r.Registers context.flow code) := by
    intro ready hp
    obtain ⟨-, -, -, hreg⟩ := prepare_ok hp
    rw [hreg, Codes.mem_insertAll, Codes.mem_insertAll, Registers, hp]
    simp [or_comm]
  rcases run_cases r context program with
    ⟨f, ready, hp, hrun⟩ | ⟨ready, hp, -, hrun⟩ | ⟨ready, hp, -, hrun⟩
  · obtain ⟨-, -, -, hreg⟩ := prepare_error hp
    rw [hrun, hreg, Registers, hp]
    simp
  · rw [hrun]
    exact prepared ready hp
  · obtain ⟨realm, host, ⟨f, hc⟩ | hc⟩ := collect_cases ready program
    · rw [hrun, hc]
      exact prepared ready hp
    · rw [hrun, hc]
      exact prepared ready hp

/-! ## Many runs -/

theorem mem_registered_after (r : Runner σ) (runs : List (Context × Program)) (code : String) :
    code ∈ (r.after runs).registered ↔ code ∈ r.registered ∨
      ∃ earlier context program later, runs = earlier ++ (context, program) :: later ∧
        (r.after earlier).Registers context.flow code := by
  induction runs generalizing r with
  | nil =>
    simp only [after, List.nil_eq_append_iff]
    constructor
    · exact .inl
    · rintro (h | ⟨_, _, _, _, ⟨-, h⟩, -⟩)
      · exact h
      · cases h
  | cons p rest ih =>
    obtain ⟨context, program⟩ := p
    rw [after, ih, mem_registered_run, or_assoc]
    refine or_congr_right ?_
    constructor
    · rintro (h | ⟨earlier, c, p, later, rfl, h⟩)
      · exact ⟨[], context, program, rest, rfl, h⟩
      · exact ⟨(context, program) :: earlier, c, p, later, rfl, h⟩
    · rintro ⟨earlier, c, p, later, hsplit, h⟩
      cases earlier with
      | nil =>
        simp only [List.nil_append, List.cons.injEq, Prod.mk.injEq] at hsplit
        obtain ⟨⟨rfl, rfl⟩, rfl⟩ := hsplit
        exact .inl h
      | cons q earlier =>
        simp only [List.cons_append, List.cons.injEq] at hsplit
        obtain ⟨rfl, rfl⟩ := hsplit
        exact .inr ⟨earlier, c, p, later, rfl, h⟩

/-! ## A plugin that loses its code -/

/-- An engine whose modules register a code and then catch a breach of the protocol. The state says
whether they have been entered; once they have, an evaluation does nothing. -/
def lostCode (code : String) : Engine Bool :=
  { evaluate := fun entered =>
      if entered then .done (.ok (), true)
      else
        .ask (.str (Payload.ruleCode code).operation)
          (.str (Payload.ruleCode code).toJson.plainText) fun _ =>
            .ask .null .null fun _ => .done (.ok (), true)
    runRules := fun _ _ entered => .done (.ok (), entered) }

theorem serve_code (s : HostState) (code : String) :
    s.serve (.str (Payload.ruleCode code).operation)
        (.str (Payload.ruleCode code).toJson.plainText) =
      .ok (.obj [], { s with codes := Codes.insert code s.codes }) :=
  Payload.serve_plainText s (p := .ruleCode code) (fun _ h => nomatch h)

/-- A call of an operation without a name is refused. -/
theorem serve_null (s : HostState) :
    s.serve .null .null = .error (.protocol (.unknownOperation .null)) := rfl

theorem codesOf_lostCode (code : String) (s : HostState) :
    codesOf (((lostCode code).evaluate false).calls s) = [code] := by
  have hdecode := Payload.decode_plainText (p := .ruleCode code) (fun _ h => nomatch h)
  have haccepted : Call.code? ⟨.str (Payload.ruleCode code).operation,
      .str (Payload.ruleCode code).toJson.plainText, .ok (.obj [])⟩ = some code := by
    simp [Call.code?, Call.accepted?, Payload.ofOperation?_operation, hdecode, Except.toOption]
  have hrefused : Call.code? ⟨.null, .null, .error (.protocol (.unknownOperation .null))⟩ = none :=
    rfl
  simp [lostCode, Script.calls, HostState.dispatch, serve_code, serve_null, Except.map, codesOf,
    haccepted, hrefused]

theorem run_lostCode (code : String) (s : HostState) :
    ((lostCode code).evaluate false).run s =
      ((.ok (), true), { s with
        codes := Codes.insert code s.codes
        failures := s.failures ++ [.protocol (.unknownOperation .null)] }) := by
  simp [lostCode, Script.run, HostState.dispatch, serve_code, serve_null]

/-- The first run of the plugin fails in its evaluation. -/
theorem prepare_lostCode (code : String) (flow : Option ControlFlow) :
    ∃ host, ((start "" "" (lostCode code) false).begin flow).prepare =
      (.error (.protocol (.unknownOperation .null)),
        { (start "" "" (lostCode code) false) with realm := true, host := host }) := by
  have hverdict : verdict "" (.ok ()) [.protocol (.unknownOperation .null)] =
      .error (.protocol (.unknownOperation .null)) := by
    simp [verdict, isSticky, Failure.isProtocolFault, Failure.kind]
  unfold prepare
  simp only [start, begin, execute, Bool.false_eq_true, if_false, run_lostCode]
  simp only [HostState.beginPass, HostState.clearFailures, List.nil_append, hverdict]
  exact ⟨_, rfl⟩

/-- After its first run the plugin has been entered, and it has not been evaluated. -/
theorem run_lostCode_snd (code : String) (context : Context) (program : Program) :
    ∃ host, ((start "" "" (lostCode code) false).run context program).2 =
      { start "" "" (lostCode code) false with realm := true, host := host } := by
  obtain ⟨host, hp⟩ := prepare_lostCode code context.flow
  refine ⟨host, ?_⟩
  unfold run
  rw [hp]

theorem not_registers_lostCode (code : String) (flow : Option ControlFlow) :
    ¬(start "" "" (lostCode code) false).Registers flow code := by
  obtain ⟨host, hp⟩ := prepare_lostCode code flow
  rintro ⟨h, -⟩
  rw [hp] at h
  cases h

/-- Once it has been entered, the plugin makes no call and has nothing to report. -/
theorem run_entered (code : String) (host : HostState) (context : Context) (program : Program) :
    (({ start "" "" (lostCode code) false with realm := true, host := host } : Runner Bool).run
        context program).1 = .complete [] ∧
      ({ start "" "" (lostCode code) false with
        realm := true, host := host } : Runner Bool).evaluationCalls context.flow = [] :=
  ⟨rfl, rfl⟩

/-! ## Which codes are kept -/

/-- After a run of a new plugin that did not fail, following any runs, a code is registered exactly
if one of the evaluations so far registered it and did not fail, and exactly if the run handed it
to the rules. -/
theorem registered_iff_evaluated (path entryId : String) (engine : Engine σ) (realm : σ)
    (runs : List (Context × Program)) (context : Context) (program : Program) (code : String)
    (h : (((start path entryId engine realm).after runs).run context program).1.failure = none) :
    (code ∈ (((start path entryId engine realm).after runs).run context program).2.registered ↔
      ∃ earlier context' program' later,
        runs ++ [(context, program)] = earlier ++ (context', program') :: later ∧
        ((start path entryId engine realm).after earlier).Registers context'.flow code) ∧
    (code ∈ (((start path entryId engine realm).after runs).run context program).2.registered ↔
      ∃ ready,
        (((start path entryId engine realm).after runs).begin context.flow).prepare =
          (.ok (), ready) ∧
        code ∈ ready.registered ∧
        ((start path entryId engine realm).after runs).run context program =
          ready.collect program) := by
  constructor
  · -- a new plugin has no codes, so every code comes from a run, the last one included
    have hall := mem_registered_after (start path entryId engine realm)
      (runs ++ [(context, program)]) code
    rw [after_append] at hall
    simpa [after, start] using hall
  · generalize (start path entryId engine realm).after runs = r at h ⊢
    constructor
    · intro hcode
      rcases run_cases r context program with
        ⟨f, ready, -, hrun⟩ | ⟨ready, -, hnil, hrun⟩ | ⟨ready, hp, -, hrun⟩
      · rw [hrun] at h
        cases h
      · rw [hrun, hnil] at hcode
        cases hcode
      · refine ⟨ready, hp, ?_, hrun⟩
        obtain ⟨realm', host, ⟨f, hc⟩ | hc⟩ := collect_cases ready program
        · rw [hrun, hc] at h
          cases h
        · rwa [hrun, hc] at hcode
    · rintro ⟨ready, -, hcode, hrun⟩
      obtain ⟨realm', host, ⟨f, hc⟩ | hc⟩ := collect_cases ready program
      · rwa [hrun, hc]
      · rwa [hrun, hc]

/-- The second run of the plugin does not fail, and the code that its first evaluation registered
is not there. -/
theorem registered_iff_evaluated_lostCode :
    "c" ∈ codesOf ((start "" "" (lostCode "c") false).evaluationCalls none) ∧
      (((start "" "" (lostCode "c") false).after [(.start none, default)]).run
        (.start none) default).1.failure = none ∧
      "c" ∉ (((start "" "" (lostCode "c") false).after [(.start none, default)]).run
        (.start none) default).2.registered := by
  obtain ⟨host, hrun⟩ := run_lostCode_snd "c" (.start none) default
  have hafter : (start "" "" (lostCode "c") false).after [(.start none, default)] =
      { start "" "" (lostCode "c") false with realm := true, host := host } := hrun
  obtain ⟨hreport, hcalls⟩ := run_entered "c" host (.start none) default
  have hfailure : (((start "" "" (lostCode "c") false).after [(.start none, default)]).run
      (.start none) default).1.failure = none := by
    rw [hafter, hreport]
    rfl
  refine ⟨?_, hfailure, ?_⟩
  · show "c" ∈ codesOf (((lostCode "c").evaluate false).calls _)
    rw [codesOf_lostCode]
    exact List.mem_singleton_self _
  · rw [(registered_iff_evaluated "" "" (lostCode "c") false [(.start none, default)] (.start none)
      default "c" hfailure).1]
    rintro ⟨earlier, context, program, later, hsplit, hregisters⟩
    rcases earlier with _ | ⟨p, _ | ⟨q, rest⟩⟩
    · exact not_registers_lostCode "c" _ hregisters
    · -- the second evaluation makes no call
      simp only [List.cons_append, List.nil_append, List.cons.injEq, Prod.mk.injEq] at hsplit
      obtain ⟨rfl, ⟨rfl, -⟩, -⟩ := hsplit
      have hmem := hregisters.2
      rw [hafter, hcalls] at hmem
      exact nomatch hmem
    · simp at hsplit

end ScriptLint.Runner

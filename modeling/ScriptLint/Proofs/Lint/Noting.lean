/-
What a pass over a program notes. The plugins of a registry run in turn, and the codes of one that
does not fail are pointed at it, so that of several plugins with one code the last is found; a
failure that is not tolerated ends the pass. When the turn of a plugin comes and what it has
registered then is said by `Registry.Notes`, apart from the loops.
-/
import ScriptLint.Proofs.Lint.Passes
import Mathlib.Data.Nat.Find
import Mathlib.Data.String.Basic

namespace ScriptLint

/-! ## Codes in order -/

namespace Codes

theorem pairwise_insert {codes : Codes} (h : codes.Pairwise (· < ·)) (code : String) :
    (insert code codes).Pairwise (· < ·) := by
  induction codes with
  | nil => simp [insert]
  | cons c rest ih =>
    obtain ⟨hc, hrest⟩ := List.pairwise_cons.1 h
    unfold insert
    split
    · next hlt =>
      refine List.pairwise_cons.2 ⟨?_, h⟩
      intro d hd
      rcases List.mem_cons.1 hd with rfl | hd
      · exact hlt
      · exact String.lt_trans hlt (hc d hd)
    · next hnot =>
      split
      · exact h
      · next hne =>
        refine List.pairwise_cons.2 ⟨?_, ih hrest⟩
        intro d hd
        rcases mem_insert.1 hd with rfl | hd
        · rcases lt_trichotomy c d with hlt | heq | hgt
          · exact hlt
          · exact absurd heq.symm hne
          · exact absurd hgt hnot
        · exact hc d hd

theorem pairwise_insertAll {codes : Codes} (h : codes.Pairwise (· < ·)) (added : List String) :
    (insertAll added codes).Pairwise (· < ·) := by
  unfold insertAll
  induction added generalizing codes with
  | nil => exact h
  | cons code rest ih => exact ih (pairwise_insert h code)

theorem pairwise_ofList (codes : List String) : (ofList codes).Pairwise (· < ·) :=
  pairwise_insertAll .nil codes

end Codes

namespace Registry

variable {π : Type}

/-- The listed codes are those that lead anywhere. -/
theorem mem_codes_iff {r : Registry π} {code : String} :
    code ∈ r.codes ↔ ∃ handle, r.lookup code = some handle := by
  unfold codes lookup Json.member?
  rw [Codes.mem_ofList, ← Option.isSome_iff_exists, Option.isSome_map, List.find?_isSome]
  simp

theorem lookup_notePlugin (r : Registry π) (index : Nat) (codes : List String) (code : String) :
    (r.notePlugin index codes).lookup code =
      if code ∈ codes then some (.plugin index) else r.lookup code := by
  induction codes generalizing r with
  | nil => rfl
  | cons c rest ih =>
    rw [notePlugin_cons, ih]
    by_cases hrest : code ∈ rest
    · simp [hrest]
    · rw [if_neg hrest]
      by_cases hc : c = code
      · subst hc
        rw [if_pos (by simp)]
        exact Json.member?_setMember_self ..
      · rw [if_neg (by simp [hrest, Ne.symm hc])]
        exact Json.member?_setMember_of_ne hc ..

variable [PluginKind π] {program : Program}

/-! ## Passes over the plugins -/

theorem lookup_afterRun (r : Registry π) (index : Nat) (plugin : π) (context : Context)
    (code : String) : (r.afterRun index plugin context program).lookup code =
      if (PluginKind.run plugin context program).1.failure = none ∧
          code ∈ PluginKind.registered (PluginKind.run plugin context program).2
      then some (.plugin index) else r.lookup code := by
  unfold afterRun runPlugin
  dsimp only
  split
  · next f hfailure => simp [hfailure, setPlugin, lookup]
  · next hfailure =>
    rw [lookup_notePlugin]
    simp only [hfailure, true_and]
    rfl

/-- The registry after plugins ran from an index on, up to the first failure that is not
tolerated. -/
def afterPlugins (tolerated : Failure → Bool) (program : Program) (index : Nat) :
    List π → Registry π → Context → Registry π
  | [], r, _ => r
  | plugin :: rest, r, context =>
    let report := (PluginKind.run plugin context program).1
    let next := r.afterRun index plugin context program
    if report.failure.all tolerated then
      afterPlugins tolerated program (index + 1) rest next (context.add report)
    else next

theorem runPluginsFrom_eq (index : Nat) (plugins : List π) (r : Registry π) (context : Context) :
    (runPluginsFrom program index plugins r context).2.2 =
      afterPlugins (fun _ => false) program index plugins r context := by
  induction plugins generalizing index r context with
  | nil => rfl
  | cons plugin rest ih =>
    rw [runPluginsFrom, afterPlugins, runPlugin_eq]
    cases hfailure : (PluginKind.run plugin context program).1.failure with
    | none => simp [ih]
    | some f => simp

theorem lintPluginsFrom_eq (index : Nat) (plugins : List π) (r : Registry π) (context : Context)
    (failures : List PluginFailure) :
    (lintPluginsFrom program index plugins r context failures).2 =
      afterPlugins Failure.isEngineFault program index plugins r context := by
  induction plugins generalizing index r context failures with
  | nil => rfl
  | cons plugin rest ih =>
    rw [lintPluginsFrom, afterPlugins, runPlugin_eq]
    cases hfailure : (PluginKind.run plugin context program).1.failure with
    | none => simp [ih]
    | some f =>
      by_cases hfault : f.isEngineFault
      · simp [ih, hfault]
      · simp [hfault]

/-- The context in which one of several plugins runs that run in turn. -/
def turnContext (program : Program) (plugins : List π) (context : Context) (index : Nat) :
    Context :=
  context.addAll (reports program ((plugins.take index).map .plugin) context)

/-- Whether the turn of the plugin at an index comes, its run does not fail, and it has then
registered a code. -/
def NotesInTurn (tolerated : Failure → Bool) (program : Program) (plugins : List π)
    (context : Context) (index : Nat) (code : String) : Prop :=
  (∀ report ∈ reports program ((plugins.take index).map .plugin) context,
    report.failure.all tolerated) ∧
  ∃ plugin, plugins[index]? = some plugin ∧
    (PluginKind.run plugin (turnContext program plugins context index) program).1.failure = none ∧
    code ∈ PluginKind.registered
      (PluginKind.run plugin (turnContext program plugins context index) program).2

section Turns

variable {tolerated : Failure → Bool} {plugin : π} {rest : List π} {context : Context}
  {code : String}

theorem notesInTurn_zero : NotesInTurn tolerated program (plugin :: rest) context 0 code ↔
    (PluginKind.run plugin context program).1.failure = none ∧
      code ∈ PluginKind.registered (PluginKind.run plugin context program).2 := by
  unfold NotesInTurn turnContext
  simp [reports, Context.addAll_nil]

theorem notesInTurn_succ {index : Nat} :
    NotesInTurn tolerated program (plugin :: rest) context (index + 1) code ↔
      (PluginKind.run plugin context program).1.failure.all tolerated ∧
        NotesInTurn tolerated program rest
          (context.add (PluginKind.run plugin context program).1) index code := by
  unfold NotesInTurn turnContext
  rw [List.take_succ_cons, List.map_cons, reports, List.forall_mem_cons, Context.addAll_cons,
    List.getElem?_cons_succ, and_assoc]
  rfl

end Turns

/-- A code that no plugin notes in its turn leads where it led before. -/
theorem lookup_afterPlugins_of_not_notes {tolerated : Failure → Bool} {plugins : List π}
    {context : Context} {code : String}
    (h : ∀ turn, ¬ NotesInTurn tolerated program plugins context turn code) (index : Nat)
    (r : Registry π) :
    (afterPlugins tolerated program index plugins r context).lookup code = r.lookup code := by
  induction plugins generalizing index r context with
  | nil => rfl
  | cons plugin rest ih =>
    have hfirst : (r.afterRun index plugin context program).lookup code = r.lookup code := by
      rw [lookup_afterRun, if_neg]
      exact fun hnotes => h 0 (notesInTurn_zero.2 hnotes)
    unfold afterPlugins
    dsimp only
    split
    · next htolerated =>
      rw [ih (fun turn hturn => h (turn + 1) (notesInTurn_succ.2 ⟨htolerated, hturn⟩)), hfirst]
    · exact hfirst

/-- A code leads to the last of the plugins that note it in their turn. -/
theorem lookup_afterPlugins_of_notes {tolerated : Failure → Bool} {plugins : List π}
    {context : Context} {code : String} {turn : Nat}
    (h : NotesInTurn tolerated program plugins context turn code)
    (hlast : ∀ later, turn < later → ¬ NotesInTurn tolerated program plugins context later code)
    (index : Nat) (r : Registry π) :
    (afterPlugins tolerated program index plugins r context).lookup code =
      some (.plugin (index + turn)) := by
  induction plugins generalizing index r context turn with
  | nil =>
    obtain ⟨-, plugin, hplugin, -⟩ := h
    simp at hplugin
  | cons plugin rest ih =>
    unfold afterPlugins
    dsimp only
    cases turn with
    | zero =>
      have hnotes := notesInTurn_zero.1 h
      have htolerated : (PluginKind.run plugin context program).1.failure.all tolerated := by
        rw [hnotes.1]
        rfl
      rw [if_pos htolerated, lookup_afterPlugins_of_not_notes, lookup_afterRun, if_pos hnotes]
      · rfl
      · intro later hlater
        exact hlast (later + 1) (by omega) (notesInTurn_succ.2 ⟨htolerated, hlater⟩)
    | succ turn =>
      obtain ⟨htolerated, hturn⟩ := notesInTurn_succ.1 h
      rw [if_pos htolerated, ih hturn, Nat.add_assoc, Nat.add_comm 1 turn]
      intro later hlt hlater
      exact hlast (later + 1) (by omega) (notesInTurn_succ.2 ⟨htolerated, hlater⟩)

/-! ## Passes -/

/-- Whether the plugin at an index comes to run in a pass over a program and notes a code: no native
rule fails, the plugins before it fail in ways only that are tolerated, and it does not fail and
has then registered the code. -/
def Notes (r : Registry π) (tolerated : Failure → Bool) (program : Program) (context : Context)
    (index : Nat) (code : String) : Prop :=
  (∀ report ∈ reports program (r.natives.map (Source.native (π := π))) context,
    report.failure = none) ∧
  NotesInTurn tolerated program r.plugins (r.afterNatives program context) index code

/-- Whether a plugin is the last one that notes a code in a pass. -/
def NotesLast (r : Registry π) (tolerated : Failure → Bool) (program : Program)
    (context : Context) (index : Nat) (code : String) : Prop :=
  r.Notes tolerated program context index code ∧
    ∀ later, index < later → ¬ r.Notes tolerated program context later code

/-- The registry after a pass. -/
def afterPass (r : Registry π) (tolerated : Failure → Bool) (program : Program)
    (context : Context) : Registry π :=
  match runNatives program r.natives context with
  | (some _, _) => r
  | (none, context) => afterPlugins tolerated program 0 r.plugins r context

theorem run_eq_afterPass (r : Registry π) (context : Context) :
    (r.run context program).2.2 = r.afterPass (fun _ => false) program context := by
  unfold run afterPass
  rcases runNatives program r.natives context with ⟨_ | f, left⟩
  · exact runPluginsFrom_eq ..
  · rfl

theorem lint_eq_afterPass (r : Registry π) (flow : Option ControlFlow) :
    (r.lint program flow).2 =
      r.afterPass Failure.isEngineFault program (passContext program flow) := by
  unfold lint afterPass passContext
  dsimp only
  rcases runNatives program r.natives _ with ⟨_ | f, left⟩
  · exact lintPluginsFrom_eq ..
  · rfl

/-- Native rules run through exactly if none of their reports has a failure. -/
theorem runNatives_cases (program : Program) (rules : List Rule) (context : Context) :
    (∃ f left, runNatives program rules context = (some f, left) ∧
      ∃ report ∈ reports program (rules.map (Source.native (π := π))) context,
        report.failure ≠ none) ∨
    (runNatives program rules context =
        (none, context.addAll (reports program (rules.map (Source.native (π := π))) context)) ∧
      ∀ report ∈ reports program (rules.map (Source.native (π := π))) context,
        report.failure = none) := by
  induction rules generalizing context with
  | nil => exact .inr ⟨rfl, fun _ h => nomatch h⟩
  | cons rule rest ih =>
    unfold runNatives
    rw [List.map_cons, reports]
    dsimp only [Source.report]
    rw [Context.addAll_cons]
    cases hfailure : (rule.check context program).failure with
    | some f => exact .inl ⟨f, _, rfl, _, List.mem_cons_self, by simp [hfailure]⟩
    | none =>
      rcases ih (context.add (rule.check context program)) with
        ⟨f, left, hrun, report, hmem, hfails⟩ | ⟨hrun, hall⟩
      · exact .inl ⟨f, left, hrun, report, List.mem_cons_of_mem _ hmem, hfails⟩
      · exact .inr ⟨hrun, List.forall_mem_cons.2 ⟨hfailure, hall⟩⟩

theorem lookup_afterPass_of_notesLast {r : Registry π} {tolerated : Failure → Bool}
    {context : Context} {index : Nat} {code : String}
    (h : r.NotesLast tolerated program context index code) :
    (r.afterPass tolerated program context).lookup code = some (.plugin index) := by
  obtain ⟨⟨hnatives, hturn⟩, hlast⟩ := h
  unfold afterPass
  rcases runNatives_cases (π := π) program r.natives context with
    ⟨f, left, -, report, hmem, hfails⟩ | ⟨hrun, -⟩
  · exact absurd (hnatives report hmem) hfails
  · have hlookup := lookup_afterPlugins_of_notes hturn
      (fun later hlt hlater => hlast later hlt ⟨hnatives, hlater⟩) 0 r
    rw [Nat.zero_add] at hlookup
    rw [hrun]
    exact hlookup

theorem lookup_afterPass_of_not_notes {r : Registry π} {tolerated : Failure → Bool}
    {context : Context} {code : String}
    (h : ∀ index, ¬ r.Notes tolerated program context index code) :
    (r.afterPass tolerated program context).lookup code = r.lookup code := by
  unfold afterPass
  rcases runNatives_cases (π := π) program r.natives context with
    ⟨f, left, hrun, -⟩ | ⟨hrun, hall⟩
  · rw [hrun]
  · rw [hrun]
    exact lookup_afterPlugins_of_not_notes (fun turn hturn => h turn ⟨hall, hturn⟩) 0 r

/-- A code that some plugin notes in a pass is noted by a last one. -/
theorem exists_notesLast {r : Registry π} {tolerated : Failure → Bool} {context : Context}
    {index : Nat} {code : String} (h : r.Notes tolerated program context index code) :
    ∃ last, r.NotesLast tolerated program context last code := by
  classical
  let P := fun later => r.Notes tolerated program context later code
  have hbound : ∀ later, P later → later ≤ r.plugins.length := by
    rintro later ⟨-, -, plugin, hplugin, -⟩
    exact (List.getElem?_eq_some_iff.1 hplugin).1.le
  refine ⟨Nat.findGreatest P r.plugins.length,
    Nat.findGreatest_spec (P := P) (hbound index h) h, ?_⟩
  intro later hlt hlater
  exact Nat.findGreatest_is_greatest hlt (hbound later hlater) hlater

end Registry

end ScriptLint

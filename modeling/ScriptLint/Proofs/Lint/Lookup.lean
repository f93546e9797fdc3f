/-
What a registry tells of its history. Its sources are the native rules and then the plugins, in the
order of their registration, whatever codes were noted meanwhile; a code leads to what the latest
operation that registered or noted it made it lead to (`after_tells`). An operation that points
codes anywhere is a registration, a noting, or a pass over a program.
-/
import ScriptLint.Proofs.Lint.Noting
import Mathlib.Logic.Relation

namespace ScriptLint

namespace Registry

variable {π : Type} [PluginKind π] {program : Program}

/-! ## Sources -/

/-- Whether a plugin has become another by runs. -/
def Becomes : π → π → Prop :=
  Relation.ReflTransGen fun p q => ∃ context program, q = (PluginKind.run p context program).2

/-- Whether plugins have become others by runs, each in its place. -/
def BecomeAll : List π → List π → Prop := List.Forall₂ Becomes

theorem BecomeAll.refl (plugins : List π) : BecomeAll plugins plugins :=
  List.forall₂_same.2 fun _ _ => .refl

theorem BecomeAll.trans {first second third : List π} (h : BecomeAll first second)
    (h' : BecomeAll second third) : BecomeAll first third := by
  unfold BecomeAll at *
  induction h generalizing third with
  | nil => exact h'
  | cons hp hrest ih =>
    cases h' with
    | cons hq hrest' => exact .cons (Relation.ReflTransGen.trans hp hq) (ih hrest')

theorem BecomeAll.set {plugins : List π} {index : Nat} {p q : π} (h : plugins[index]? = some p)
    (hbecomes : Becomes p q) : BecomeAll plugins (plugins.set index q) := by
  induction plugins generalizing index with
  | nil => simp at h
  | cons first rest ih =>
    cases index with
    | zero =>
      rw [List.getElem?_cons_zero, Option.some.injEq] at h
      subst h
      exact .cons hbecomes (BecomeAll.refl rest)
    | succ index => exact .cons .refl (ih h)

theorem plugins_afterRun (r : Registry π) (index : Nat) (plugin : π) (context : Context) :
    (r.afterRun index plugin context program).plugins =
      r.plugins.set index (PluginKind.run plugin context program).2 := by
  unfold afterRun runPlugin
  dsimp only
  split <;> rfl

/-- A pass leaves every plugin in its place. -/
theorem becomes_afterPlugins (tolerated : Failure → Bool) {index : Nat} {plugins : List π}
    {r : Registry π} (h : r.plugins.drop index = plugins) (context : Context) :
    BecomeAll r.plugins (afterPlugins tolerated program index plugins r context).plugins := by
  induction plugins generalizing index r context with
  | nil => exact .refl _
  | cons plugin rest ih =>
    have hplugin : r.plugins[index]? = some plugin := by
      rw [← List.head?_drop, h]
      rfl
    have hrest : (r.afterRun index plugin context program).plugins.drop (index + 1) = rest := by
      rw [plugins_afterRun, List.drop_set_of_lt (by omega), ← List.tail_drop, h]
      rfl
    have hrun : BecomeAll r.plugins (r.afterRun index plugin context program).plugins := by
      rw [plugins_afterRun]
      exact .set hplugin (.single ⟨context, program, rfl⟩)
    unfold afterPlugins
    dsimp only
    split
    · exact hrun.trans (ih hrest _)
    · exact hrun

theorem becomes_afterPass (tolerated : Failure → Bool) (r : Registry π) (context : Context) :
    BecomeAll r.plugins (r.afterPass tolerated program context).plugins := by
  unfold afterPass
  split
  · exact .refl _
  · exact becomes_afterPlugins tolerated rfl _

/-- Whether every native rule that a history registers is accepted. -/
def Accepted (ops : List (Operation π)) : Prop :=
  ∀ before rule, before ++ [.addNative rule] <+: ops →
    ∃ r, (after before).addNative rule = .ok r

theorem accepted_nil : Accepted ([] : List (Operation π)) := by
  intro before rule h
  simpa using h.length_le

theorem accepted_concat_iff {ops : List (Operation π)} {op : Operation π} :
    Accepted (ops ++ [op]) ↔ Accepted ops ∧
      ∀ rule, op = .addNative rule → ∃ r, (after ops).addNative rule = .ok r := by
  unfold Accepted
  simp only [List.prefix_concat_iff, List.append_singleton_inj]
  constructor
  · intro h
    exact ⟨fun before rule hbefore => h before rule (.inr hbefore),
      fun rule hop => h ops rule (.inl ⟨rfl, hop.symm⟩)⟩
  · rintro ⟨hold, hlast⟩ before rule (⟨rfl, hop⟩ | hbefore)
    · exact hlast rule hop.symm
    · exact hold before rule hbefore

/-- The native rules are those that were registered, in order. -/
theorem natives_after {ops : List (Operation π)} (h : Accepted ops) :
    (after ops).natives = ops.filterMap (·.rule?) := by
  induction ops using List.reverseRecOn with
  | nil => rfl
  | append_singleton ops op ih =>
    obtain ⟨hinit, hlast⟩ := accepted_concat_iff.1 h
    rw [after_concat, List.filterMap_append, ← ih hinit]
    cases op with
    | addNative rule =>
      obtain ⟨r, hr⟩ := hlast rule rfl
      have hnot : ¬ ∃ other, (after ops).lookup rule.code = some (.native other) := by
        rintro ⟨other, hother⟩
        rw [addNative_of_native hother] at hr
        cases hr
      rw [apply_addNative_of_not_native hnot]
      rfl
    | addPlugin plugin => simp [Operation.apply, Operation.rule?, addPlugin]
    | note index codes =>
      simp [Operation.apply, Operation.rule?, (shadows_notePlugin _ index codes).natives]
    | run context program => simp [Operation.apply, Operation.rule?, (shadows_run _).natives]
    | lint program flow => simp [Operation.apply, Operation.rule?, (shadows_lint _).natives]

/-- What an operation leaves of the plugins: they stay in their places, and one can be added. -/
theorem becomes_apply (r : Registry π) (op : Operation π) :
    BecomeAll (r.plugins ++ op.plugin?.toList) (op.apply r).plugins := by
  have hstay : ∀ {plugins : List π}, BecomeAll r.plugins plugins →
      BecomeAll (r.plugins ++ []) plugins := by
    intro plugins h
    rwa [List.append_nil]
  cases op with
  | addNative rule =>
    by_cases hled : ∃ other, r.lookup rule.code = some (.native other)
    · obtain ⟨other, hother⟩ := hled
      rw [apply_addNative_of_native hother]
      exact hstay (.refl r.plugins)
    · rw [apply_addNative_of_not_native hled]
      exact hstay (.refl r.plugins)
  | addPlugin plugin => exact .refl _
  | note index codes => exact hstay (.refl r.plugins)
  | run context program =>
    rw [Operation.apply, run_eq_afterPass]
    exact hstay (becomes_afterPass _ r context)
  | lint program flow =>
    rw [Operation.apply, lint_eq_afterPass]
    exact hstay (becomes_afterPass _ r _)

/-- The plugins are those that were registered, in order, as their runs have left them. -/
theorem plugins_after (ops : List (Operation π)) :
    BecomeAll (ops.filterMap (·.plugin?)) (after ops).plugins := by
  induction ops using List.reverseRecOn with
  | nil => exact .refl _
  | append_singleton ops op ih =>
    rw [after_concat, List.filterMap_append]
    refine BecomeAll.trans ?_ (becomes_apply (after ops) op)
    have hlast : [op].filterMap (·.plugin?) = op.plugin?.toList := by
      cases op <;> rfl
    rw [hlast]
    exact List.rel_append ih (BecomeAll.refl _)

/-! ## The latest operation -/

/-- What an operation on a registry makes a code lead to: registering a rule points its code at the
rule if it is accepted, noting codes points them at a plugin, and a pass points a code at the last
plugin that notes it. -/
inductive Points (r : Registry π) (code : String) : Operation π → Handle → Prop
  | native {rule : Rule} {accepted : Registry π} (own : rule.code = code)
      (h : r.addNative rule = .ok accepted) : Points r code (.addNative rule) (.native rule)
  | note {index : Nat} {codes : List String} (h : code ∈ codes) :
      Points r code (.note index codes) (.plugin index)
  | run {context : Context} {program : Program} {index : Nat}
      (h : r.NotesLast (fun _ => false) program context index code) :
      Points r code (.run context program) (.plugin index)
  | lint {program : Program} {flow : Option ControlFlow} {index : Nat}
      (h : r.NotesLast Failure.isEngineFault program (passContext program flow) index code) :
      Points r code (.lint program flow) (.plugin index)

theorem lookup_apply_of_points {r : Registry π} {op : Operation π} {code : String}
    {handle : Handle} (h : Points r code op handle) : (op.apply r).lookup code = some handle := by
  cases h with
  | @native rule accepted own haccepted =>
    subst own
    have hnot : ¬ ∃ other, r.lookup rule.code = some (.native other) := by
      rintro ⟨other, hother⟩
      rw [addNative_of_native hother] at haccepted
      cases haccepted
    rw [apply_addNative_of_not_native hnot]
    exact lookup_withNative_self r rule
  | note hmem =>
    rw [Operation.apply, lookup_notePlugin, if_pos hmem]
  | run hlast =>
    rw [Operation.apply, run_eq_afterPass]
    exact lookup_afterPass_of_notesLast hlast
  | lint hlast =>
    rw [Operation.apply, lint_eq_afterPass]
    exact lookup_afterPass_of_notesLast hlast

theorem lookup_apply_of_not_points {r : Registry π} {op : Operation π} {code : String}
    (h : ∀ handle, ¬ Points r code op handle) : (op.apply r).lookup code = r.lookup code := by
  cases op with
  | addNative rule =>
    by_cases hled : ∃ other, r.lookup rule.code = some (.native other)
    · obtain ⟨other, hother⟩ := hled
      rw [apply_addNative_of_native hother]
    · rw [apply_addNative_of_not_native hled]
      apply lookup_withNative_of_ne
      exact fun own => h _ (.native own (addNative_of_not_native hled))
  | addPlugin plugin => rfl
  | note index codes =>
    rw [Operation.apply, lookup_notePlugin, if_neg]
    exact fun hmem => h _ (.note hmem)
  | run context program =>
    rw [Operation.apply, run_eq_afterPass]
    apply lookup_afterPass_of_not_notes
    intro index hnotes
    obtain ⟨last, hlast⟩ := exists_notesLast hnotes
    exact h _ (.run hlast)
  | lint program flow =>
    rw [Operation.apply, lint_eq_afterPass]
    apply lookup_afterPass_of_not_notes
    intro index hnotes
    obtain ⟨last, hlast⟩ := exists_notesLast hnotes
    exact h _ (.lint hlast)

/-- Whether the operation of a history that follows on some of its operations makes a code lead to
a handle. -/
def PointsAfter (ops before : List (Operation π)) (code : String) (handle : Handle) : Prop :=
  ∃ op, before ++ [op] <+: ops ∧ Points (after before) code op handle

/-- Whether the latest operation of a history that makes a code lead anywhere makes it lead to a
handle. -/
def IsLatest (ops : List (Operation π)) (code : String) (handle : Handle) : Prop :=
  ∃ before, PointsAfter ops before code handle ∧
    ∀ later other, before.length < later.length → ¬ PointsAfter ops later code other

theorem pointsAfter_concat {ops before : List (Operation π)} {op : Operation π} {code : String}
    {handle : Handle} : PointsAfter (ops ++ [op]) before code handle ↔
      (before = ops ∧ Points (after ops) code op handle) ∨ PointsAfter ops before code handle := by
  unfold PointsAfter
  simp only [List.prefix_concat_iff, List.append_singleton_inj]
  constructor
  · rintro ⟨next, ⟨rfl, rfl⟩ | hprefix, hpoints⟩
    · exact .inl ⟨rfl, hpoints⟩
    · exact .inr ⟨next, hprefix, hpoints⟩
  · rintro (⟨rfl, hpoints⟩ | ⟨next, hprefix, hpoints⟩)
    · exact ⟨op, .inl ⟨rfl, rfl⟩, hpoints⟩
    · exact ⟨next, .inr hprefix, hpoints⟩

theorem PointsAfter.length_lt {ops before : List (Operation π)} {code : String} {handle : Handle}
    (h : PointsAfter ops before code handle) : before.length < ops.length := by
  obtain ⟨op, hprefix, -⟩ := h
  have hlength := hprefix.length_le
  rw [List.length_append, List.length_singleton] at hlength
  omega

/-- A code leads to what the latest operation that pointed it anywhere has pointed it at. -/
theorem lookup_after_iff (ops : List (Operation π)) (code : String) (handle : Handle) :
    (after ops).lookup code = some handle ↔ IsLatest ops code handle := by
  induction ops using List.reverseRecOn with
  | nil =>
    constructor
    · intro h
      cases h
    · rintro ⟨before, hpoints, -⟩
      exact absurd hpoints.length_lt (by simp)
  | append_singleton ops op ih =>
    rw [after_concat]
    unfold IsLatest
    simp only [pointsAfter_concat]
    by_cases hpoints : ∃ pointed, Points (after ops) code op pointed
    · -- the last operation is the latest one
      obtain ⟨pointed, hpoints⟩ := hpoints
      rw [lookup_apply_of_points hpoints]
      constructor
      · intro h
        cases h
        refine ⟨ops, .inl ⟨rfl, hpoints⟩, ?_⟩
        rintro later other hlt (⟨rfl, -⟩ | hlater)
        · omega
        · have hlength := hlater.length_lt
          omega
      · rintro ⟨before, ⟨rfl, hsame⟩ | hbefore, hlatest⟩
        · rw [← lookup_apply_of_points hpoints, lookup_apply_of_points hsame]
        · exact absurd (.inl ⟨rfl, hpoints⟩) (hlatest ops pointed hbefore.length_lt)
    · have hnot : ∀ pointed, ¬ Points (after ops) code op pointed := not_exists.1 hpoints
      simp only [hnot, and_false, false_or]
      rw [lookup_apply_of_not_points hnot, ih]
      rfl

/-- A code leads nowhere exactly if no operation has pointed it anywhere. -/
theorem lookup_after_eq_none_iff (ops : List (Operation π)) (code : String) :
    (after ops).lookup code = none ↔ ∀ before handle, ¬ PointsAfter ops before code handle := by
  induction ops using List.reverseRecOn with
  | nil =>
    refine iff_of_true rfl ?_
    intro before handle hpoints
    exact absurd hpoints.length_lt (by simp)
  | append_singleton ops op ih =>
    rw [after_concat]
    simp only [pointsAfter_concat]
    by_cases hpoints : ∃ pointed, Points (after ops) code op pointed
    · obtain ⟨pointed, hpoints⟩ := hpoints
      rw [lookup_apply_of_points hpoints]
      refine iff_of_false (by simp) ?_
      intro h
      exact h ops pointed (.inl ⟨rfl, hpoints⟩)
    · have hnot : ∀ pointed, ¬ Points (after ops) code op pointed := not_exists.1 hpoints
      simp only [hnot, and_false, false_or]
      rw [lookup_apply_of_not_points hnot, ih]

/-! ## What a registry tells -/

/-- A registry tells of a history. Its sources are the rules that were registered and then the
plugins, as their runs have left them; a code leads to what the latest operation that registered or
noted it has pointed it at, and nowhere if there was none; and the codes that lead anywhere are
listed in strictly ascending order. -/
structure Tells (ops : List (Operation π)) (r : Registry π) : Prop where
  sources : ∃ plugins, BecomeAll (ops.filterMap (·.plugin?)) plugins ∧
    r.sources = (ops.filterMap (·.rule?)).map .native ++ plugins.map .plugin
  lookup : ∀ code handle, r.lookup code = some handle ↔ IsLatest ops code handle
  unknown : ∀ code, r.lookup code = none ↔
    ∀ before handle, ¬ PointsAfter ops before code handle
  ascending : r.codes.Pairwise (· < ·)
  listed : ∀ code, code ∈ r.codes ↔ ∃ handle, r.lookup code = some handle

/-- What a lint pass of a registry leaves: every code that a plugin has registered whose pass
succeeded leads to the last such plugin, and no code has come to lead to a plugin that has not
registered it or whose pass failed. -/
structure NotesOf (r : Registry π) (program : Program) (flow : Option ControlFlow)
    (left : Registry π) : Prop where
  noted : ∀ code index,
    r.Notes Failure.isEngineFault program (passContext program flow) index code →
      ∃ last, r.NotesLast Failure.isEngineFault program (passContext program flow) last code ∧
        left.lookup code = some (.plugin last)
  kept : ∀ code, (∀ index,
    ¬ r.Notes Failure.isEngineFault program (passContext program flow) index code) →
      left.lookup code = r.lookup code

theorem notesOf_lint (r : Registry π) (flow : Option ControlFlow) :
    r.NotesOf program flow (r.lint program flow).2 where
  noted code index hnotes := by
    obtain ⟨last, hlast⟩ := exists_notesLast hnotes
    rw [lint_eq_afterPass]
    exact ⟨last, hlast, lookup_afterPass_of_notesLast hlast⟩
  kept code hnot := by
    rw [lint_eq_afterPass]
    exact lookup_afterPass_of_not_notes hnot

/-- Shadowing changes only what codes lead to. After every history in which the registrations of
native rules are accepted, the registry tells of the history; and a lint pass over any program
notes the codes of the plugins that succeed in it, and of no others. -/
theorem after_tells (ops : List (Operation π)) (h : Accepted ops) :
    Tells ops (after ops) ∧ ∀ program flow,
      (after ops).NotesOf program flow ((after ops).lint program flow).2 := by
  constructor
  · refine ⟨⟨(after ops).plugins, plugins_after ops, ?_⟩, lookup_after_iff ops,
      lookup_after_eq_none_iff ops, Codes.pairwise_ofList _, fun code => mem_codes_iff⟩
    rw [Registry.sources, natives_after h]
  · intro program flow
    exact notesOf_lint (after ops) flow

/-- A rule that reports nothing. -/
def quietRule (code : String) : Rule := ⟨code, "Quiet", "", fun _ _ => .complete []⟩

/-- A rule is shadowed by a plugin whose passes fail, and another rule is registered. -/
def shadowing : List (Operation (Runner Unit)) :=
  [.addNative (quietRule "c"), .addPlugin (ending "/p/crash.js" (.error ⟨"Error", "boom"⟩)),
   .note 0 ["c"], .lint default none, .addNative (quietRule "d")]

theorem accepted_shadowing : Accepted shadowing := by
  have hfirst : Accepted (π := Runner Unit) [.addNative (quietRule "c")] := by
    refine accepted_concat_iff.2 ⟨accepted_nil, ?_⟩
    intro rule h
    cases h
    exact ⟨_, rfl⟩
  have hplugin : Accepted (shadowing.take 2) := accepted_concat_iff.2 ⟨hfirst, by simp⟩
  have hnote : Accepted (shadowing.take 3) := accepted_concat_iff.2 ⟨hplugin, by simp⟩
  have hlint : Accepted (shadowing.take 4) := accepted_concat_iff.2 ⟨hnote, by simp⟩
  refine accepted_concat_iff.2 ⟨hlint, ?_⟩
  intro rule h
  cases h
  exact ⟨_, rfl⟩

theorem after_tells_shadowing : Accepted shadowing ∧ Tells shadowing (after shadowing) ∧
    (after shadowing).NotesOf default none ((after shadowing).lint default none).2 ∧
    IsLatest shadowing "c" (.plugin 0) ∧ (after shadowing).codes = ["c", "d"] := by
  obtain ⟨htells, hnotes⟩ := after_tells shadowing accepted_shadowing
  exact ⟨accepted_shadowing, htells, hnotes default none,
    (htells.lookup "c" (.plugin 0)).1 rfl, by decide⟩

end Registry

end ScriptLint

/-
Histories of registries. A registry that a history leaves knows the code of each of its native
rules, but the code need not lead to the rule: running or noting a plugin can shadow it. A code
that is shadowed is not refused to another native rule, so that native codes are unique in those
histories only in which no rule is registered under a shadowed code.
-/
import ScriptLint.Lint.Pass
import Mathlib.Data.List.Induction
import Mathlib.Data.List.Nodup

namespace ScriptLint

namespace Registry

/-- What can be done with a registry. -/
inductive Operation (π : Type) where
  | addNative (rule : Rule)
  | addPlugin (plugin : π)
  | note (index : Nat) (codes : List String)
  | run (context : Context) (program : Program)
  | lint (program : Program) (flow : Option ControlFlow)

variable {π : Type}

/-- Whether a code that a native rule has leads to a plugin. -/
def IsShadowed (r : Registry π) (code : String) : Prop :=
  (∃ rule ∈ r.natives, rule.code = code) ∧ ∃ index, r.lookup code = some (.plugin index)

/-! ## Registering a native rule -/

theorem lookup_empty (code : String) : (empty : Registry π).lookup code = none := rfl

/-- The registry after a native rule was accepted. -/
def withNative (r : Registry π) (rule : Rule) : Registry π :=
  { r with
    natives := r.natives ++ [rule]
    handles := Json.setMember r.handles rule.code (.native rule) }

theorem natives_withNative (r : Registry π) (rule : Rule) :
    (r.withNative rule).natives = r.natives ++ [rule] := rfl

theorem lookup_withNative_self (r : Registry π) (rule : Rule) :
    (r.withNative rule).lookup rule.code = some (.native rule) :=
  Json.member?_setMember_self ..

theorem lookup_withNative_of_ne {code : String} {rule : Rule} (h : rule.code ≠ code)
    (r : Registry π) : (r.withNative rule).lookup code = r.lookup code :=
  Json.member?_setMember_of_ne h ..

theorem addNative_of_native {r : Registry π} {rule other : Rule}
    (h : r.lookup rule.code = some (.native other)) :
    r.addNative rule = .error (.duplicateRule rule.code other.owner) := by
  simp only [addNative, h]

theorem addNative_of_not_native {r : Registry π} {rule : Rule}
    (h : ¬ ∃ other, r.lookup rule.code = some (.native other)) :
    r.addNative rule = .ok (r.withNative rule) := by
  unfold addNative
  split
  · next other hother => exact absurd ⟨other, hother⟩ h
  · rfl

/-- A rule is refused exactly when its code leads to a native rule. -/
theorem addNative_eq_error_iff {r : Registry π} {rule : Rule} {failure : Failure} :
    r.addNative rule = .error failure ↔ ∃ other, r.lookup rule.code = some (.native other) ∧
      failure = .duplicateRule rule.code other.owner := by
  by_cases hled : ∃ other, r.lookup rule.code = some (.native other)
  · obtain ⟨other, hother⟩ := hled
    simp only [addNative_of_native hother, hother, Except.error.injEq, Option.some.injEq,
      Handle.native.injEq, exists_eq_left', eq_comm]
  · simp only [addNative_of_not_native hled, reduceCtorEq, false_iff]
    exact fun ⟨other, hother, _⟩ => hled ⟨other, hother⟩

/-! ## Shadowing -/

/-- A registry has the same native rules as before, and some codes have come to lead to plugins. -/
structure Shadows (r r' : Registry π) : Prop where
  natives : r'.natives = r.natives
  lookup : ∀ code, r'.lookup code = r.lookup code ∨ ∃ index, r'.lookup code = some (.plugin index)

theorem Shadows.refl (r : Registry π) : r.Shadows r := ⟨rfl, fun _ => .inl rfl⟩

theorem Shadows.trans {r r' r'' : Registry π} (h : r.Shadows r') (h' : r'.Shadows r'') :
    r.Shadows r'' where
  natives := h'.natives.trans h.natives
  lookup code := by
    obtain hsame | hled := h'.lookup code
    · rw [hsame]
      exact h.lookup code
    · exact .inr hled

theorem shadows_addPlugin (r : Registry π) (plugin : π) : r.Shadows (r.addPlugin plugin) :=
  ⟨rfl, fun _ => .inl rfl⟩

theorem shadows_setPlugin (r : Registry π) (index : Nat) (plugin : π) :
    r.Shadows (r.setPlugin index plugin) :=
  ⟨rfl, fun _ => .inl rfl⟩

theorem notePlugin_cons (r : Registry π) (index : Nat) (code : String) (codes : List String) :
    r.notePlugin index (code :: codes) = (r.notePlugin index [code]).notePlugin index codes := rfl

theorem shadows_notePlugin (r : Registry π) (index : Nat) (codes : List String) :
    r.Shadows (r.notePlugin index codes) := by
  induction codes generalizing r with
  | nil => exact .refl r
  | cons code codes ih =>
    rw [notePlugin_cons]
    have hfirst : r.Shadows (r.notePlugin index [code]) := by
      refine ⟨rfl, fun other => ?_⟩
      by_cases hother : code = other
      · subst hother
        exact .inr ⟨index, Json.member?_setMember_self ..⟩
      · exact .inl (Json.member?_setMember_of_ne hother ..)
    exact hfirst.trans (ih _)

section Runs

variable [PluginKind π] {r : Registry π} {program : Program}

theorem shadows_runPlugin (index : Nat) (plugin : π) (context : Context) :
    r.Shadows (r.runPlugin index plugin context program).2.2 := by
  unfold runPlugin
  dsimp only
  split
  · exact shadows_setPlugin ..
  · exact (shadows_setPlugin ..).trans (shadows_notePlugin ..)

theorem shadows_runPluginsFrom {index : Nat} {plugins : List π} {context : Context} :
    r.Shadows (runPluginsFrom program index plugins r context).2.2 := by
  induction plugins generalizing index r context with
  | nil => exact .refl r
  | cons plugin rest ih =>
    have hstep : r.Shadows (r.runPlugin index plugin context program).2.2 := shadows_runPlugin ..
    unfold runPluginsFrom
    split
    · next hrun => simpa only [hrun] using hstep
    · next hrun => exact Shadows.trans (by simpa only [hrun] using hstep) ih

theorem shadows_lintPluginsFrom {index : Nat} {plugins : List π} {context : Context}
    {failures : List PluginFailure} :
    r.Shadows (lintPluginsFrom program index plugins r context failures).2 := by
  induction plugins generalizing index r context failures with
  | nil => exact .refl r
  | cons plugin rest ih =>
    have hstep : r.Shadows (r.runPlugin index plugin context program).2.2 := shadows_runPlugin ..
    unfold lintPluginsFrom
    split
    · next hrun => exact Shadows.trans (by simpa only [hrun] using hstep) ih
    · next hrun =>
      rw [hrun] at hstep
      split
      · exact hstep.trans ih
      · exact hstep

theorem shadows_run (context : Context) : r.Shadows (r.run context program).2.2 := by
  unfold run
  split
  · exact .refl r
  · exact shadows_runPluginsFrom

theorem shadows_lint (flow : Option ControlFlow) : r.Shadows (r.lint program flow).2 := by
  unfold lint
  dsimp only
  split
  · exact .refl r
  · exact shadows_lintPluginsFrom

end Runs

/-! ## Histories -/

variable [PluginKind π]

/-- The registry after an operation. A rule that is refused leaves it as it is. -/
def Operation.apply (r : Registry π) : Operation π → Registry π
  | .addNative rule =>
    match r.addNative rule with
    | .ok r => r
    | .error _ => r
  | .addPlugin plugin => r.addPlugin plugin
  | .note index codes => r.notePlugin index codes
  | .run context program => (r.run context program).2.2
  | .lint program flow => (r.lint program flow).2

/-- The registry that operations make of an empty one. -/
def after (ops : List (Operation π)) : Registry π := ops.foldl Operation.apply empty

theorem after_nil : after ([] : List (Operation π)) = empty := rfl

theorem after_concat (ops : List (Operation π)) (op : Operation π) :
    after (ops ++ [op]) = op.apply (after ops) := List.foldl_concat ..

theorem apply_addNative_of_native {r : Registry π} {rule other : Rule}
    (h : r.lookup rule.code = some (.native other)) :
    (Operation.addNative rule).apply r = r := by
  simp only [Operation.apply, addNative_of_native h]

theorem apply_addNative_of_not_native {r : Registry π} {rule : Rule}
    (h : ¬ ∃ other, r.lookup rule.code = some (.native other)) :
    (Operation.addNative rule).apply r = r.withNative rule := by
  simp only [Operation.apply, addNative_of_not_native h]

/-- What an operation does: it registers a native rule, or it only shadows. -/
theorem apply_cases (r : Registry π) (op : Operation π) :
    (∃ rule, op = .addNative rule ∧ op.apply r = r.withNative rule) ∨ r.Shadows (op.apply r) := by
  cases op with
  | addNative rule =>
    by_cases hled : ∃ other, r.lookup rule.code = some (.native other)
    · obtain ⟨other, hother⟩ := hled
      right
      rw [apply_addNative_of_native hother]
      exact .refl r
    · exact .inl ⟨rule, rfl, apply_addNative_of_not_native hled⟩
  | addPlugin plugin => exact .inr (shadows_addPlugin r plugin)
  | note index codes => exact .inr (shadows_notePlugin r index codes)
  | run context program => exact .inr (shadows_run context)
  | lint program flow => exact .inr (shadows_lint flow)

omit [PluginKind π] in
theorem not_isShadowed_of_native {r : Registry π} {code : String} {rule : Rule}
    (h : r.lookup code = some (.native rule)) : ¬ r.IsShadowed code := by
  rintro ⟨-, index, hindex⟩
  simp [h] at hindex

/-- What codes have to do with native rules in a registry. -/
structure Coherent (r : Registry π) : Prop where
  /-- A code that leads to a native rule is the rule's own, and the rule is registered. -/
  led : ∀ code rule, r.lookup code = some (.native rule) → rule ∈ r.natives ∧ rule.code = code
  /-- The code of a native rule leads somewhere. -/
  known : ∀ rule ∈ r.natives, r.lookup rule.code ≠ none

namespace Coherent

variable {r r' : Registry π}

omit [PluginKind π]

theorem empty : (empty : Registry π).Coherent where
  led code rule h := by simp [lookup_empty] at h
  known rule h := by cases h

theorem shadows (hr : r.Coherent) (h : r.Shadows r') : r'.Coherent where
  led code rule hrule := by
    rw [h.natives]
    obtain hsame | ⟨index, hindex⟩ := h.lookup code
    · exact hr.led code rule (hsame ▸ hrule)
    · simp [hindex] at hrule
  known rule hrule := by
    rw [h.natives] at hrule
    obtain hsame | ⟨index, hindex⟩ := h.lookup rule.code
    · rw [hsame]
      exact hr.known rule hrule
    · simp [hindex]

theorem withNative (hr : r.Coherent) (rule : Rule) : (r.withNative rule).Coherent where
  led code led hled := by
    rw [natives_withNative, List.mem_append, List.mem_singleton]
    by_cases hcode : rule.code = code
    · subst hcode
      rw [lookup_withNative_self] at hled
      cases hled
      exact ⟨.inr rfl, rfl⟩
    · rw [lookup_withNative_of_ne hcode] at hled
      obtain ⟨hmem, hown⟩ := hr.led code led hled
      exact ⟨.inl hmem, hown⟩
  known other hother := by
    by_cases hcode : rule.code = other.code
    · rw [← hcode, lookup_withNative_self]
      simp
    · rw [lookup_withNative_of_ne hcode]
      rw [natives_withNative, List.mem_append, List.mem_singleton] at hother
      obtain hmem | rfl := hother
      · exact hr.known other hmem
      · exact absurd rfl hcode

/-- A code leads to a native rule exactly when one has it and it is not shadowed. -/
theorem native_iff (hr : r.Coherent) {code : String} :
    (∃ rule, r.lookup code = some (.native rule)) ↔
      (∃ rule ∈ r.natives, rule.code = code) ∧ ¬ r.IsShadowed code := by
  constructor
  · rintro ⟨rule, hrule⟩
    exact ⟨⟨rule, hr.led code rule hrule⟩, not_isShadowed_of_native hrule⟩
  · rintro ⟨⟨rule, hmem, rfl⟩, hnot⟩
    match hlook : r.lookup rule.code with
    | none => exact absurd hlook (hr.known rule hmem)
    | some (.native other) => exact ⟨other, rfl⟩
    | some (.plugin index) => exact absurd ⟨⟨rule, hmem, rfl⟩, index, hlook⟩ hnot

end Coherent

theorem coherent_after (ops : List (Operation π)) : (after ops).Coherent := by
  induction ops using List.reverseRecOn with
  | nil => exact .empty
  | append_singleton ops op ih =>
    rw [after_concat]
    obtain ⟨rule, -, hnew⟩ | hshadows := apply_cases (after ops) op
    · rw [hnew]
      exact ih.withNative rule
    · exact ih.shadows hshadows

/-! ## Uniqueness of native codes -/

/-- An operation keeps native codes unique unless it registers a rule under a shadowed code. -/
theorem nodup_apply_iff {r : Registry π} (hr : r.Coherent) (op : Operation π) :
    ((op.apply r).natives.map (·.code)).Nodup ↔ (r.natives.map (·.code)).Nodup ∧
      ∀ rule, op = .addNative rule → ¬ r.IsShadowed rule.code := by
  cases op with
  | addNative rule =>
    by_cases hled : ∃ other, r.lookup rule.code = some (.native other)
    · obtain ⟨other, hother⟩ := hled
      have hnot : ¬ r.IsShadowed rule.code := not_isShadowed_of_native hother
      simp only [apply_addNative_of_native hother, Operation.addNative.injEq, forall_eq', hnot,
        not_false_eq_true, and_true]
    · -- The code is new exactly when it is not shadowed.
      have hnew : rule.code ∉ r.natives.map (·.code) ↔ ¬ r.IsShadowed rule.code := by
        rw [List.mem_map, not_iff_not]
        refine ⟨fun hmem => ?_, fun hshadowed => hshadowed.1⟩
        by_contra hnot
        exact hled (hr.native_iff.2 ⟨hmem, hnot⟩)
      have happend : ((r.natives ++ [rule]).map (·.code)).Nodup ↔
          (r.natives.map (·.code)).Nodup ∧ rule.code ∉ r.natives.map (·.code) := by
        rw [List.map_append, List.map_singleton, ← List.concat_eq_append, List.nodup_concat,
          and_comm]
      simp only [apply_addNative_of_not_native hled, natives_withNative, happend, hnew,
        Operation.addNative.injEq, forall_eq']
  | addPlugin plugin => simp [Operation.apply, (shadows_addPlugin r plugin).natives]
  | note index codes => simp [Operation.apply, (shadows_notePlugin r index codes).natives]
  | run context program => simp [Operation.apply, (shadows_run context).natives]
  | lint program flow => simp [Operation.apply, (shadows_lint flow).natives]

/-- Native codes are unique after a history exactly when it registers no rule under a code that is
shadowed at that time. -/
theorem nodup_after_iff (ops : List (Operation π)) :
    ((after ops).natives.map (·.code)).Nodup ↔
      ∀ before rule, before ++ [.addNative rule] <+: ops → ¬ (after before).IsShadowed rule.code := by
  induction ops using List.reverseRecOn with
  | nil => simp [after_nil, empty]
  | append_singleton ops op ih =>
    rw [after_concat, nodup_apply_iff (coherent_after ops), ih]
    simp only [List.prefix_concat_iff, List.append_singleton_inj]
    constructor
    · rintro ⟨hold, hlast⟩ before rule (⟨rfl, rfl⟩ | hprefix)
      · exact hlast rule rfl
      · exact hold before rule hprefix
    · intro h
      exact ⟨fun before rule hprefix => h before rule (.inr hprefix),
        fun rule hop => h ops rule (.inl ⟨rfl, hop.symm⟩)⟩

/-- After every history, native codes are unique exactly when no rule was registered under a code
that was shadowed at the time; a rule is refused exactly when a registered one has its code and the
code is not shadowed; the refusal names the owner of such a rule and leaves the registry as it
is. -/
theorem after_uniqueness (ops : List (Operation π)) :
    (((after ops).natives.map (·.code)).Nodup ↔ ∀ before rule,
      before ++ [.addNative rule] <+: ops → ¬ (after before).IsShadowed rule.code) ∧
    ∀ rule : Rule,
      ((∃ failure, (after ops).addNative rule = .error failure) ↔
        (∃ other ∈ (after ops).natives, other.code = rule.code) ∧
          ¬ (after ops).IsShadowed rule.code) ∧
      ∀ failure, (after ops).addNative rule = .error failure →
        (∃ other ∈ (after ops).natives, other.code = rule.code ∧
          failure = .duplicateRule rule.code other.owner) ∧
        after (ops ++ [.addNative rule]) = after ops := by
  have hr := coherent_after ops
  refine ⟨nodup_after_iff ops, fun rule => ⟨?_, fun failure hfail => ⟨?_, ?_⟩⟩⟩
  · rw [← hr.native_iff]
    simp only [addNative_eq_error_iff]
    exact ⟨fun ⟨_, other, hother, _⟩ => ⟨other, hother⟩, fun ⟨other, hother⟩ =>
      ⟨_, other, hother, rfl⟩⟩
  · obtain ⟨other, hother, rfl⟩ := addNative_eq_error_iff.1 hfail
    obtain ⟨hmem, hcode⟩ := hr.led rule.code other hother
    exact ⟨other, hmem, hcode, rfl⟩
  · simp only [after_concat, Operation.apply, hfail]

/-! ## Registrations -/

/-- Whether an operation only registers a source. -/
def Operation.isRegistration : Operation π → Bool
  | .addNative _ | .addPlugin _ => true
  | .note _ _ | .run _ _ | .lint _ _ => false

/-- The native rule that an operation is to register. -/
def Operation.rule? : Operation π → Option Rule
  | .addNative rule => some rule
  | _ => none

/-- The plugin that an operation registers. -/
def Operation.plugin? : Operation π → Option π
  | .addPlugin plugin => some plugin
  | _ => none

/-- The rules of a list, in order, of each code only the first. -/
def distinctRules (rules : List Rule) : List Rule :=
  rules.foldl (fun kept rule => if ∃ other ∈ kept, other.code = rule.code then kept
    else kept ++ [rule]) []

theorem distinctRules_concat (rules : List Rule) (rule : Rule) :
    distinctRules (rules ++ [rule]) =
      if ∃ other ∈ distinctRules rules, other.code = rule.code then distinctRules rules
      else distinctRules rules ++ [rule] := List.foldl_concat ..

/-- After registrations alone, the sources are what was registered, in order, and no code leads to
a plugin. -/
theorem after_registrations {ops : List (Operation π)} (h : ∀ op ∈ ops, op.isRegistration) :
    (after ops).natives = distinctRules (ops.filterMap (·.rule?)) ∧
      (after ops).plugins = ops.filterMap (·.plugin?) ∧
      ∀ code index, (after ops).lookup code ≠ some (.plugin index) := by
  induction ops using List.reverseRecOn with
  | nil => exact ⟨rfl, rfl, fun code index => by simp [after_nil, lookup_empty]⟩
  | append_singleton ops op ih =>
    obtain ⟨hnatives, hplugins, hlookup⟩ := ih fun op hop => h op (List.mem_append_left _ hop)
    have hop := h op (List.mem_append_right _ (List.mem_singleton_self op))
    rw [after_concat, List.filterMap_append, List.filterMap_append]
    cases op with
    | note index codes => cases hop
    | run context program => cases hop
    | lint program flow => cases hop
    | addPlugin plugin => exact ⟨by simpa [Operation.apply, addPlugin, Operation.rule?],
        by simp [Operation.apply, addPlugin, Operation.plugin?, hplugins], hlookup⟩
    | addNative rule =>
      have hfilter : ([Operation.addNative (π := π) rule].filterMap (·.rule?)) = [rule] := rfl
      have hnone : ([Operation.addNative (π := π) rule].filterMap (·.plugin?)) = [] := rfl
      have htaken : (∃ other, (after ops).lookup rule.code = some (.native other)) ↔
          ∃ other ∈ (after ops).natives, other.code = rule.code := by
        rw [(coherent_after ops).native_iff, and_iff_left_iff_imp]
        exact fun _ hshadowed => hshadowed.2.elim (hlookup _)
      rw [hfilter, hnone, distinctRules_concat, ← hnatives, List.append_nil]
      by_cases hled : ∃ other, (after ops).lookup rule.code = some (.native other)
      · rw [if_pos (htaken.1 hled)]
        obtain ⟨other, hother⟩ := hled
        rw [apply_addNative_of_native hother]
        exact ⟨rfl, hplugins, hlookup⟩
      · rw [if_neg (mt htaken.2 hled)]
        rw [apply_addNative_of_not_native hled]
        refine ⟨rfl, hplugins, fun code index => ?_⟩
        by_cases hcode : rule.code = code
        · rw [← hcode, lookup_withNative_self]
          simp
        · rw [lookup_withNative_of_ne hcode]
          exact hlookup code index

end Registry

end ScriptLint

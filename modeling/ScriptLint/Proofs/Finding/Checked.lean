/-
What checks decide. `Decides` ties a check to a shape, said as a relation between values and what
they stand for, and to the faults that a value can have: the check accepts exactly the values of the
shape, and of others it names all faults, each once and in the order of the schema. Every way to
build a check has its lemma, so a schema is decided part by part.
-/
import ScriptLint.Finding.Schema
import Mathlib.Data.List.Forall2
import Mathlib.Data.List.Lex
import Mathlib.Data.List.Nodup

namespace ScriptLint

/-! ## Order of violations -/

/-- The fields of payloads, in the order in which each of their objects declares them. -/
def declaredFields : List String := ["code", "diagnostics", "span", "message", "hint", "lo", "hi"]

/-- Whether a step leads to an earlier part: fields as declared, items as listed. -/
def PathStep.Before : PathStep → PathStep → Prop
  | .key a, .key b => declaredFields.idxOf a < declaredFields.idxOf b
  | .index i, .index j => i < j
  | _, _ => False

instance : DecidableRel PathStep.Before
  | .key a, .key b => inferInstanceAs (Decidable (declaredFields.idxOf a < declaredFields.idxOf b))
  | .index i, .index j => inferInstanceAs (Decidable (i < j))
  | .key _, .index _ | .index _, .key _ => inferInstanceAs (Decidable False)

/-- Whether a violation is named before another one. -/
def Violation.Before (f g : Violation) : Prop := List.Lex PathStep.Before f.path g.path

instance : Std.Asymm PathStep.Before where
  asymm a b := by
    intro hab hba
    cases a <;> cases b
    · exact Nat.lt_asymm hab hba
    · exact hab
    · exact hab
    · exact Nat.lt_asymm hab hba

instance : Std.Asymm Violation.Before where
  asymm f g := by
    intro hfg hgf
    exact Std.Asymm.asymm f.path g.path hfg hgf

namespace Violation

theorem Before.under {f g : Violation} (h : f.Before g) (step : PathStep) :
    (f.under step).Before (g.under step) := .cons h

theorem before_of_steps {s t : PathStep} (h : s.Before t) (f g : Violation) :
    (f.under s).Before (g.under t) := .rel h

/-- Violations in order are told by which they are. -/
theorem eq_of_ordered {fs gs : List Violation} (hf : fs.Pairwise Before) (hg : gs.Pairwise Before)
    (h : ∀ f, f ∈ fs ↔ f ∈ gs) : fs = gs := by
  have antisymm : ∀ a b : Violation, a ∈ fs → b ∈ gs → a.Before b → b.Before a → a = b := by
    intro a b _ _ hab hba
    exact absurd hba (Std.Asymm.asymm a b hab)
  exact ((List.perm_ext_iff_of_nodup hf.nodup hg.nodup).2 h).eq_of_pairwise antisymm hf hg

end Violation

/-! ## Faults -/

/-- Faults of a text. -/
inductive TextFault : Json → Violation → Prop where
  | noText {v : Json} (h : ∀ s, v ≠ .str s) : TextFault v ⟨[], .stringType⟩

/-- Faults of an offset that is an integer and nothing else. -/
inductive OffsetFault : Json → Violation → Prop where
  | noInteger {v : Json} (h : ∀ n, v ≠ .int n) : OffsetFault v ⟨[], .intType⟩
  | negative {n : Int} (h : n < 0) : OffsetFault (.int n) ⟨[], .greaterThanEqual⟩

section Parts

variable (Fault : Json → Violation → Prop) (members : List (String × Json)) (key : String)

/-- Faults of a field that must be there. -/
inductive FieldFault : Violation → Prop where
  | missing (h : Json.member? members key = none) : FieldFault ⟨[.key key], .missing⟩
  | inside {x : Json} {f : Violation} (h : Json.member? members key = some x) (fault : Fault x f) :
    FieldFault (f.under (.key key))

/-- Faults of a field that may be absent or `null`. -/
inductive OptionalFault : Violation → Prop where
  | inside {x : Json} {f : Violation} (h : Json.member? members key = some x) (notNull : x ≠ .null)
    (fault : Fault x f) : OptionalFault (f.under (.key key))

/-- Faults of a list. -/
inductive ListFault : Json → Violation → Prop where
  | noList {v : Json} (h : ∀ items, v ≠ .arr items) : ListFault v ⟨[], .listType⟩
  | item {items : List Json} {i : Nat} {x : Json} {f : Violation} (h : items[i]? = some x)
    (fault : Fault x f) : ListFault (.arr items) (f.under (.index i))

end Parts

/-- Faults of an object, given those of its members. -/
inductive ObjectFault (Fault : List (String × Json) → Violation → Prop) :
    Json → Violation → Prop where
  | noObject {v : Json} (h : ∀ members, v ≠ .obj members) : ObjectFault Fault v ⟨[], .modelType⟩
  | inside {members : List (String × Json)} {f : Violation} (fault : Fault members f) :
    ObjectFault Fault (.obj members) f

theorem objectFault_congr {Fault Fault' : List (String × Json) → Violation → Prop}
    (h : ∀ members f, Fault members f ↔ Fault' members f) {v : Json} (f : Violation) :
    ObjectFault Fault v f ↔ ObjectFault Fault' v f := by
  constructor
  · intro hf
    cases hf with
    | noObject hno => exact .noObject hno
    | inside hf => exact .inside ((h _ _).1 hf)
  · intro hf
    cases hf with
    | noObject hno => exact .noObject hno
    | inside hf => exact .inside ((h _ _).2 hf)

theorem FieldFault.exists_under {Fault : Json → Violation → Prop} {members : List (String × Json)}
    {key : String} {f : Violation} (h : FieldFault Fault members key f) :
    ∃ g : Violation, f = g.under (.key key) := by
  cases h with
  | missing _ => exact ⟨⟨[], .missing⟩, rfl⟩
  | inside _ _ => exact ⟨_, rfl⟩

theorem OptionalFault.exists_under {Fault : Json → Violation → Prop}
    {members : List (String × Json)} {key : String} {f : Violation}
    (h : OptionalFault Fault members key f) : ∃ g : Violation, f = g.under (.key key) := by
  cases h with
  | inside _ _ _ => exact ⟨_, rfl⟩

namespace Checked

variable {α β : Type}

/-- The violations that a check names, none if it accepts. -/
def violations : Checked α → List Violation
  | .ok _ => []
  | .error vs => vs

/-- The outcome of a check for a value that stands for what `Is` says and has the faults that
`Fault` says. -/
structure Decides (outcome : Checked α) (Is : α → Prop) (Fault : Violation → Prop) : Prop where
  ok_iff : ∀ a, outcome = .ok a ↔ Is a
  refused : ∀ vs, outcome = .error vs → vs ≠ []
  mem_iff : ∀ f, f ∈ outcome.violations ↔ Fault f
  ordered : outcome.violations.Pairwise Violation.Before

section Building

variable {outcome : Checked α} {other : Checked β} {Is : α → Prop} {Is' : β → Prop}
  {Fault Fault' : Violation → Prop}

theorem Decides.congr (h : outcome.Decides Is Fault) {Is₂ : α → Prop} {Fault₂ : Violation → Prop}
    (his : ∀ a, Is a ↔ Is₂ a) (hfault : ∀ f, Fault f ↔ Fault₂ f) : outcome.Decides Is₂ Fault₂ :=
  ⟨fun a => (h.ok_iff a).trans (his a), h.refused, fun f => (h.mem_iff f).trans (hfault f),
    h.ordered⟩

theorem decides_ok {a : α} : Decides (.ok a) (fun b => a = b) fun _ => False := by
  refine ⟨?_, ?_, ?_, List.Pairwise.nil⟩
  · intro b
    simp
  · intro vs h
    cases h
  · intro f
    simp [violations]

theorem decides_fail {kind : ViolationKind} :
    (fail kind : Checked α).Decides (fun _ => False) fun f => f = ⟨[], kind⟩ := by
  refine ⟨?_, ?_, ?_, List.pairwise_singleton _ _⟩
  · intro a
    simp [fail]
  · rintro vs ⟨⟩
    simp
  · intro f
    simp [fail, violations]

theorem Decides.map (h : outcome.Decides Is Fault) (g : α → β) :
    Decides (outcome.map g) (fun b => ∃ a, Is a ∧ g a = b) Fault := by
  cases outcome with
  | ok a =>
    refine ⟨?_, ?_, h.mem_iff, h.ordered⟩
    · intro b
      simp [Except.map, ← h.ok_iff]
    · intro vs hvs
      cases hvs
  | error us =>
    refine ⟨?_, ?_, h.mem_iff, h.ordered⟩
    · intro b
      simp [Except.map, ← h.ok_iff]
    · rintro vs ⟨⟩
      exact h.refused us rfl

theorem violations_both (outcome : Checked α) (other : Checked β) :
    (both outcome other).violations = outcome.violations ++ other.violations := by
  cases outcome <;> cases other <;> simp [both, violations]

/-- Two checks decide together if the faults of the first come before those of the second. -/
theorem Decides.both (h : outcome.Decides Is Fault) (h' : other.Decides Is' Fault')
    (apart : ∀ f g, Fault f → Fault' g → f.Before g) :
    (both outcome other).Decides (fun p => Is p.1 ∧ Is' p.2) fun f => Fault f ∨ Fault' f := by
  refine ⟨?_, ?_, ?_, ?_⟩
  · rintro ⟨a, b⟩
    rw [← h.ok_iff, ← h'.ok_iff]
    cases outcome <;> cases other <;> simp [Checked.both]
  · intro vs hvs
    cases outcome with
    | ok a =>
      cases other with
      | ok b => cases hvs
      | error us => cases hvs; exact h'.refused _ rfl
    | error us =>
      have hus := h.refused us rfl
      cases other with
      | ok b => cases hvs; exact hus
      | error ws =>
        cases hvs
        simp [hus]
  · intro f
    rw [violations_both, List.mem_append, h.mem_iff, h'.mem_iff]
  · rw [violations_both, List.pairwise_append]
    refine ⟨h.ordered, h'.ordered, ?_⟩
    intro f hf g hg
    exact apart f g ((h.mem_iff f).1 hf) ((h'.mem_iff g).1 hg)

/-- A further check, made only of what the first one accepts. -/
theorem Decides.bind (h : outcome.Decides Is Fault) {next : α → Checked β} {IsNext : α → β → Prop}
    {FaultNext : α → Violation → Prop}
    (hnext : ∀ a, (next a).Decides (IsNext a) (FaultNext a)) :
    Decides (outcome.bind next) (fun b => ∃ a, Is a ∧ IsNext a b)
      fun f => Fault f ∨ ∃ a, Is a ∧ FaultNext a f := by
  cases outcome with
  | ok a =>
    -- what is accepted has no fault, and stands for nothing else
    have honly : ∀ a', Is a' ↔ a = a' := by
      intro a'
      rw [← h.ok_iff, Except.ok.injEq]
    have hfine : ∀ f, ¬Fault f := by
      intro f hf
      exact List.not_mem_nil ((h.mem_iff f).2 hf)
    refine (hnext a).congr ?_ ?_
    · intro b
      simp [honly]
    · intro f
      simp [honly, hfine]
  | error us =>
    have hnone : ∀ a, ¬Is a := by
      intro a ha
      cases (h.ok_iff a).2 ha
    refine ⟨?_, ?_, ?_, h.ordered⟩
    · intro b
      simp [Except.bind, hnone]
    · rintro vs ⟨⟩
      exact h.refused us rfl
    · intro f
      simp only [hnone, false_and, exists_false, or_false]
      exact h.mem_iff f

theorem violations_under (step : PathStep) (outcome : Checked α) :
    (under step outcome).violations = outcome.violations.map (·.under step) := by
  cases outcome <;> simp [under, violations]

theorem Decides.under (h : outcome.Decides Is Fault) (step : PathStep) :
    (under step outcome).Decides Is fun f => ∃ g, Fault g ∧ g.under step = f := by
  refine ⟨?_, ?_, ?_, ?_⟩
  · intro a
    rw [← h.ok_iff]
    cases outcome <;> simp [Checked.under]
  · intro vs hvs
    cases outcome with
    | ok a => cases hvs
    | error us =>
      cases hvs
      simp [h.refused us rfl]
  · intro f
    simp only [violations_under, List.mem_map, h.mem_iff]
  · rw [violations_under, List.pairwise_map]
    exact h.ordered.imp fun hfg => hfg.under step

end Building

/-! ## Fields -/

section Values

variable {check : Json → Checked α} {Is : Json → α → Prop} {Fault : Json → Violation → Prop}

theorem decides_field (h : ∀ x, (check x).Decides (Is x) (Fault x))
    (members : List (String × Json)) (key : String) :
    (field check members key).Decides (fun a => ∃ x, Json.member? members key = some x ∧ Is x a)
      (FieldFault Fault members key) := by
  unfold field
  cases hx : Json.member? members key with
  | none =>
    refine (decides_fail.under _).congr (fun a => by simp) ?_
    intro f
    constructor
    · rintro ⟨g, rfl, rfl⟩
      exact .missing hx
    · intro hf
      cases hf with
      | missing _ => exact ⟨_, rfl, rfl⟩
      | inside hy _ => rw [hx] at hy; cases hy
  | some x =>
    refine ((h x).under _).congr (fun a => by simp) ?_
    intro f
    constructor
    · rintro ⟨g, hg, rfl⟩
      exact .inside hx hg
    · intro hf
      cases hf with
      | missing hy => rw [hx] at hy; cases hy
      | inside hy hg =>
        rw [hx] at hy
        cases hy
        exact ⟨_, hg, rfl⟩

/-- What a field stands for that may be absent or `null`. -/
def IsOptional (Is : Json → α → Prop) (members : List (String × Json)) (key : String) :
    Option α → Prop
  | none => Json.member? members key = none ∨ Json.member? members key = some .null
  | some a => ∃ x, Json.member? members key = some x ∧ x ≠ .null ∧ Is x a

theorem decides_optional (h : ∀ x, (check x).Decides (Is x) (Fault x))
    (members : List (String × Json)) (key : String) :
    (optional check members key).Decides (IsOptional Is members key)
      (OptionalFault Fault members key) := by
  -- an absent field and `null` are the same to the check
  have absent : (Json.member? members key = none ∨ Json.member? members key = some .null) →
      (under (.key key) (.ok none : Checked (Option α))).Decides (IsOptional Is members key)
        (OptionalFault Fault members key) := by
    intro hx
    refine (decides_ok.under _).congr ?_ ?_
    · rintro (_ | a)
      · simp [IsOptional, hx]
      · rcases hx with hx | hx <;> simp [IsOptional, hx]
    · intro f
      constructor
      · rintro ⟨_, ⟨⟩, _⟩
      · intro hf
        cases hf with
        | inside hy notNull _ =>
          rcases hx with hx | hx
          · rw [hx] at hy
            cases hy
          · rw [hx] at hy
            cases hy
            exact absurd rfl notNull
  unfold optional
  split
  · rename_i hx
    exact absent (.inl hx)
  · rename_i hx
    exact absent (.inr hx)
  · rename_i x hnull hx
    have notNull : x ≠ .null := hnull
    refine (((h x).map some).under _).congr ?_ ?_
    · rintro (_ | a)
      · simp [IsOptional, hx, notNull]
      · simp [IsOptional, hx, notNull]
    · intro f
      constructor
      · rintro ⟨g, hg, rfl⟩
        exact .inside hx notNull hg
      · intro hf
        cases hf with
        | inside hy _ hg =>
          rw [hx] at hy
          cases hy
          exact ⟨_, hg, rfl⟩

/-! ## Containers -/

theorem decides_object {check : List (String × Json) → Checked α}
    {Is : List (String × Json) → α → Prop} {Fault : List (String × Json) → Violation → Prop}
    (h : ∀ members, (check members).Decides (Is members) (Fault members)) (v : Json) :
    (object check v).Decides (fun a => ∃ members, v = .obj members ∧ Is members a)
      (ObjectFault Fault v) := by
  unfold object
  split
  · rename_i members
    refine (h members).congr (fun a => by simp) ?_
    intro f
    constructor
    · exact .inside
    · intro hf
      cases hf with
      | noObject hno => exact absurd rfl (hno members)
      | inside hf => exact hf
  · rename_i hno
    refine decides_fail.congr (fun a => ⟨False.elim, fun ⟨_, h, _⟩ => hno _ h⟩) ?_
    intro f
    constructor
    · rintro rfl
      exact .noObject hno
    · intro hf
      cases hf with
      | noObject _ => rfl
      | inside _ => exact absurd rfl (hno _)

/-- Faults of items, the first of which has an index. -/
def ItemFault (Fault : Json → Violation → Prop) (start : Nat) (items : List Json)
    (f : Violation) : Prop :=
  ∃ i x g, items[i]? = some x ∧ Fault x g ∧ g.under (.index (start + i)) = f

theorem itemFault_cons_iff {start : Nat} {x : Json} {rest : List Json} {f : Violation} :
    ItemFault Fault start (x :: rest) f ↔
      (∃ g, Fault x g ∧ g.under (.index start) = f) ∨ ItemFault Fault (start + 1) rest f := by
  constructor
  · rintro ⟨i, y, g, hy, hg, rfl⟩
    cases i with
    | zero =>
      simp only [List.getElem?_cons_zero, Option.some.injEq] at hy
      subst hy
      exact .inl ⟨g, hg, rfl⟩
    | succ i =>
      rw [List.getElem?_cons_succ] at hy
      refine .inr ⟨i, y, g, hy, hg, ?_⟩
      rw [Nat.add_assoc, Nat.add_comm 1 i]
  · rintro (⟨g, hg, rfl⟩ | ⟨i, y, g, hy, hg, rfl⟩)
    · exact ⟨0, x, g, rfl, hg, rfl⟩
    · refine ⟨i + 1, y, g, hy, hg, ?_⟩
      rw [Nat.add_assoc, Nat.add_comm 1 i]

theorem decides_itemsFrom (h : ∀ x, (check x).Decides (Is x) (Fault x)) (start : Nat)
    (items : List Json) :
    (itemsFrom check start items).Decides (List.Forall₂ Is items)
      (ItemFault Fault start items) := by
  induction items generalizing start with
  | nil =>
    refine decides_ok.congr ?_ ?_
    · intro as
      rw [List.forall₂_nil_left_iff, eq_comm]
    · intro f
      simp [ItemFault]
  | cons x rest ih =>
    -- an item and those after it part at the first step already, the index
    have apart : ∀ f g, (∃ f', Fault x f' ∧ f'.under (.index start) = f) →
        ItemFault Fault (start + 1) rest g → f.Before g := by
      rintro f g ⟨f', -, rfl⟩ ⟨i, y, g', -, -, rfl⟩
      apply Violation.before_of_steps
      show start < start + 1 + i
      omega
    refine ((((h x).under _).both (ih (start + 1)) apart).map fun p => p.1 :: p.2).congr ?_ ?_
    · intro as
      rw [List.forall₂_cons_left_iff]
      constructor
      · rintro ⟨⟨a, as⟩, ⟨ha, has⟩, rfl⟩
        exact ⟨a, as, ha, has, rfl⟩
      · rintro ⟨a, as, ha, has, rfl⟩
        exact ⟨(a, as), ⟨ha, has⟩, rfl⟩
    · intro f
      exact itemFault_cons_iff.symm

theorem decides_list (h : ∀ x, (check x).Decides (Is x) (Fault x)) (v : Json) :
    (list check v).Decides (fun as => ∃ items, v = .arr items ∧ List.Forall₂ Is items as)
      (ListFault Fault v) := by
  unfold list
  split
  · rename_i items
    refine (decides_itemsFrom h 0 items).congr (fun as => by simp) ?_
    intro f
    constructor
    · rintro ⟨i, x, g, hx, hg, rfl⟩
      rw [Nat.zero_add]
      exact .item hx hg
    · intro hf
      cases hf with
      | noList hno => exact absurd rfl (hno items)
      | @item _ i x g hx hg => exact ⟨i, x, g, hx, hg, by rw [Nat.zero_add]⟩
  · rename_i hno
    refine decides_fail.congr (fun as => ⟨False.elim, fun ⟨_, h, _⟩ => hno _ h⟩) ?_
    intro f
    constructor
    · rintro rfl
      exact .noList hno
    · intro hf
      cases hf with
      | noList _ => rfl
      | item _ _ => exact absurd rfl (hno _)

end Values

/-! ## Texts and offsets -/

theorem decides_text (v : Json) : (text v).Decides (fun s => v = .str s) (TextFault v) := by
  unfold text
  split
  · rename_i s
    refine decides_ok.congr (fun b => by simp) ?_
    intro f
    constructor
    · rintro ⟨⟩
    · rintro ⟨hno⟩
      exact absurd rfl (hno s)
  · rename_i hno
    refine decides_fail.congr (fun s => ⟨False.elim, hno s⟩) ?_
    intro f
    constructor
    · rintro rfl
      exact .noText hno
    · rintro ⟨_⟩
      rfl

theorem decides_offset (v : Json) :
    (Schema.offset Schema.strictInt v).Decides (fun n => v = .int n) (OffsetFault v) := by
  cases v with
  | int n =>
    by_cases hn : n < 0
    · have hoffset : Schema.offset Schema.strictInt (.int n) = fail .greaterThanEqual := by
        simp [Schema.offset, Schema.strictInt, hn]
      rw [hoffset]
      refine decides_fail.congr ?_ ?_
      · intro m
        simp only [Json.int.injEq, false_iff]
        omega
      · intro f
        constructor
        · rintro rfl
          exact .negative hn
        · intro hf
          cases hf with
          | noInteger hno => exact absurd rfl (hno n)
          | negative _ => rfl
    · have hoffset : Schema.offset Schema.strictInt (.int n) = .ok n.toNat := by
        simp [Schema.offset, Schema.strictInt, hn]
      rw [hoffset]
      refine decides_ok.congr ?_ ?_
      · intro m
        simp only [Json.int.injEq]
        omega
      · intro f
        constructor
        · rintro ⟨⟩
        · intro hf
          cases hf with
          | noInteger hno => exact absurd rfl (hno n)
          | negative h => exact absurd h hn
  | _ =>
    refine decides_fail.congr (fun m => by simp) ?_
    intro f
    constructor
    · rintro rfl
      exact .noInteger (by simp)
    · intro hf
      cases hf with
      | noInteger _ => rfl

end Checked

end ScriptLint

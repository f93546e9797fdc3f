/-
The table of modules without a bound. The exports objects of modules are kept while other modules
are required, so a module inside another one is always one that the table does not hold; there are
ever fewer of those, and the bound on modules inside one another is never met (`require_eq`).
-/
import ScriptLint.Script.Table
import Mathlib.Data.List.Basic

namespace ScriptLint

namespace Script

variable {α β : Type} {P Q : α → Prop}

/-- Whether all ends of a script are such, whatever the host answers. -/
def AllEnds (P : α → Prop) : Script α → Prop
  | .done value => P value
  | .ask _ _ next => ∀ reply, (next reply).AllEnds P

theorem allEnds_bind_iff {P : β → Prop} (s : Script α) (f : α → Script β) :
    (s.bind f).AllEnds P ↔ s.AllEnds fun a => (f a).AllEnds P := by
  induction s with
  | done value => rfl
  | ask operation payload next ih => exact forall_congr' ih

theorem AllEnds.imp {s : Script α} (h : s.AllEnds P) (hPQ : ∀ a, P a → Q a) : s.AllEnds Q := by
  induction s with
  | done value => exact hPQ value h
  | ask operation payload next ih => exact fun reply => ih reply (h reply)

/-- What a script goes on with matters only for its own ends. -/
theorem bind_congr {s : Script α} {f g : α → Script β} (h : s.AllEnds fun a => f a = g a) :
    s.bind f = s.bind g := by
  induction s with
  | done value => exact h
  | ask operation payload next ih =>
    unfold bind
    rw [funext fun reply => ih reply (h reply)]

end Script

namespace Memory

variable {σ : Type} {m m' m'' : Memory σ} {id other : String}

theorem exportsOf?_activate (m : Memory σ) (id other : String) :
    (m.activate id).exportsOf? other = if id = other then some m.objects else m.exportsOf? other := by
  unfold exportsOf? activate Json.member?
  by_cases h : id = other <;> simp [h]

theorem exportsOf?_forget (m : Memory σ) (id other : String) :
    (m.forget id).exportsOf? other = if id = other then none else m.exportsOf? other := by
  unfold exportsOf? forget Json.member?
  rw [List.find?_filter]
  split
  · next h =>
    subst h
    simp [List.find?_eq_none]
  · next h =>
    have hsame : (fun e : String × Nat => decide ((e.1 != id) = true ∧ (e.1 == other) = true)) =
        fun e => e.1 == other := by
      funext e
      by_cases hkey : e.1 = other
      · simp [hkey, Ne.symm h]
      · simp [hkey]
    rw [hsame]

/-- Whether the table holds a module. -/
def Holds (m : Memory σ) (id : String) : Prop := (m.exportsOf? id).isSome

instance (m : Memory σ) (id : String) : Decidable (m.Holds id) :=
  inferInstanceAs (Decidable ((m.exportsOf? id).isSome = true))

theorem not_holds_of_eq_none (h : m.exportsOf? id = none) : ¬ m.Holds id := by
  unfold Holds
  rw [h]
  exact Bool.false_ne_true

theorem holds_activate_iff : (m.activate id).Holds other ↔ id = other ∨ m.Holds other := by
  unfold Holds
  rw [exportsOf?_activate]
  by_cases h : id = other <;> simp [h]

theorem holds_forget_iff : (m.forget id).Holds other ↔ id ≠ other ∧ m.Holds other := by
  unfold Holds
  rw [exportsOf?_forget]
  by_cases h : id = other <;> simp [h]

/-- Whether a table holds all the modules that an earlier one holds. -/
def Grows (m m' : Memory σ) : Prop := ∀ id, m.Holds id → m'.Holds id

theorem Grows.refl (m : Memory σ) : m.Grows m := fun _ h => h

theorem Grows.trans (h : m.Grows m') (h' : m'.Grows m'') : m.Grows m'' :=
  fun id hid => h' id (h id hid)

theorem grows_activate (m : Memory σ) (id : String) : m.Grows (m.activate id) :=
  fun _ h => holds_activate_iff.2 (.inr h)

/-- Handing over a state changes nothing in the table. -/
theorem grows_state {state : σ} : m.Grows { m with state := state } := fun _ h => h

end Memory

namespace Table

open Memory

variable {σ α : Type} {modules : List (String × Body σ)} {inner inner' : Require σ}
  {m : Memory σ} {id : String}

/-! ## What is held stays held -/

/-- Whether requiring modules leaves in the table what it holds. -/
def KeepsAll (inner : Require σ) : Prop :=
  ∀ id m, (inner id m).AllEnds fun p => m.Grows p.2

theorem grows_runCode (h : KeepsAll inner) (code : Code σ α) (m : Memory σ) :
    (runCode inner code m).AllEnds fun p => m.Grows p.2 := by
  induction code generalizing m with
  | done value => exact Grows.refl m
  | ask operation payload next ih => exact fun reply => ih reply m
  | require id state next ih =>
    unfold runCode
    rw [Script.allEnds_bind_iff]
    refine (h id { m with state := state }).imp ?_
    rintro ⟨r, after⟩ hafter
    refine (ih (r, after.state) after).imp ?_
    intro p hp
    exact (grows_state.trans hafter).trans hp

theorem grows_runBody (h : KeepsAll inner) (body : Body σ) (object : Nat) (m : Memory σ) :
    (runBody inner body object m).AllEnds fun p => m.Grows p.2 := by
  unfold runBody
  rw [Script.allEnds_bind_iff]
  refine (grows_runCode h _ m).imp ?_
  rintro ⟨⟨r, state⟩, after⟩ hafter
  exact hafter.trans grows_state

theorem KeepsAll.enter (h : KeepsAll inner) : KeepsAll (enter modules inner) := by
  intro id m
  unfold Table.enter
  cases hid : m.exportsOf? id with
  | some object => exact Grows.refl m
  | none =>
    cases Json.member? modules id with
    | none => exact Grows.refl m
    | some body =>
      rw [Script.allEnds_bind_iff]
      refine (grows_runBody h body m.objects (m.activate id)).imp ?_
      rintro ⟨r, after⟩ hafter
      have hgrows : m.Grows after := (grows_activate m id).trans hafter
      cases r with
      | ok u => exact hgrows
      | error error =>
        intro other hother
        refine holds_forget_iff.2 ⟨?_, hgrows other hother⟩
        rintro rfl
        exact not_holds_of_eq_none hid hother

theorem keepsAll_requireWithin (modules : List (String × Body σ)) (depth : Nat) :
    KeepsAll (requireWithin modules depth) := by
  induction depth with
  | zero => exact fun id m => Grows.refl m
  | succ depth ih => exact ih.enter

/-! ## The bound on the depth -/

/-- Whether two ways of requiring agree on all tables that hold what a table holds. -/
def AgreeFrom (m : Memory σ) (inner inner' : Require σ) : Prop :=
  ∀ m', m.Grows m' → ∀ id, inner id m' = inner' id m'

theorem runCode_congr (hkeeps : KeepsAll inner) (h : AgreeFrom m inner inner')
    (code : Code σ α) : runCode inner code m = runCode inner' code m := by
  induction code generalizing m with
  | done value => rfl
  | ask operation payload next ih =>
    unfold runCode
    rw [funext fun reply => ih reply h]
  | require id state next ih =>
    unfold runCode
    rw [← h _ grows_state]
    apply Script.bind_congr
    refine (hkeeps id { m with state := state }).imp ?_
    rintro ⟨r, after⟩ hafter
    exact ih (r, after.state) fun m' hm' => h m' ((grows_state.trans hafter).trans hm')

/-- A module that is entered requires others from a table that holds it. -/
theorem enter_congr (hkeeps : KeepsAll inner)
    (h : ¬ m.Holds id → id ∈ modules.map (·.1) → AgreeFrom (m.activate id) inner inner') :
    enter modules inner id m = enter modules inner' id m := by
  unfold enter
  cases hid : m.exportsOf? id with
  | some object => rfl
  | none =>
    cases hbody : Json.member? modules id with
    | none => rfl
    | some body =>
      have hlinked : id ∈ modules.map (·.1) := List.mem_map_of_mem (Json.mem_of_member? hbody)
      have hrun : runBody inner body m.objects (m.activate id) =
          runBody inner' body m.objects (m.activate id) := by
        unfold runBody
        rw [runCode_congr hkeeps (h (not_holds_of_eq_none hid) hlinked)]
      simp only [hrun]

/-- How many of some modules a table does not hold. -/
def missing (ids : List String) (m : Memory σ) : Nat := ids.countP fun id => ¬ m.Holds id

theorem missing_mono (ids : List String) {m' : Memory σ} (h : m.Grows m') :
    missing ids m' ≤ missing ids m := by
  refine List.countP_mono_left ?_
  intro id _ hid
  rw [decide_eq_true_iff] at hid ⊢
  exact fun hheld => hid (h id hheld)

theorem missing_le (modules : List (String × Body σ)) (m : Memory σ) :
    missing (modules.map (·.1)) m ≤ modules.length := by
  rw [← List.length_map (·.1)]
  exact List.countP_le_length

/-- Fewer modules are missing inside of a module that is entered. -/
theorem missing_activate_lt {ids : List String} (hnot : ¬ m.Holds id) (hmem : id ∈ ids) :
    missing ids (m.activate id) < missing ids m := by
  induction ids with
  | nil => cases hmem
  | cons first rest ih =>
    have hle := missing_mono rest (grows_activate m id)
    unfold missing at ih hle ⊢
    rw [List.countP_cons, List.countP_cons]
    by_cases hfirst : id = first
    · subst hfirst
      rw [if_neg (by simp [holds_activate_iff]), if_pos (by simpa using hnot)]
      omega
    · have hrest := ih ((List.mem_cons.1 hmem).resolve_left hfirst)
      have hsame : (m.activate id).Holds first ↔ m.Holds first := by
        rw [holds_activate_iff]
        simp [hfirst]
      simp only [hsame]
      omega

/-- A bound that exceeds the number of missing modules is as good as the next one. -/
theorem requireWithin_succ {depth : Nat} (h : missing (modules.map (·.1)) m < depth)
    (id : String) :
    requireWithin modules depth id m = requireWithin modules (depth + 1) id m := by
  induction depth generalizing m id with
  | zero => omega
  | succ depth ih =>
    refine enter_congr (keepsAll_requireWithin modules depth) ?_
    intro hnot hmem m' hm' other
    have hlt := missing_activate_lt hnot hmem
    have hle := missing_mono (modules.map (·.1)) hm'
    exact ih (by omega) other

/-- Requiring a module is entering it with the modules that it requires required the same way: the
bound on modules inside one another is never met. -/
theorem require_eq (modules : List (String × Body σ)) :
    require modules = enter modules (require modules) := by
  funext id m
  refine enter_congr (keepsAll_requireWithin modules modules.length) ?_
  intro hnot hmem m' hm' other
  have hlt := missing_activate_lt hnot hmem
  have hle := missing_mono (modules.map (·.1)) hm'
  have hbound := missing_le modules m
  exact requireWithin_succ (by omega) other

end Table

end ScriptLint

/-
Module bodies run once. Whatever modules do, and whatever is required of them one after the other, a
module that is required is entered just if it is there, is not active and has never completed, so
that it threw each time that it was entered before; what requiring a module gives is the exports
object of a module that has completed, unless the module was active when it was required; and the
table always holds the modules that are active or have completed (`runs_once`). An activation is
told by its exports object, as every activation has a new one.
-/
import ScriptLint.Proofs.Script.Watch

namespace ScriptLint

namespace Table

variable {σ α : Type} {events : List Event} {e : Event} {id other : String} {object found : Nat}
  {ending : Except Thrown Unit} {m : Memory σ} {ids : List String}

/-! ## Activations -/

/-- Whether a module is active: it has been entered with the exports object and not been left. -/
def IsActive (events : List Event) (id : String) (object : Nat) : Prop :=
  .entered id object ∈ events ∧ ∀ ending, .left id object ending ∉ events

/-- Whether a module has completed: it has been left without an error. -/
def HasCompleted (events : List Event) (id : String) (object : Nat) : Prop :=
  .left id object (.ok ()) ∈ events

/-- Whether a table holds just the modules that are active or have completed. -/
def Reflects (m : Memory σ) (events : List Event) : Prop :=
  ∀ id object, m.exportsOf? id = some object ↔ IsActive events id object ∨
    HasCompleted events id object

/-- Whether code goes on after an event. -/
def Event.Resumes : Event → Prop
  | .required _ => False
  | .left _ _ _ => False
  | _ => True

/-- Whether code runs after some events, and no requirement waits for its answer. -/
def Running (events : List Event) : Prop := ∀ e, events.getLast? = some e → e.Resumes

/-- What may happen after other things, where some modules can be entered. -/
inductive Follows (ids : List String) (before : List Event) : Event → Prop where
  /-- Running code requires a module. -/
  | required (running : Running before) (id : String) : Follows ids before (.required id)
  /-- Running code asks the host. -/
  | asked (running : Running before) (operation payload : Json) (reply : Reply) :
      Follows ids before (.asked operation payload reply)
  /-- A module that is required is entered, with a new exports object, if it can be, is not active
  and has not completed. It may have been entered before if it threw each time. -/
  | entered {earlier : List Event} {id : String} {object : Nat}
      (required : before = earlier ++ [.required id]) (linked : id ∈ ids)
      (idle : ∀ object, ¬ IsActive before id object ∧ ¬ HasCompleted before id object)
      (threw : ∀ object, .entered id object ∈ before →
        ∃ error, .left id object (.error error) ∈ before)
      (fresh : ∀ id, .entered id object ∉ before) : Follows ids before (.entered id object)
  /-- The code of an active module ends. -/
  | left {id : String} {object : Nat} (running : Running before)
      (active : IsActive before id object) (ending : Except Thrown Unit) :
      Follows ids before (.left id object ending)
  /-- A requirement is met at once by a module that has completed, or by one that was active when it
  was required. -/
  | found {earlier : List Event} {id : String} {object : Nat}
      (required : before = earlier ++ [.required id])
      (held : IsActive earlier id object ∨ HasCompleted earlier id object) :
      Follows ids before (.answered id (.ok object))
  /-- A module that cannot be entered is required. -/
  | unlinked {earlier : List Event} {id : String}
      (required : before = earlier ++ [.required id]) (unknown : id ∉ ids) :
      Follows ids before (.answered id (.error ⟨"Error", "Module is not linked: " ++ id⟩))
  /-- A requirement is met by a module that has just completed. -/
  | completed {earlier : List Event} {id : String} {object : Nat}
      (left : before = earlier ++ [.left id object (.ok ())]) :
      Follows ids before (.answered id (.ok object))
  /-- A requirement ends with the error that the module has just thrown. -/
  | thrown {earlier : List Event} {id : String} {object : Nat} {error : Thrown}
      (left : before = earlier ++ [.left id object (.error error)]) :
      Follows ids before (.answered id (.error error))

/-- Whether each thing in a log may happen after those before it, and the table holds then just the
modules that are active or have completed. -/
def Orderly (ids : List String) (log : List (Moment σ)) : Prop :=
  ∀ before moment after, log = before ++ moment :: after →
    Follows ids (before.map Moment.event) moment.event ∧
      Reflects moment.memory ((before ++ [moment]).map Moment.event)

/-! ## One more event -/

theorem isActive_concat_entered_iff : IsActive (events ++ [.entered other found]) id object ↔
    IsActive events id object ∨
      (other = id ∧ found = object) ∧ ∀ ending, .left id object ending ∉ events := by
  unfold IsActive
  simp only [List.mem_append, List.mem_singleton, Event.entered.injEq, reduceCtorEq, or_false,
    eq_comm (a := id), eq_comm (a := object)]
  tauto

theorem isActive_concat_left_iff : IsActive (events ++ [.left other found ending]) id object ↔
    IsActive events id object ∧ ¬ (other = id ∧ found = object) := by
  unfold IsActive
  simp only [List.mem_append, List.mem_singleton, Event.left.injEq, reduceCtorEq, or_false,
    eq_comm (a := id), eq_comm (a := object)]
  constructor
  · rintro ⟨hentered, hleft⟩
    exact ⟨⟨hentered, fun x hx => hleft x (.inl hx)⟩, fun ⟨hid, hobject⟩ =>
      hleft ending (.inr ⟨hid, hobject, rfl⟩)⟩
  · rintro ⟨⟨hentered, hleft⟩, hother⟩
    refine ⟨hentered, ?_⟩
    rintro x (hx | ⟨hid, hobject, -⟩)
    · exact hleft x hx
    · exact hother ⟨hid, hobject⟩

theorem hasCompleted_concat_iff : HasCompleted (events ++ [e]) id object ↔
    HasCompleted events id object ∨ e = .left id object (.ok ()) := by
  unfold HasCompleted
  rw [List.mem_append, List.mem_singleton, eq_comm (a := e)]

/-- Whether something neither enters nor leaves a module. -/
def Event.IsQuiet : Event → Prop
  | .entered _ _ => False
  | .left _ _ _ => False
  | _ => True

theorem isActive_concat_of_isQuiet (h : e.IsQuiet) :
    IsActive (events ++ [e]) id object ↔ IsActive events id object := by
  unfold IsActive
  cases e with
  | entered id object => cases h
  | left id object ending => cases h
  | required id => simp
  | answered id answer => simp
  | asked operation payload reply => simp

theorem hasCompleted_concat_of_isQuiet (h : e.IsQuiet) :
    HasCompleted (events ++ [e]) id object ↔ HasCompleted events id object := by
  rw [hasCompleted_concat_iff]
  constructor
  · rintro (hcompleted | rfl)
    · exact hcompleted
    · cases h
  · exact .inl

theorem running_concat_iff : Running (events ++ [e]) ↔ e.Resumes := by
  unfold Running
  rw [List.getLast?_concat]
  constructor
  · intro h
    exact h e rfl
  · rintro h found ⟨⟩
    exact h

/-! ## The table -/

/-- A table holds one exports object of a module at most. -/
theorem Reflects.eq_of_isActive (h : Reflects m events) (hactive : IsActive events id object)
    (hfound : IsActive events id found ∨ HasCompleted events id found) : found = object := by
  have hobject := (h id object).2 (.inl hactive)
  have hother := (h id found).2 hfound
  rw [hobject, Option.some.injEq] at hother
  exact hother.symm

theorem Reflects.quiet (h : Reflects m events) (he : e.IsQuiet) : Reflects m (events ++ [e]) := by
  intro id object
  rw [isActive_concat_of_isQuiet he, hasCompleted_concat_of_isQuiet he]
  exact h id object

theorem Reflects.activate (h : Reflects m events) (hid : m.exportsOf? id = none)
    (hfresh : ∀ ending, .left id m.objects ending ∉ events) :
    Reflects (m.activate id) (events ++ [.entered id m.objects]) := by
  intro other found
  rw [Memory.exportsOf?_activate, isActive_concat_entered_iff, hasCompleted_concat_iff]
  have hheld := h other found
  by_cases hother : id = other
  · subst hother
    rw [hid] at hheld
    have hnone : ¬ (IsActive events id found ∨ HasCompleted events id found) :=
      fun hfound => nomatch hheld.2 hfound
    rw [if_pos rfl, Option.some.injEq]
    constructor
    · rintro rfl
      exact .inl (.inr ⟨⟨rfl, rfl⟩, hfresh⟩)
    · rintro ((hactive | ⟨⟨-, hobject⟩, -⟩) | hcompleted | hleft)
      · exact absurd (.inl hactive) hnone
      · exact hobject
      · exact absurd (.inr hcompleted) hnone
      · cases hleft
  · rw [if_neg hother, hheld]
    simp [hother]

theorem Reflects.complete (h : Reflects m events) (hactive : IsActive events id object) :
    Reflects m (events ++ [.left id object (.ok ())]) := by
  intro other found
  rw [h other found, isActive_concat_left_iff, hasCompleted_concat_iff, Event.left.injEq]
  constructor
  · rintro (hfound | hfound)
    · by_cases hsame : id = other ∧ object = found
      · exact .inr (.inr ⟨hsame.1, hsame.2, rfl⟩)
      · exact .inl ⟨hfound, hsame⟩
    · exact .inr (.inl hfound)
  · rintro (⟨hfound, -⟩ | hfound | ⟨rfl, rfl, -⟩)
    · exact .inl hfound
    · exact .inr hfound
    · exact .inl hactive

theorem Reflects.forget (h : Reflects m events) (hactive : IsActive events id object)
    (error : Thrown) : Reflects (m.forget id) (events ++ [.left id object (.error error)]) := by
  intro other found
  rw [Memory.exportsOf?_forget, isActive_concat_left_iff, hasCompleted_concat_iff]
  by_cases hother : id = other
  · subst hother
    rw [if_pos rfl]
    refine iff_of_false (fun hnone => nomatch hnone) ?_
    rintro (⟨hfound, hnot⟩ | hcompleted | hleft)
    · exact hnot ⟨rfl, (h.eq_of_isActive hactive (.inl hfound)).symm⟩
    · obtain rfl := h.eq_of_isActive hactive (.inr hcompleted)
      exact hactive.2 (.ok ()) hcompleted
    · cases hleft
  · rw [if_neg hother, h other found]
    simp [hother]

/-! ## Logs -/

theorem Orderly.concat {log : List (Moment σ)} (h : Orderly ids log)
    (hfollows : Follows ids (log.map Moment.event) e)
    (hreflects : Reflects m (log.map Moment.event ++ [e])) : Orderly ids (log ++ [⟨e, m⟩]) := by
  intro before moment after heq
  rcases List.eq_nil_or_concat after with rfl | ⟨more, last, rfl⟩
  · obtain ⟨rfl, hlast⟩ := List.append_inj' heq rfl
    cases hlast
    exact ⟨hfollows, by rwa [List.map_append]⟩
  · have hsplit : log ++ [⟨e, m⟩] = (before ++ moment :: more) ++ [last] := by
      rw [heq]
      simp
    exact h before moment more (List.append_inj' hsplit rfl).1

/-- What has been left has been entered. -/
theorem Orderly.entered_of_left {log : List (Moment σ)} (h : Orderly ids log)
    (hleft : .left id object ending ∈ log.map Moment.event) :
    .entered id object ∈ log.map Moment.event := by
  obtain ⟨moment, hmem, hevent⟩ := List.mem_map.1 hleft
  obtain ⟨before, after, rfl⟩ := List.append_of_mem hmem
  have hfollows := (h before moment after rfl).1
  rw [hevent] at hfollows
  cases hfollows with
  | left running active =>
    rw [List.map_append]
    exact List.mem_append_left _ active.1

/-- A module that is not active and has never completed threw each time that it was entered. -/
theorem exists_error
    (idle : ∀ object, ¬ IsActive events id object ∧ ¬ HasCompleted events id object)
    (h : .entered id object ∈ events) : ∃ error, .left id object (.error error) ∈ events := by
  obtain ⟨hactive, hcompleted⟩ := idle object
  by_contra hnone
  refine hactive ⟨h, ?_⟩
  intro ending hleft
  cases ending with
  | ok u => exact hcompleted hleft
  | error error => exact hnone ⟨error, hleft⟩

namespace Watch

variable {w w' w'' : Watch σ} {inner : Require σ} {modules : List (String × Body σ)}

/-- The log of a table is orderly and tells what the table holds, and the next exports object is a
new one. -/
structure Fits (ids : List String) (w : Watch σ) : Prop where
  orderly : Orderly ids w.log
  reflects : Reflects w.memory w.events
  below : ∀ id object, .entered id object ∈ w.events → object < w.memory.objects

/-- What happens to a table keeps its log, and leaves the same modules active. -/
structure Leads (ids : List String) (w w' : Watch σ) : Prop where
  fits : w'.Fits ids
  active : ∀ id object, IsActive w'.events id object ↔ IsActive w.events id object
  completed : ∀ id object, HasCompleted w.events id object → HasCompleted w'.events id object

theorem Fits.leads (h : w.Fits ids) : w.Leads ids w := ⟨h, fun _ _ => .rfl, fun _ _ => id⟩

theorem Leads.trans (h : w.Leads ids w') (h' : w'.Leads ids w'') : w.Leads ids w'' where
  fits := h'.fits
  active id object := (h'.active id object).trans (h.active id object)
  completed id object hcompleted := h'.completed id object (h.completed id object hcompleted)

theorem Leads.handOver (h : w.Leads ids w') (state : σ) : w.Leads ids (w'.handOver state) :=
  ⟨⟨h.fits.orderly, h.fits.reflects, h.fits.below⟩, h.active, h.completed⟩

/-- What a table holds it holds later. -/
theorem Leads.grows (h : w.Leads ids w') (hw : w.Fits ids) : w.memory.Grows w'.memory := by
  intro id hid
  obtain ⟨object, hobject⟩ := Option.isSome_iff_exists.1 hid
  have hheld : w'.memory.exportsOf? id = some object := by
    rw [h.fits.reflects id object]
    rcases (hw.reflects id object).1 hobject with hactive | hcompleted
    · exact .inl ((h.active id object).2 hactive)
    · exact .inr (h.completed id object hcompleted)
  exact Option.isSome_iff_exists.2 ⟨object, hheld⟩

theorem events_note (w : Watch σ) (e : Event) : (w.note e).events = w.events ++ [e] := by
  unfold events note
  rw [List.map_append]
  rfl

/-! ## What one event keeps -/

/-- Something happens that may happen, and the table holds what it should then. -/
theorem Fits.happen (h : w.Fits ids) (hfollows : Follows ids w.events e)
    (hreflects : Reflects m (w.events ++ [e])) (hobjects : w.memory.objects ≤ m.objects)
    (hbelow : ∀ id object, e = .entered id object → object < m.objects) :
    (note { w with memory := m } e).Fits ids := by
  have hevents : (note { w with memory := m } e).events = w.events ++ [e] := events_note _ e
  refine ⟨h.orderly.concat hfollows hreflects, by rwa [hevents], ?_⟩
  intro id object hentered
  rw [hevents, List.mem_append, List.mem_singleton] at hentered
  rcases hentered with hentered | heq
  · exact Nat.lt_of_lt_of_le (h.below id object hentered) hobjects
  · exact hbelow id object heq.symm

theorem Fits.note (h : w.Fits ids) (hquiet : e.IsQuiet) (hfollows : Follows ids w.events e) :
    w.Leads ids (w.note e) := by
  constructor
  · apply h.happen hfollows (h.reflects.quiet hquiet) (Nat.le_refl _)
    rintro id object rfl
    cases hquiet
  · intro id object
    rw [events_note, isActive_concat_of_isQuiet hquiet]
  · intro id object hcompleted
    rwa [events_note, hasCompleted_concat_of_isQuiet hquiet]

theorem Fits.idle (h : w.Fits ids) (hid : w.memory.exportsOf? id = none) (object : Nat) :
    ¬ IsActive w.events id object ∧ ¬ HasCompleted w.events id object := by
  have hheld := h.reflects id object
  rw [hid] at hheld
  exact not_or.1 fun hfound => nomatch hheld.2 hfound

theorem events_activate (w : Watch σ) (id : String) :
    (w.activate id).events = w.events ++ [.entered id w.memory.objects] := events_note _ _

/-- No module has been left that has the next exports object. -/
theorem Fits.not_left (h : w.Fits ids) (id : String) (ending : Except Thrown Unit) :
    .left id w.memory.objects ending ∉ w.events := fun hleft =>
  Nat.lt_irrefl _ (h.below id _ (h.orderly.entered_of_left hleft))

theorem Fits.activate {earlier : List Event} (h : w.Fits ids)
    (hrequired : w.events = earlier ++ [.required id]) (hlinked : id ∈ ids)
    (hid : w.memory.exportsOf? id = none) : (w.activate id).Fits ids := by
  have hfresh : ∀ other, .entered other w.memory.objects ∉ w.events :=
    fun other hentered => Nat.lt_irrefl _ (h.below other _ hentered)
  have hfollows : Follows ids w.events (.entered id w.memory.objects) :=
    .entered hrequired hlinked (h.idle hid)
      (fun object hentered => exists_error (h.idle hid) hentered) hfresh
  apply h.happen hfollows (h.reflects.activate hid (h.not_left id)) (Nat.le_succ _)
  rintro other object ⟨⟩
  exact Nat.lt_succ_self _

theorem events_leave (w : Watch σ) (id : String) (object : Nat) (ending : Except Thrown Unit) :
    (w.leave id object ending).2.events = w.events ++ [.left id object ending] := by
  cases ending <;> exact events_note _ _

theorem Fits.leave (h : w.Fits ids) (hrunning : Running w.events)
    (hactive : IsActive w.events id object) (ending : Except Thrown Unit) :
    (w.leave id object ending).2.Fits ids := by
  cases ending with
  | ok u =>
    exact h.happen (.left hrunning hactive _) (h.reflects.complete hactive) (Nat.le_refl _)
      fun other found hevent => nomatch hevent
  | error error =>
    exact h.happen (.left hrunning hactive _) (h.reflects.forget hactive error) (Nat.le_refl _)
      fun other found hevent => nomatch hevent

/-- A module that is left has its requirement answered next. -/
theorem follows_leave (w : Watch σ) (id : String) (object : Nat) (ending : Except Thrown Unit) :
    Follows ids (w.leave id object ending).2.events
      (.answered id (w.leave id object ending).1) := by
  rw [events_leave]
  cases ending with
  | ok u => exact .completed rfl
  | error error => exact .thrown rfl

/-! ## What runs keep -/

/-- Whether requiring modules keeps tables and their logs, as long as fewer than `bound` of the
modules that can be entered are missing from the table. -/
def Behaves (ids : List String) (bound : Nat) (inner : Require σ) : Prop :=
  ∀ id w, Fits ids w → Running w.events → missing ids w.memory < bound →
    (inner id w).AllEnds fun p => w.Leads ids p.2 ∧ Running p.2.events

variable {bound : Nat}

theorem leads_runCode (h : Behaves ids bound inner) (code : Code σ α) (hw : w.Fits ids)
    (hrunning : Running w.events) (hbound : missing ids w.memory < bound) :
    (runCode inner code w).AllEnds fun p => w.Leads ids p.2 ∧ Running p.2.events := by
  induction code generalizing w with
  | done value => exact ⟨hw.leads, hrunning⟩
  | ask operation payload next ih =>
    intro reply
    have hnote := hw.note (e := .asked operation payload reply) trivial (.asked hrunning _ _ _)
    have hresumed : Running (w.note (.asked operation payload reply)).events := by
      rw [events_note, running_concat_iff]
      trivial
    refine (ih reply hnote.fits hresumed hbound).imp ?_
    rintro p ⟨hp, hend⟩
    exact ⟨hnote.trans hp, hend⟩
  | require id state next ih =>
    have hstate := hw.leads.handOver state
    unfold runCode
    rw [Script.allEnds_bind_iff]
    refine (h id _ hstate.fits hrunning hbound).imp ?_
    rintro ⟨r, after⟩ ⟨hafter, hresumed⟩
    have hmissing := missing_mono ids (hafter.grows hstate.fits)
    refine (ih (r, after.memory.state) hafter.fits hresumed
      (Nat.lt_of_le_of_lt hmissing hbound)).imp ?_
    rintro p ⟨hp, hend⟩
    exact ⟨(hstate.trans hafter).trans hp, hend⟩

theorem leads_runBody (h : Behaves ids bound inner) (body : Body σ) (object : Nat)
    (hw : w.Fits ids) (hrunning : Running w.events) (hbound : missing ids w.memory < bound) :
    (runBody inner body object w).AllEnds fun p => w.Leads ids p.2 ∧ Running p.2.events := by
  unfold runBody
  rw [Script.allEnds_bind_iff]
  refine (leads_runCode h _ hw hrunning hbound).imp ?_
  rintro ⟨⟨r, state⟩, after⟩ ⟨hafter, hend⟩
  exact ⟨hafter.handOver state, hend⟩

/-- A module is entered and left. -/
theorem leads_leave {after : Watch σ} (hw : w.Fits ids) (hid : w.memory.exportsOf? id = none)
    (hafter : (w.activate id).Leads ids after) (hrunning : Running after.events)
    (ending : Except Thrown Unit) :
    w.Leads ids (after.leave id w.memory.objects ending).2 := by
  have hactive : ∀ other found, IsActive after.events other found ↔
      IsActive w.events other found ∨ (id = other ∧ w.memory.objects = found) := by
    intro other found
    rw [hafter.active, events_activate, isActive_concat_entered_iff]
    constructor
    · rintro (hfound | ⟨hsame, -⟩)
      · exact .inl hfound
      · exact .inr hsame
    · rintro (hfound | ⟨rfl, rfl⟩)
      · exact .inl hfound
      · exact .inr ⟨⟨rfl, rfl⟩, hw.not_left id⟩
  constructor
  · exact hafter.fits.leave hrunning ((hactive id _).2 (.inr ⟨rfl, rfl⟩)) ending
  · intro other found
    rw [events_leave, isActive_concat_left_iff, hactive]
    constructor
    · rintro ⟨hfound | hsame, hnot⟩
      · exact hfound
      · exact absurd hsame hnot
    · intro hfound
      refine ⟨.inl hfound, ?_⟩
      rintro ⟨rfl, -⟩
      exact (hw.idle hid found).1 hfound
  · intro other found hcompleted
    rw [events_leave, hasCompleted_concat_iff]
    refine .inl (hafter.completed other found ?_)
    rw [events_activate, hasCompleted_concat_iff]
    exact .inl hcompleted

/-- What requiring a module does after the requirement has been noted and before its answer is. -/
theorem leads_enter {earlier : List Event} (h : Behaves (modules.map (·.1)) bound inner)
    (hw : w.Fits (modules.map (·.1))) (hrequired : w.events = earlier ++ [.required id])
    (hbound : missing (modules.map (·.1)) w.memory < bound + 1) :
    (enter modules inner id w).AllEnds fun p => w.Leads (modules.map (·.1)) p.2 ∧
      Follows (modules.map (·.1)) p.2.events (.answered id p.1) := by
  unfold enter
  cases hid : w.memory.exportsOf? id with
  | some object =>
    have hheld := (hw.reflects id object).1 hid
    have hquiet : (Event.required id).IsQuiet := trivial
    rw [hrequired, isActive_concat_of_isQuiet hquiet,
      hasCompleted_concat_of_isQuiet hquiet] at hheld
    exact ⟨hw.leads, .found hrequired hheld⟩
  | none =>
    cases hbody : Json.member? modules id with
    | none => exact ⟨hw.leads, .unlinked hrequired (Json.member?_eq_none_iff.1 hbody)⟩
    | some body =>
      have hlinked : id ∈ modules.map (·.1) :=
        List.mem_map_of_mem (Json.mem_of_member? hbody)
      have hentered := hw.activate hrequired hlinked hid
      have hresumed : Running (w.activate id).events := by
        rw [events_activate, running_concat_iff]
        trivial
      have hmissing : missing (modules.map (·.1)) (w.activate id).memory <
          missing (modules.map (·.1)) w.memory :=
        missing_activate_lt (Memory.not_holds_of_eq_none hid) hlinked
      rw [Script.allEnds_bind_iff]
      refine (leads_runBody h body w.memory.objects hentered hresumed (by omega)).imp ?_
      rintro ⟨ending, after⟩ ⟨hafter, hrunning⟩
      exact ⟨leads_leave hw hid hafter hrunning ending, follows_leave after id _ ending⟩

theorem behaves_requireWithin (modules : List (String × Body σ)) (depth : Nat) :
    Behaves (modules.map (·.1)) depth (requireWithin modules depth) := by
  induction depth with
  | zero =>
    intro id w hw hrunning hbound
    omega
  | succ depth ih =>
    intro id w hw hrunning hbound
    have hnote := hw.note (e := .required id) trivial (.required hrunning id)
    unfold requireWithin call
    rw [Script.allEnds_bind_iff]
    refine (leads_enter ih hnote.fits (events_note w _) hbound).imp ?_
    rintro ⟨r, after⟩ ⟨hafter, hfollows⟩
    refine ⟨(hnote.trans hafter).trans (hafter.fits.note trivial hfollows), ?_⟩
    rw [events_note, running_concat_iff]
    trivial

/-- A table that holds nothing, to which nothing has happened. -/
def initial (state : σ) : Watch σ := ⟨⟨[], 0, state⟩, []⟩

theorem not_isActive_nil : ¬ IsActive [] id object := fun h => nomatch h.1

theorem fits_initial (ids : List String) (state : σ) : (initial state).Fits ids where
  orderly := by
    intro before moment after heq
    cases before <;> cases heq
  reflects := by
    intro id object
    refine iff_of_false (fun hnone => nomatch hnone) ?_
    rintro (hactive | hcompleted)
    · exact not_isActive_nil hactive
    · cases hcompleted
  below := fun _ _ hentered => nomatch hentered

/-- Whether a table is in the end as its log tells: everything that happened was allowed then, all
requirements have been answered, no module is active any more, and the table holds those that have
completed. -/
structure Settles (ids : List String) (w : Watch σ) : Prop where
  orderly : Orderly ids w.log
  answered : Running w.events
  idle : ∀ id object, ¬ IsActive w.events id object
  held : ∀ id object, w.memory.exportsOf? id = some object ↔ HasCompleted w.events id object

theorem Leads.settles {state : σ} (h : (initial state).Leads ids w) (hrunning : Running w.events) :
    w.Settles ids where
  orderly := h.fits.orderly
  answered := hrunning
  idle id object hactive := not_isActive_nil ((h.active id object).1 hactive)
  held id object := by
    rw [h.fits.reflects id object, h.active]
    exact or_iff_right not_isActive_nil

end Watch

/-- Module bodies run once. Take any modules, and any code that requires them one after the other,
as evaluations do. It runs under watch as without, and whatever the host answers, everything that
happens is allowed when it happens, and the table holds all along the modules that are active or
have completed. -/
theorem runs_once (modules : List (String × Body σ)) (code : Code σ α) (state : σ) :
    Watch.unwatched (Watch.runCode (Watch.require modules) code (.initial state)) =
      runCode (require modules) code ⟨[], 0, state⟩ ∧
    (Watch.runCode (Watch.require modules) code (.initial state)).AllEnds fun p =>
      p.2.Settles (modules.map (·.1)) := by
  constructor
  · exact Watch.unwatched_require modules code (.initial state)
  · have hbehaves := Watch.behaves_requireWithin modules (modules.length + 1)
    have hbound : missing (modules.map (·.1)) (Watch.initial state).memory < modules.length + 1 :=
      Nat.lt_succ_of_le (missing_le modules _)
    refine (Watch.leads_runCode hbehaves code (Watch.fits_initial _ state)
      (fun e he => nomatch he) hbound).imp ?_
    rintro p ⟨hp, hrunning⟩
    exact hp.settles hrunning

/-- Two modules that require each other. The first one throws when it runs for the first time. -/
def circle : List (String × Body Nat) :=
  [("a", fun _ runs => .require "b" runs fun (_, runs) =>
      .done (if runs = 0 then .error ⟨"Error", "not yet"⟩ else .ok (), runs + 1)),
   ("b", fun _ runs => .require "a" runs fun (_, runs) => .done (.ok (), runs))]

/-- The second module keeps the exports object of a run of the first one that threw. -/
example : (Watch.runCode (Watch.require circle)
    (.require "a" 0 fun (_, runs) => .require "a" runs fun _ => .done ()) (.initial 0)).AllEnds
      fun p => p.2.events =
        [.required "a", .entered "a" 0, .required "b", .entered "b" 1, .required "a",
         .answered "a" (.ok 0), .left "b" 1 (.ok ()), .answered "b" (.ok 1),
         .left "a" 0 (.error ⟨"Error", "not yet"⟩), .answered "a" (.error ⟨"Error", "not yet"⟩),
         .required "a", .entered "a" 2, .required "b", .answered "b" (.ok 1),
         .left "a" 2 (.ok ()), .answered "a" (.ok 2)] :=
  rfl

end Table

end ScriptLint

/-
A table of modules under watch: what happens to it is written down, and with it the table as it is
then. Modules are required as they are without a watch (`unwatched_require`).
-/
import ScriptLint.Proofs.Script.Table

namespace ScriptLint

namespace Table

variable {σ α β : Type}

/-- What happens to a table of modules. -/
inductive Event where
  | required (id : String)
  | answered (id : String) (answer : Except Thrown Nat)
  | entered (id : String) (object : Nat)
  | left (id : String) (object : Nat) (ending : Except Thrown Unit)
  | asked (operation payload : Json) (reply : Reply)

/-- Something that happened, and the table then. -/
structure Moment (σ : Type) where
  event : Event
  memory : Memory σ

/-- A table with the log of what has happened to it. -/
structure Watch (σ : Type) where
  memory : Memory σ
  log : List (Moment σ)

namespace Watch

def note (w : Watch σ) (e : Event) : Watch σ := { w with log := w.log ++ [⟨e, w.memory⟩] }

def events (w : Watch σ) : List Event := w.log.map Moment.event

def handOver (w : Watch σ) (state : σ) : Watch σ :=
  { w with memory := { w.memory with state := state } }

/-- Remembers a new exports object for a module that is entered. -/
def activate (w : Watch σ) (id : String) : Watch σ :=
  { w with memory := w.memory.activate id }.note (.entered id w.memory.objects)

/-- What a module gives that is left; it is forgotten if it threw. -/
def leave (w : Watch σ) (id : String) (object : Nat) :
    Except Thrown Unit → Except Thrown Nat × Watch σ
  | .ok () => (.ok object, w.note (.left id object (.ok ())))
  | .error error => (.error error,
      { w with memory := w.memory.forget id }.note (.left id object (.error error)))

/-! ## Requiring under watch -/

abbrev Require (σ : Type) := String → Watch σ → Script (Except Thrown Nat × Watch σ)

def runCode (inner : Require σ) : Code σ α → Watch σ → Script (α × Watch σ)
  | .done value, w => .done (value, w)
  | .ask operation payload next, w =>
    .ask operation payload fun reply =>
      runCode inner (next reply) (w.note (.asked operation payload reply))
  | .require id state next, w =>
    (inner id (w.handOver state)).bind fun (r, w) => runCode inner (next (r, w.memory.state)) w

def runBody (inner : Require σ) (body : Body σ) (object : Nat) (w : Watch σ) :
    Script (Except Thrown Unit × Watch σ) :=
  (runCode inner ((body object).run.run w.memory.state) w).bind fun ((r, state), w) =>
    .done (r, w.handOver state)

def enter (modules : List (String × Body σ)) (inner : Require σ) : Require σ := fun id w =>
  match w.memory.exportsOf? id with
  | some object => .done (.ok object, w)
  | none =>
    match Json.member? modules id with
    | none => .done (.error ⟨"Error", "Module is not linked: " ++ id⟩, w)
    | some body =>
      (runBody inner body w.memory.objects (w.activate id)).bind fun (r, after) =>
        .done (after.leave id w.memory.objects r)

/-- Notes a requirement and its answer. -/
def call (inner : Require σ) : Require σ := fun id w =>
  (inner id (w.note (.required id))).bind fun (r, after) =>
    .done (r, after.note (.answered id r))

def requireWithin (modules : List (String × Body σ)) : Nat → Require σ
  | 0 => call fun id w => .done (.error ⟨"Error", "Module is not linked: " ++ id⟩, w)
  | depth + 1 => call (enter modules (requireWithin modules depth))

def require (modules : List (String × Body σ)) : Require σ :=
  requireWithin modules (modules.length + 1)

/-! ## Without the log -/

/-- A script without the log of the table. -/
def unwatched (s : Script (α × Watch σ)) : Script (α × Memory σ) :=
  s.bind fun (value, w) => .done (value, w.memory)

theorem unwatched_bind {s : Script (α × Watch σ)} {f : α × Watch σ → Script (β × Watch σ)}
    {s' : Script (α × Memory σ)} {g : α × Memory σ → Script (β × Memory σ)}
    (hs : unwatched s = s') (hf : ∀ value w, unwatched (f (value, w)) = g (value, w.memory)) :
    unwatched (s.bind f) = s'.bind g := by
  subst hs
  unfold unwatched at hf ⊢
  rw [Script.bind_assoc, Script.bind_assoc]
  congr 1
  funext ⟨value, w⟩
  exact hf value w

/-- Whether requiring under watch is requiring. -/
def Watches (inner : Require σ) (plain : Table.Require σ) : Prop :=
  ∀ id w, unwatched (inner id w) = plain id w.memory

variable {inner : Require σ} {plain : Table.Require σ}

theorem unwatched_runCode (h : Watches inner plain) (code : Code σ α) (w : Watch σ) :
    unwatched (runCode inner code w) = Table.runCode plain code w.memory := by
  induction code generalizing w with
  | done value => rfl
  | ask operation payload next ih =>
    exact congrArg (Script.ask operation payload) (funext fun reply => ih reply _)
  | require id state next ih =>
    unfold runCode Table.runCode
    exact unwatched_bind (h id _) fun r after => ih (r, after.memory.state) after

theorem unwatched_runBody (h : Watches inner plain) (body : Body σ) (object : Nat)
    (w : Watch σ) :
    unwatched (runBody inner body object w) = Table.runBody plain body object w.memory := by
  unfold runBody Table.runBody
  apply unwatched_bind (unwatched_runCode h _ w)
  rintro ⟨r, state⟩ after
  rfl

theorem Watches.enter (h : Watches inner plain) (modules : List (String × Body σ)) :
    Watches (enter modules inner) (Table.enter modules plain) := by
  intro id w
  unfold Watch.enter Table.enter
  cases w.memory.exportsOf? id with
  | some object => rfl
  | none =>
    cases Json.member? modules id with
    | none => rfl
    | some body =>
      apply unwatched_bind (unwatched_runBody h body _ (w.activate id))
      intro r after
      cases r <;> rfl

theorem Watches.call (h : Watches inner plain) : Watches (call inner) plain := by
  intro id w
  have hcall : unwatched (Watch.call inner id w) = (plain id w.memory).bind .done := by
    unfold Watch.call
    exact unwatched_bind (h id (w.note (.required id))) fun r after => rfl
  rw [hcall, Script.bind_done]

theorem watches_requireWithin (modules : List (String × Body σ)) (depth : Nat) :
    Watches (requireWithin modules depth) (Table.requireWithin modules depth) := by
  induction depth with
  | zero => exact Watches.call fun id w => rfl
  | succ depth ih => exact (ih.enter modules).call

/-- Modules are required under watch as they are without. -/
theorem unwatched_require (modules : List (String × Body σ)) (code : Code σ α) (w : Watch σ) :
    unwatched (runCode (require modules) code w) =
      Table.runCode (Table.require modules) code w.memory :=
  unwatched_runCode (watches_requireWithin modules (modules.length + 1)) code w

end Watch

end Table

end ScriptLint

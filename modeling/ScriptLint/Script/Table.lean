/-
The table of modules of a running script. A module is entered when it is first required, and its
exports are remembered from then on, so that cycles find them; a module that throws is forgotten
and entered again when it is next required.
-/
import ScriptLint.Script.Basic

namespace ScriptLint

/-- What a module body does: beside asking the host it requires other modules, to which it hands
its state `σ` and from which it gets it back. -/
inductive Code (σ α : Type) where
  | done (value : α)
  | ask (operation payload : Json) (next : Reply → Code σ α)
  | require (id : String) (state : σ) (next : Except Thrown Nat × σ → Code σ α)

namespace Code

variable {σ α β : Type}

/-- Goes on with the value that code ends with. -/
def bind : Code σ α → (α → Code σ β) → Code σ β
  | .done value, f => f value
  | .ask operation payload next, f => .ask operation payload fun reply => (next reply).bind f
  | .require id state next, f => .require id state fun r => (next r).bind f

instance : Monad (Code σ) where
  pure := .done
  bind := bind

/-- A script as code that requires nothing. -/
def ofScript : Script α → Code σ α
  | .done value => .done value
  | .ask operation payload next => .ask operation payload fun reply => ofScript (next reply)

end Code

/-- A module body: it gets the number of its exports object and may throw. -/
abbrev Body (σ : Type) := Nat → ExceptT Thrown (StateT σ (Code σ)) Unit

/-- What the table remembers: the exports object of every module that is active or finished, and
how many objects there are. -/
structure Memory (σ : Type) where
  exports : List (String × Nat)
  objects : Nat
  state : σ

namespace Memory

variable {σ : Type}

/-- The exports object of an active or finished module. -/
def exportsOf? (m : Memory σ) (id : String) : Option Nat := Json.member? m.exports id

/-- Remembers a new exports object for a module. -/
def activate (m : Memory σ) (id : String) : Memory σ :=
  { m with exports := (id, m.objects) :: m.exports, objects := m.objects + 1 }

/-- Forgets a module. -/
def forget (m : Memory σ) (id : String) : Memory σ :=
  { m with exports := m.exports.filter fun e => e.1 != id }

end Memory

namespace Table

variable {σ α : Type}

/-- Requiring a module: its exports object or the error that its body threw. -/
abbrev Require (σ : Type) := String → Memory σ → Script (Except Thrown Nat × Memory σ)

/-- Runs code that requires modules in the way of `require`. -/
def runCode (require : Require σ) : Code σ α → Memory σ → Script (α × Memory σ)
  | .done value, m => .done (value, m)
  | .ask operation payload next, m =>
    .ask operation payload fun reply => runCode require (next reply) m
  | .require id state next, m =>
    (require id { m with state := state }).bind fun (r, m) => runCode require (next (r, m.state)) m

/-- Runs a body on an exports object. -/
def runBody (require : Require σ) (body : Body σ) (object : Nat) (m : Memory σ) :
    Script (Except Thrown Unit × Memory σ) :=
  (runCode require ((body object).run.run m.state) m).bind fun ((r, state), m) =>
    .done (r, { m with state := state })

/-- Requires a module whose own requirements are met by `require`. -/
def enter (modules : List (String × Body σ)) (require : Require σ) : Require σ := fun id m =>
  match m.exportsOf? id with
  | some object => .done (.ok object, m)
  | none =>
    match Json.member? modules id with
    | none => .done (.error ⟨"Error", "Module is not linked: " ++ id⟩, m)
    | some body =>
      (runBody require body m.objects (m.activate id)).bind fun (r, after) =>
        match r with
        | .ok () => .done (.ok m.objects, after)
        | .error error => .done (.error error, after.forget id)

/-- Requires a module, with at most `depth` modules entered inside one another. -/
def requireWithin (modules : List (String × Body σ)) : Nat → Require σ
  | 0 => fun id m => .done (.error ⟨"Error", "Module is not linked: " ++ id⟩, m)
  | depth + 1 => enter modules (requireWithin modules depth)

/-- Requires a module. An active module is not entered again, so no more modules are ever entered
inside one another than there are. -/
def require (modules : List (String × Body σ)) : Require σ :=
  requireWithin modules (modules.length + 1)

end Table

end ScriptLint

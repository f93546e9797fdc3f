/-
What scripts do, as their host sees it: a script asks the host, goes on with the answer, and ends.
Everything a script does between two questions is its own business, so a script is a tree of
questions, and every script that ends is such a tree.
-/
import ScriptLint.Host.Dispatch

namespace ScriptLint

/-- A script that ends with a value after any number of calls of the host. -/
inductive Script (α : Type) where
  | done (value : α)
  | ask (operation payload : Json) (next : Reply → Script α)

namespace Script

variable {α β γ : Type}

/-- Goes on with the value a script ends with. -/
def bind : Script α → (α → Script β) → Script β
  | .done value, f => f value
  | .ask operation payload next, f => .ask operation payload fun reply => (next reply).bind f

instance : Monad Script where
  pure := .done
  bind := bind

/-- Runs a script against a host that answers its calls one after the other. -/
def run : Script α → HostState → α × HostState
  | .done value, host => (value, host)
  | .ask operation payload next, host =>
    let (reply, host) := host.dispatch operation payload
    (next reply).run host

@[simp] theorem run_pure (value : α) (host : HostState) :
    (pure value : Script α).run host = (value, host) := rfl

theorem bind_done (s : Script α) : s.bind .done = s := by
  induction s with
  | done value => rfl
  | ask operation payload next ih => simp [bind, ih]

theorem bind_assoc (s : Script α) (f : α → Script β) (g : β → Script γ) :
    (s.bind f).bind g = s.bind fun a => (f a).bind g := by
  induction s with
  | done value => rfl
  | ask operation payload next ih => simp [bind, ih]

/-- A script runs its parts in order against one host. -/
theorem run_bind (s : Script α) (f : α → Script β) (host : HostState) :
    (s.bind f).run host = (f (s.run host).1).run (s.run host).2 := by
  induction s generalizing host with
  | done value => rfl
  | ask operation payload next ih => simp [bind, run, ih]

end Script

end ScriptLint

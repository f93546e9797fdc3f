/-
The sources of findings: native rules in the order of their registration, then plugins in theirs.
Codes lead to the source that was last registered or noted for them, so a plugin can shadow a
native rule in lookups; the sources themselves never change places.
-/
import ScriptLint.Finding.Codes
import ScriptLint.Rule.Basic

namespace ScriptLint

/-- What a code leads to: a native rule, or the plugin with an index. -/
inductive Handle where
  | native (rule : Rule)
  | plugin (index : Nat)

/-- The registered rules and plugins, and what each code leads to. -/
structure Registry (π : Type) where
  natives : List Rule
  plugins : List π
  handles : List (String × Handle)

namespace Registry

variable {π : Type}

/-- A registry without sources. -/
def empty : Registry π := ⟨[], [], []⟩

/-- What a code leads to. -/
def lookup (r : Registry π) (code : String) : Option Handle := Json.member? r.handles code

/-- The codes that lead anywhere. -/
def codes (r : Registry π) : Codes := Codes.ofList (r.handles.map (·.1))

/-- Registers a native rule, unless its code leads to another one. -/
def addNative (r : Registry π) (rule : Rule) : Except Failure (Registry π) :=
  match r.lookup rule.code with
  | some (.native other) => .error (.duplicateRule rule.code other.owner)
  | _ =>
    .ok { r with
      natives := r.natives ++ [rule]
      handles := Json.setMember r.handles rule.code (.native rule) }

/-- Registers native rules in order. -/
def addNatives (r : Registry π) : List Rule → Except Failure (Registry π)
  | [] => .ok r
  | rule :: rest => do (← r.addNative rule).addNatives rest

/-- Registers a plugin. Its codes are not known before it has run. -/
def addPlugin (r : Registry π) (plugin : π) : Registry π :=
  { r with plugins := r.plugins ++ [plugin] }

/-- Makes codes lead to a plugin. -/
def notePlugin (r : Registry π) (index : Nat) (codes : List String) : Registry π :=
  { r with handles := codes.foldl (fun hs c => Json.setMember hs c (.plugin index)) r.handles }

/-- Puts another state of a plugin in its place. -/
def setPlugin (r : Registry π) (index : Nat) (plugin : π) : Registry π :=
  { r with plugins := r.plugins.set index plugin }

end Registry

end ScriptLint

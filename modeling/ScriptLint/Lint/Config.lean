/-
Which native rules and which plugins to run.
-/
import ScriptLint.Lint.Notice
import ScriptLint.Rule.Builtin

namespace ScriptLint

/-- Native rules in the order in which they run, and the paths of plugins. -/
structure Config where
  rules : List Rule
  pluginPaths : List String

namespace Config

/-- All built-in rules and no plugins. -/
def default : Config := { rules := Rule.builtin, pluginPaths := [] }

/-- The rules to run: all of them, or those with the given codes. -/
def enabledRules (c : Config) : Option (List String) → List Rule
  | none => c.rules
  | some only => c.rules.filter fun r => only.contains r.code

/-- The given codes that no rule has. -/
def unknownCodes (c : Config) : Option (List String) → Codes
  | none => []
  | some only => Codes.ofList (only.filter fun code => !(c.rules.map (·.code)).contains code)

/-- The notices about codes that no rule has. -/
def notices (c : Config) (only : Option (List String)) : List Notice :=
  (c.unknownCodes only).map .unknownCode

/-- The registry of the enabled rules and of the plugins that loading the paths gives. -/
def registry {π : Type} (c : Config) (only : Option (List String))
    (load : String → Except Failure π) : Except Failure (Registry π) := do
  let natives ← Registry.empty.addNatives (c.enabledRules only)
  let plugins ← c.pluginPaths.mapM load
  return plugins.foldl Registry.addPlugin natives

end Config

end ScriptLint

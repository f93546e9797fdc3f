/-
The rules that are part of the linter.
-/
import ScriptLint.Rule.NoUnreachable
import ScriptLint.Rule.ValidTypeof

namespace ScriptLint.Rule

/-- The built-in rules, in the order in which they run. -/
def builtin : List Rule := [validTypeof, noUnreachable]

/-- The built-in rule with a code. -/
def builtin? (code : String) : Option Rule := builtin.find? fun r => r.code == code

end ScriptLint.Rule

/-
A parsed script as rules see it.
-/
import ScriptLint.Tree.Basic

namespace ScriptLint

/-- A parsed script: its path, its bytes and its tree. -/
structure Program where
  path : String
  source : Bytes
  root : Node
  hasErrors : Bool
  deriving Inhabited

end ScriptLint

/-
What the linter tells beside its findings: warnings and errors that do not end the work.
-/
import ScriptLint.Lint.Pass

namespace ScriptLint

/-- Something to be told. -/
inductive Notice where
  /-- No rule has a code that was asked for. -/
  | unknownCode (code : String)
  /-- A text does not parse; its tree has a root of some kind. -/
  | parseErrors (rootKind : String)
  | syntaxErrors (path : String)
  | unreadable (path : String) (fault : OpenFault)
  | noScripts (directory : String)
  | pluginFailed (failure : PluginFailure) (path : String)

namespace Notice

/-- How serious a notice is. -/
def level : Notice → String
  | .unreadable _ _ | .pluginFailed _ _ => "ERROR"
  | _ => "WARNING"

def message : Notice → String
  | .unknownCode code => "Unknown rule code " ++ code ++ "; ignoring"
  | .parseErrors rootKind => "Parse completed with errors: root=" ++ rootKind
  | .syntaxErrors path =>
    "File " ++ path ++ " parsed with syntax errors; AST may be incomplete"
  | .unreadable path fault => "Failed to read file " ++ path ++ ": " ++ fault.message path
  | .noScripts directory => "No JavaScript files found under " ++ directory
  | .pluginFailed failure path =>
    "Plugin " ++ failure.plugin ++ " failed on " ++ path ++ ": " ++ failure.failure.message

end Notice

/-- The notices of a lint pass. -/
def LintResult.notices (r : LintResult) : List Notice :=
  r.failures.map fun f => .pluginFailed f r.path

end ScriptLint

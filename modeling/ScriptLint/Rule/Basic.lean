/-
Built-in rules. A rule looks at one program and reports findings; it keeps nothing between runs.
-/
import ScriptLint.Lint.Context
import ScriptLint.Lint.Program
import ScriptLint.Text.Blank

namespace ScriptLint

/-- A rule that is part of the linter. `owner` names its implementation in messages. -/
structure Rule where
  code : String
  owner : String
  docs : String
  check : Context → Program → Report

/-- The first line of a documentation text, blanks around the text ignored. -/
def summaryOf (docs : String) : String :=
  String.ofList (Text.firstLine (Text.strip docs.toList))

/-- One line about a rule, for listings. -/
def Rule.summary (r : Rule) : String := summaryOf r.docs

end ScriptLint

/-
The state of one analysis run. Rules and plugins read it and add what they report; nothing is ever
taken away.
-/
import ScriptLint.Failure
import ScriptLint.Finding.Basic
import ScriptLint.Finding.Codes
import ScriptLint.Flow.Fact

namespace ScriptLint

/-- What a source of findings adds to a run, and how it failed if it did. -/
structure Report where
  findings : List Diagnostic
  pluginCodes : Codes
  failure : Option Failure

namespace Report

/-- A report of findings only. -/
def complete (findings : List Diagnostic) : Report := ⟨findings, [], none⟩

/-- A report that failed before anything was found. -/
def failed (f : Failure) : Report := ⟨[], [], some f⟩

end Report

/-- What is known and has been reported in a run. -/
structure Context where
  flow : Option ControlFlow
  findings : List Diagnostic
  pluginCodes : Codes

namespace Context

/-- A run in which nothing has been reported. -/
def start (flow : Option ControlFlow) : Context := ⟨flow, [], []⟩

/-- Adds a report: findings come last, codes are merged. -/
def add (c : Context) (r : Report) : Context :=
  { c with
    findings := c.findings ++ r.findings
    pluginCodes := Codes.insertAll r.pluginCodes c.pluginCodes }

end Context

end ScriptLint

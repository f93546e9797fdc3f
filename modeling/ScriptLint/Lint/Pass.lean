/-
Running all sources of a registry over a program. In a strict run the first failure ends the run.
In a lint pass a plugin that fails with an engine fault is recorded and the others go on; any other
failure ends the pass.
-/
import ScriptLint.Flow.Analysis
import ScriptLint.Lint.Registry

namespace ScriptLint

/-- A kind of plugins: how one runs over a program, and which codes it has registered. -/
class PluginKind (π : Type) where
  path : π → String
  registered : π → Codes
  run : π → Context → Program → Report × π

/-- A failure with the plugin it came from. -/
structure PluginFailure where
  plugin : String
  failure : Failure

/-- The outcome of linting one program. -/
structure LintResult where
  path : String
  source : Bytes
  findings : List Diagnostic
  pluginCodes : Codes
  failures : List PluginFailure

/-- Whether no plugin failed. -/
def LintResult.isOk (r : LintResult) : Bool := r.failures.isEmpty

namespace Registry

variable {π : Type}

/-- Runs native rules in order, up to the first that fails. -/
def runNatives (program : Program) : List Rule → Context → Option Failure × Context
  | [], context => (none, context)
  | rule :: rest, context =>
    let report := rule.check context program
    match report.failure with
    | some f => (some f, context.add report)
    | none => runNatives program rest (context.add report)

variable [PluginKind π]

/-- Runs the plugin at an index. Its codes are noted if it does not fail. -/
def runPlugin (r : Registry π) (index : Nat) (plugin : π) (context : Context)
    (program : Program) : Option Failure × Context × Registry π :=
  let (report, after) := PluginKind.run plugin context program
  let r := r.setPlugin index after
  match report.failure with
  | some f => (some f, context.add report, r)
  | none => (none, context.add report, r.notePlugin index (PluginKind.registered after))

/-- Runs the plugins from an index on, up to the first that fails. -/
def runPluginsFrom (program : Program) (index : Nat) :
    List π → Registry π → Context → Option Failure × Context × Registry π
  | [], r, context => (none, context, r)
  | plugin :: rest, r, context =>
    match r.runPlugin index plugin context program with
    | (some f, context, r) => (some f, context, r)
    | (none, context, r) => runPluginsFrom program (index + 1) rest r context

/-- Runs all sources over a program, up to the first that fails; what was reported before stays. -/
def run (r : Registry π) (context : Context) (program : Program) :
    Option Failure × Context × Registry π :=
  match runNatives program r.natives context with
  | (some f, context) => (some f, context, r)
  | (none, context) => runPluginsFrom program 0 r.plugins r context

/-- Runs the plugins from an index on. Engine faults are recorded; another failure ends the pass. -/
def lintPluginsFrom (program : Program) (index : Nat) :
    List π → Registry π → Context → List PluginFailure →
      Except Failure (Context × List PluginFailure) × Registry π
  | [], r, context, failures => (.ok (context, failures), r)
  | plugin :: rest, r, context, failures =>
    match r.runPlugin index plugin context program with
    | (none, context, r) => lintPluginsFrom program (index + 1) rest r context failures
    | (some f, context, r) =>
      if f.isEngineFault then
        lintPluginsFrom program (index + 1) rest r context
          (failures ++ [⟨PluginKind.path plugin, f⟩])
      else (.error f, r)

/-- Lints a program in a new context. Control flow that is not given is found out. -/
def lint (r : Registry π) (program : Program) (flow : Option ControlFlow) :
    Except Failure LintResult × Registry π :=
  let flow := flow.getD (ControlFlow.ofProgram program.root)
  match runNatives program r.natives (.start (some flow)) with
  | (some f, _) => (.error f, r)
  | (none, context) =>
    let (outcome, r) := lintPluginsFrom program 0 r.plugins r context []
    (outcome.map fun (context, failures) =>
      { path := program.path, source := program.source, findings := context.findings
        pluginCodes := context.pluginCodes, failures := failures }, r)

end Registry

end ScriptLint

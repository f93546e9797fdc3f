/-
The command line. A run lints a script or every script below a directory and ends with 0 if nothing
was found, with 1 if there were findings, and with 2 if a plugin could not be loaded or failed, or
the arguments were not understood.
-/
import ScriptLint.Cli.Arguments
import ScriptLint.Cli.Workspace
import ScriptLint.Files.Discovery
import ScriptLint.Lint.Config
import ScriptLint.Plugin.Engine
import ScriptLint.Report.Console

namespace ScriptLint.Cli

/-- What a run prints and how it ends. -/
structure Outcome where
  exitCode : Nat
  output : String
  errors : String
  notices : List Notice

/-- How the program is used. -/
def usage : String :=
  "Usage: lint [--plugin PATH]... [--rule CODE]... [--verbose] TARGET\n       rules\n"

/-- The end of a run whose arguments are not understood. -/
def Outcome.badUsage (notices : List Notice) : Outcome := ⟨2, "", usage, notices⟩

/-- The notices about a plugin that could not be loaded. -/
def loadNotices : Failure → List Notice
  | .module (.unparsable _) => [.parseErrors "program"]
  | _ => []

/-- The scripts that a target stands for, `none` if it is no script and no directory. -/
def targets (files : FileTree StoredFile) (place : List String) :
    Option (List String × List Notice) :=
  let path := Path.ofNames place
  match files.find path with
  | .ok (.file _) => if Discovery.isScript path then some ([path], []) else none
  | .ok (.directory _) =>
    match Discovery.find .default files path with
    | .error _ => none
    | .ok [] => some ([], [.noScripts path])
    | .ok paths => some (paths, [])
  | _ => none

/-- Lints scripts in order. A failure that is not reported ends the run. -/
def lintAll {π : Type} [PluginKind π] (files : FileTree StoredFile) (r : Registry π) :
    List String → Except Failure (List LintResult × List Notice)
  | [] => .ok ([], [])
  | path :: rest => do
    let (result, r, notices) := lintFile r files path
    let result ← result
    let (results, more) ← lintAll files r rest
    return (result.toList ++ results, notices ++ more)

/-- The exit code for the results of a run. -/
def exitCode (results : List LintResult) : Nat :=
  if results.any fun r => !r.isOk then 2
  else if results.any fun r => !r.findings.isEmpty then 1
  else 0

/-- Runs the lint command. Failures that the engine raises on purpose are reported, all others end
the run. -/
def runLint (files : FileTree StoredFile) (o : LintOptions) : Except Failure Outcome := do
  if o.target.contains (Char.ofNat 0) then throw (.module .nulInPath)
  match files.realPath (Path.names o.target) with
  | .error _ => return .badUsage []
  | .ok place =>
    if (files.locate place).toOption.isNone then return .badUsage []
    else
      let config : Config := { Config.default with pluginPaths := o.plugins }
      let only := if o.rules.isEmpty then none else some o.rules
      let asked := config.notices only
      match config.registry only (Plugin.load (Workspace.library files)) with
      | .error f =>
        if f.isEngineFault then
          return ⟨2, "", "Failed to load plugin: " ++ f.kind ++ ": " ++ f.message ++ "\n",
            asked ++ loadNotices f⟩
        else throw f
      | .ok registry =>
        match targets files place with
        | none => return .badUsage asked
        | some (paths, found) =>
          let (results, notices) ← lintAll files registry paths
          return ⟨exitCode results, Console.report 80 o.verbose results, "",
            asked ++ found ++ notices⟩

/-- The list of the built-in rules. -/
def ruleList : String :=
  String.join (Rule.builtin.map fun r => r.code ++ ": " ++ r.summary ++ "\n")

/-- Runs the program with arguments on files. -/
def run (files : FileTree StoredFile) (args : List String) : Except Failure Outcome :=
  match command? args with
  | none => .ok (.badUsage [])
  | some .help => .ok ⟨0, usage, "", []⟩
  | some .rules => .ok ⟨0, ruleList, "", []⟩
  | some (.lint o) => runLint files o

end ScriptLint.Cli

/-
Running a plugin over programs. The plugin's script is anything that can be evaluated and can run
its rules; the runner decides which failure of a script counts, keeps the rule codes that the
script has registered, and hands on what it reported. A run that fails hands on no findings.
-/
import ScriptLint.Lint.Pass
import ScriptLint.Script.Basic
import ScriptLint.Text.Split
import ScriptLint.Tree.Records

namespace ScriptLint

/-- The script side of a plugin with a state `σ`: evaluating its modules, and running the rules
with the given codes on the records of a program. Codes and records are handed over as texts. -/
structure Engine (σ : Type) where
  evaluate : σ → Script (Except Thrown Unit × σ)
  runRules : (records codes : String) → σ → Script (Except Thrown Unit × σ)

/-- A plugin between two runs. -/
structure Runner (σ : Type) where
  path : String
  /-- The id of the module that is evaluated. -/
  entryId : String
  engine : Engine σ
  realm : σ
  host : HostState
  registered : Codes
  evaluated : Bool

namespace Runner

variable {σ : Type}

/-- A plugin that has not run. -/
def start (path entryId : String) (engine : Engine σ) (realm : σ) : Runner σ :=
  { path := path, entryId := entryId, engine := engine, realm := realm, host := .initial
    registered := [], evaluated := false }

/-! ## Failures of scripts -/

/-- A failure that ends the run even if the script caught it: a breach of the protocol, and
whatever the engine does not raise on purpose. -/
def isSticky (f : Failure) : Bool := f.isProtocolFault || !f.isEngineFault

/-- The text by which a failure is found in the text of an error. -/
def trace (f : Failure) : String := f.kind ++ ": " ++ f.message

/-- The failure of a script that ended, by its end and the failures of its calls: the first sticky
one, else, for an error that escaped, the latest that shows in the text of the error, else the
error itself. -/
def verdict (place : String) (ending : Except Thrown Unit) (failures : List Failure) :
    Except Failure Unit :=
  match failures.find? isSticky, ending with
  | some f, .ok () => .error f
  | some f, .error _ => .error (.escaped f)
  | none, .ok () => .ok ()
  | none, .error error =>
    match failures.reverse.find? fun f => Text.contains (trace f).toList error.text.toList with
    | some f => .error (.escaped f)
    | none => .error (.uncaught place error)

/-- Runs a script; failures of earlier scripts are forgotten. -/
def execute (r : Runner σ) (place : String) (script : σ → Script (Except Thrown Unit × σ)) :
    Except Failure Unit × Runner σ :=
  let ((ending, realm), host) := (script r.realm).run r.host.clearFailures
  (verdict place ending host.failures, { r with realm := realm, host := host })

/-! ## Runs -/

/-- Starts a pass over a program with its control flow. -/
def begin (r : Runner σ) (flow : Option ControlFlow) : Runner σ :=
  { r with host := r.host.beginPass flow }

/-- Evaluates the modules unless that has been done with success, and adds the codes registered
meanwhile. -/
def prepare (r : Runner σ) : Except Failure Unit × Runner σ :=
  let (outcome, r) := if r.evaluated then (.ok (), r) else r.execute r.entryId r.engine.evaluate
  match outcome with
  | .error f => (.error f, r)
  | .ok () =>
    let (codes, host) := r.host.takeCodes
    (.ok (), { r with
      evaluated := true, host := host, registered := Codes.insertAll codes r.registered })

/-- Runs the rules of an evaluated plugin and hands on what they reported. -/
def collect (r : Runner σ) (program : Program) : Report × Runner σ :=
  let records := program.root.serialize program.source
  match r.execute "runPlugins" (r.engine.runRules records r.registered.serialize) with
  | (.error f, r) => (⟨[], r.registered, some f⟩, r)
  | (.ok (), r) =>
    let (reported, host) := r.host.takeReported
    let (findings, failure) := Reported.handOn reported.entries
    (⟨findings, r.registered, failure⟩, { r with host := host })

/-- Runs a plugin over a program. A plugin without rules reports nothing. -/
def run (r : Runner σ) (context : Context) (program : Program) : Report × Runner σ :=
  match (r.begin context.flow).prepare with
  | (.error f, r) => (.failed f, r)
  | (.ok (), r) => if r.registered.isEmpty then (.complete [], r) else r.collect program

end Runner

instance {σ : Type} : PluginKind (Runner σ) where
  path := Runner.path
  registered := Runner.registered
  run := Runner.run

end ScriptLint

/-
Plugins made of modules of statements. An entry module imports the plugin and registers its rule;
the modules it needs are linked and compiled when the plugin is loaded and entered when it runs for
the first time.
-/
import ScriptLint.Module.Link
import ScriptLint.Plugin.Body
import ScriptLint.Plugin.Runner

namespace ScriptLint

namespace Entry

/-- The id of the entry module. -/
def moduleId : String := "/__lintbridge_entry__.js"

/-! ## The entry module -/

/-- The rest of a quoted text after the escape sequence of a backslash, if it has the form of
one. A carriage return or a question mark takes a line end after it along. -/
def afterEscape : List Char → Option (List Char)
  | [] => none
  | 'x' :: a :: b :: rest =>
    if (Text.hexValue? a).isSome && (Text.hexValue? b).isSome then some rest else none
  | 'u' :: '\x7b' :: rest =>
    let digits := rest.takeWhile fun c => (Text.hexValue? c).isSome
    match digits, rest.drop digits.length with
    | _ :: _, '\x7d' :: rest => some rest
    | _, _ => none
  | 'u' :: a :: b :: c :: d :: rest =>
    if [a, b, c, d].all fun c => (Text.hexValue? c).isSome then some rest else none
  | c :: rest =>
    if c = 'x' || c = 'u' then none
    else if c = '\r' || c = '?' then
      match rest with
      | '\n' :: rest | '\u2028' :: rest | '\u2029' :: rest => some rest
      | _ => some rest
    else some rest

/-- Whether a text can stand between single quotes. A NUL ends every text. -/
def isQuotable (cs : List Char) : Bool :=
  let rec go : Nat → List Char → Bool
    | _, [] => true
    | 0, _ => false
    | n + 1, '\\' :: rest =>
      match afterEscape rest with
      | some rest => go n rest
      | none => false
    | n + 1, c :: rest => c ≠ '\'' && c ≠ '\n' && c ≠ '\r' && go n rest
  !cs.contains (Char.ofNat 0) && go cs.length cs

/-- The statements of the entry module of a plugin. -/
def statements (path : String) : List Statement :=
  if isQuotable path.toList then
    [.bind path ⟨some "Plugin", none, none⟩, .serve "Plugin"]
  else [.unparsable]

/-! ## Running -/

/-- Runs the queued jobs in order. -/
def runJobs : List String → Script Unit
  | [] => .done ()
  | label :: rest => do
    let _ ← (Script.callHost (.str "op_add_diagnostics") (Statement.tracePayload label)).run
    runJobs rest

/-- Runs the queued jobs of a realm after a script that ended normally. -/
def finish (ending : Except Thrown Unit) (m : Memory Realm) :
    Script (Except Thrown Unit × Memory Realm) :=
  match ending with
  | .error error => .done (.error error, m)
  | .ok () => do
    runJobs m.state.jobs
    return (.ok (), { m with state := { m.state with jobs := [] } })

/-- Enters the entry module. -/
def evaluate (modules : List (String × Body Realm)) (m : Memory Realm) :
    Script (Except Thrown Unit × Memory Realm) := do
  let (r, m) ← Table.require modules moduleId m
  finish (r.map fun _ => ()) m

/-- Runs a registered rule on a tree and tells the host what it found. -/
def runRule (tree : Option Ast) (code : String) (r : RuleClass) : ExceptT Thrown Script Unit := do
  match tree with
  | none => throw Script.notAFunction
  | some tree =>
    let found ← ExceptT.mk (r.collect tree)
    let _ ← Script.callHost (.str "op_add_diagnostics")
      (.obj (("code", .str code) :: (found.map fun v => ("diagnostics", v)).toList))

/-- Runs the rules with the given codes; a code without a rule class is passed over. -/
def runCodes (tree : Option Ast) (registered : Option (Json × RuleClass)) :
    List String → ExceptT Thrown Script Unit
  | [] => return ()
  | code :: rest => do
    match registered with
    | some (.str c, r) => if c = code then runRule tree code r
    | _ => pure ()
    runCodes tree registered rest

/-- Runs the registered rule if its code is among the given ones. -/
def runRules (records codes : String) (m : Memory Realm) :
    Script (Except Thrown Unit × Memory Realm) := do
  let tree := (Record.listOfText? records).bind Ast.ofRecords?
  let ending ← (runCodes tree m.state.registered ((Codes.ofText? codes).getD [])).run
  finish ending m

end Entry

/-- The engine of linked modules. -/
def Engine.ofModules (modules : List (Linked (List Statement))) : Engine (Memory Realm) :=
  let bodies := modules.map fun m => (m.id, Statement.toBody m.body)
  { evaluate := Entry.evaluate bodies, runRules := Entry.runRules }

/-- A plugin made of modules of statements. -/
abbrev Plugin := Runner (Memory Realm)

/-- Compiles modules in order. -/
def compileAll : List (Linked (List Statement)) → Except Failure Unit
  | [] => .ok ()
  | m :: rest =>
    match Statement.compile [] [] m.body with
    | .error error => .error (.uncaught m.id error)
    | .ok () => compileAll rest

/-- Loads the plugin at a path: its modules are read, linked and compiled. -/
def Plugin.load (lib : Library (List Statement)) (path : String) : Except Failure Plugin := do
  let modules ← (link lib (Statement.link lib.locate) Entry.moduleId
    (Entry.statements path)).mapError .module
  compileAll modules
  return Runner.start path Entry.moduleId (Engine.ofModules modules) ⟨[], 0, Realm.initial⟩

end ScriptLint

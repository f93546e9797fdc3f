/-
What the statements of a linked module do when the module is entered. Names are bound when their
statement has run, with the value that the other module has exported by then.
-/
import ScriptLint.Plugin.Global
import ScriptLint.Plugin.Statement
import ScriptLint.Script.Table

namespace ScriptLint

namespace Statement

/-- What statements do: they change the realm, ask the host, require modules and may throw. -/
abbrev Run := ExceptT Thrown (StateT Realm (Code Realm))

/-- Requires a module. -/
def require (id : String) : Run Nat :=
  .mk fun realm => .require id realm .done

/-- Calls the host. -/
def callHost (operation payload : Json) : Run Json :=
  .mk fun realm => do
    return (← Code.ofScript (Script.callHost operation payload).run, realm)

/-- The payload that tells the host a label. -/
def tracePayload (label : String) : Json :=
  .obj [("code", .str "trace"),
    ("diagnostics", .arr [.obj [("span", .obj [("lo", .int 0), ("hi", .int 0)]),
      ("message", .str label)]])]

/-- The names of a module while it runs: the values bound so far, and all constants. A function of
the module can stand in the place of what gives it the exports of other modules, or of what takes
its own. -/
structure Scope where
  values : List (String × Value)
  constants : List String
  /-- The exports object of the module, if the module can reach it. -/
  object : Option Nat
  /-- Whether other modules can be required. -/
  requires : Bool

namespace Scope

/-- The names of a module before its first statement. -/
def start (object : Nat) (body : List Statement) : Scope :=
  let functions := body.filterMap function?
  { values := functions.map (fun name => (name, .function))
      ++ [(Factory.requireName, .function), (Factory.exportsName, .exports object)]
    constants := body.flatMap fun s => s.constants.map Binding.name
    object := if functions.contains Factory.exportsName then none else some object
    requires := !functions.contains Factory.requireName }

/-- Binds a name. -/
def bind (scope : Scope) (name : String) (value : Value) : Scope :=
  { scope with values := (name, value) :: scope.values }

/-- The value of a name: one of the module's, or one that every module can use. -/
def value (scope : Scope) (name : String) : Run Value :=
  match Json.member? scope.values name with
  | some value => return value
  | none =>
    if scope.constants.contains name then
      throw ⟨"ReferenceError", name ++ " is not initialized"⟩
    else
      match Global.value? name with
      | some value => return value
      | none => throw ⟨"ReferenceError", "'" ++ name ++ "' is not defined"⟩

/-- The exports of another module. -/
def required (scope : Scope) (id : String) : Run Value :=
  if scope.requires then return .exports (← require id) else return .json Realm.functionAnswer

/-- Exports a value. -/
def setExport (scope : Scope) (name : String) (value : Value) : Run Unit := do
  match scope.object with
  | none => return ()
  | some object =>
    match (← get).setExport object name value with
    | .ok realm => set realm
    | .error error => throw error

end Scope

/-- The member of a value. -/
def member (value : Value) (name : String) : Run Value := return (← get).memberOf value name

/-- Binds the names of an import. Each part of the import requires the module for itself. -/
def runBindings (id : String) (bindings : Bindings) (scope : Scope) : Run Scope := do
  let scope ← match bindings.defaultName with
    | none => pure scope
    | some name => pure (scope.bind name (← member (← scope.required id) "default"))
  let scope ← match bindings.objectName with
    | none => pure scope
    | some name => pure (scope.bind name (← scope.required id))
  match bindings.names with
  | some names => do
    let other ← scope.required id
    names.foldlM (fun scope p => do return scope.bind p.2 (← member other p.1)) scope
  | none => do
    if bindings.defaultName.isNone && bindings.objectName.isNone then
      let _ ← scope.required id
    return scope

/-- The parts of a rule class whose parent is what `Visitor` means in the module: the visitor, or
a value that the module has bound to its name. -/
def inheriting (parts : RuleParts) (scope : Scope) : Run RuleParts := do
  if parts.extendsVisitor then
    match ← scope.value "Visitor" with
    | .visitor => return parts
    | .ruleClass base => return parts.extending base
    | .function => return { parts with extendsVisitor := false }
    | _ => throw ⟨"TypeError", "parent class must be constructor"⟩
  else return parts

/-- Registers the rule class that a value is; other values and classes without a code are no
rules. -/
def registerRule : Value → Run Unit
  | .ruleClass parts =>
    match parts.code with
    | none => return ()
    | some (.error error) => throw error
    | some (.ok code) => do
      modify fun realm => { realm with registered := some (code, parts.toClass) }
      let _ ← callHost (.str "op_add_rule_code") (.obj [("code", code)])
  | _ => return ()

/-- Runs one statement of a module. -/
def run (scope : Scope) : Statement → Run Scope
  | .bind id bindings => runBindings id bindings scope
  | .constant name value isExported => do
    if isExported then scope.setExport name (.json value)
    return scope.bind name (.json value)
  | .exportNames names => do
    names.forM fun p => do scope.setExport p.2 (← scope.value p.1)
    return scope
  | .exportDefault (.binding name) => do
    scope.setExport "default" (← scope.value name)
    return scope
  | .exportDefault (.value v) => do
    scope.setExport "default" (.json v)
    return scope
  | .exportFunction name isDefault => do
    scope.setExport (if isDefault then "default" else name) .function
    return scope
  | .reexport id names => do
    names.forM fun p => do scope.setExport p.2 (← member (← scope.required id) p.1)
    return scope
  | .reexportAll id => do
    match ← scope.required id with
    | .exports other =>
      let members := Json.scriptOrder ((← get).membersOf other)
      (members.filter fun m => m.1 != "default").forM fun m => scope.setExport m.1 m.2
      return scope
    | _ => return scope
  | .reexportObject id name => do
    scope.setExport name (← scope.required id)
    return scope
  | .trace label name => do
    let shown ← match name with
      | none => pure label
      | some name => do
        match (← get).showValue (← scope.value name) with
        | .ok text => pure (label ++ "=" ++ text)
        | .error error => throw error
    let _ ← callHost (.str "op_add_diagnostics") (tracePayload shown)
    return scope
  | .throwError error => throw error
  | .throwOnce message => do
    if (← get).thrown then return scope
    else
      modify fun realm => { realm with thrown := true }
      throw ⟨"Error", message⟩
  | .ask operation payload caught => do
    tryCatch (discard (callHost operation payload)) fun error =>
      if caught then return () else throw error
    return scope
  | .queue label => do
    modify fun realm => { realm with jobs := realm.jobs ++ [label] }
    return scope
  | .exportRule parts => do
    let parts ← inheriting parts scope
    scope.setExport "default" (.ruleClass parts)
    return scope
  | .serve name => do
    let value ← scope.value name
    modify fun realm => { realm with registered := none }
    registerRule value
    return scope
  | .unparsable => return scope

/-- Runs the statements of a module. -/
def runAll : Scope → List Statement → Run Unit
  | _, [] => return ()
  | scope, s :: rest => do runAll (← run scope s) rest

/-- The body of a linked module. -/
def toBody (body : List Statement) : Body Realm := fun object =>
  runAll (Scope.start object body) body

end Statement

end ScriptLint

/-
The statements of plugin modules. Statements that name other modules do so by a specifier until
they are linked and by a module id from then on.
-/
import ScriptLint.Module.Resolve
import ScriptLint.Module.Factory
import ScriptLint.Plugin.RuleClass
import ScriptLint.Script.Name

namespace ScriptLint

/-- What a module exports as its default. -/
inductive DefaultValue where
  | binding (name : String)
  | value (v : Json)
  deriving Repr

/-- The names that an import binds. -/
structure Bindings where
  defaultName : Option String
  /-- The name for the exports object. -/
  objectName : Option String
  /-- Exported names with the names they are bound to. -/
  names : Option (List (String × String))
  deriving Repr

/-- Whether an import parses. It has a name for the exports object or a list of names, not both. -/
def Bindings.isParsable (bindings : Bindings) : Bool :=
  (bindings.objectName.isNone || bindings.names.isNone)
    && (bindings.defaultName.toList ++ bindings.objectName.toList).all Name.isFree
    && (bindings.names.getD []).all fun p => Name.isExportable p.1 && Name.isFree p.2

/-- A statement of a plugin module. -/
inductive Statement where
  | bind (target : String) (bindings : Bindings)
  | constant (name : String) (value : Json) (exported : Bool)
  /-- Exports bound names, each under a name of its own. -/
  | exportNames (names : List (String × String))
  | exportDefault (value : DefaultValue)
  | exportFunction (name : String) (isDefault : Bool)
  | reexport (target : String) (names : List (String × String))
  | reexportAll (target : String)
  | reexportObject (target name : String)
  /-- Tells the host a label and the value of a bound name, if one is given. -/
  | trace (label : String) (name : Option String)
  | throwError (error : Thrown)
  /-- Throws an error unless a statement like it has done so before. -/
  | throwOnce (message : String)
  | ask (operation payload : Json) (caught : Bool)
  /-- Queues a job that tells the host a label. -/
  | queue (label : String)
  | exportRule (parts : RuleParts)
  /-- Makes the rule class bound to a name the rule of the plugin. -/
  | serve (name : String)
  | unparsable

namespace Statement

/-! ## Linking -/

/-- The specifier or the id of the module a statement names. -/
def target? : Statement → Option String
  | .bind target _ | .reexport target _ | .reexportAll target | .reexportObject target _ =>
    some target
  | _ => none

/-- Names another module. -/
def setTarget (target : String) : Statement → Statement
  | .bind _ bindings => .bind target bindings
  | .reexport _ names => .reexport target names
  | .reexportAll _ => .reexportAll target
  | .reexportObject _ name => .reexportObject target name
  | s => s

/-- Whether a statement parses. -/
def isParsable : Statement → Bool
  | .bind _ bindings => bindings.isParsable
  | .constant name _ _ => Name.isFree name
  | .exportFunction name isDefault => Name.isFree name || (isDefault && name = "")
  | .exportNames names | .reexport _ names =>
    names.all fun p => Name.isExportable p.1 && Name.isExportable p.2
  | .reexportObject _ name => Name.isExportable name
  | .exportDefault (.binding name) | .trace _ (some name) => !Name.commandWords.contains name
  | .unparsable => false
  | _ => true

/-- Resolves the specifiers of statements; the ids are listed in the order in which they are first
named. -/
def resolveAll (locate : Locate) (moduleId : String) :
    List Statement → List String → Except ModuleFault (List Statement × List String)
  | [], ids => .ok ([], ids)
  | s :: rest, ids =>
    match s.target? with
    | none => do
      let (linked, ids) ← resolveAll locate moduleId rest ids
      return (s :: linked, ids)
    | some specifier => do
      let id ← resolveSpecifierBy locate specifier moduleId
      let (linked, ids) ← resolveAll locate moduleId rest (Factory.addId id ids)
      return (s.setTarget id :: linked, ids)

/-- The linked form of a module and the ids of the modules it names. -/
def link (locate : Locate) (moduleId : String) (body : List Statement) :
    Except ModuleFault (List Statement × List String) :=
  if body.all isParsable then resolveAll locate moduleId body [] else .error (.unparsable moduleId)

/-! ## Names -/

/-- A name that a statement binds once and for all. -/
inductive Binding where
  | constant (name : String)
  /-- One of the names that are bound together to members. -/
  | element (name : String)
  deriving Repr

/-- The name that is bound. -/
def Binding.name : Binding → String
  | .constant name | .element name => name

/-- The names a statement binds once and for all. -/
def constants : Statement → List Binding
  | .bind _ bindings => (bindings.defaultName.toList ++ bindings.objectName.toList).map .constant
      ++ (bindings.names.getD []).map fun p => .element p.2
  | .constant name _ _ => [.constant name]
  | _ => []

/-- The function a statement declares; functions can be used before their declaration. -/
def function? : Statement → Option String
  | .exportFunction name _ => some name
  | _ => none

/-- Why a name cannot be bound, if it cannot. -/
def Binding.fault? : Binding → Option String
  | .constant name =>
    if Name.keptWords.contains name then some "variable name expected"
    else if Name.ownMeanings.contains name then some "invalid variable name in strict mode"
    else if name = "undefined" then some "invalid lexical variable name"
    else none
  | .element name =>
    if Name.keptWords.contains name || Name.ownMeanings.contains name then
      some "invalid destructuring target"
    else if name = "undefined" then some "invalid lexical variable name"
    else none

/-- Why a function cannot have a name, if it cannot. -/
def functionFault? (name : String) : Option String :=
  if Name.keptWords.contains name then some "function name expected"
  else if Name.ownMeanings.contains name then some "invalid function name in strict code"
  else none

/-- The error of a module that does not compile. -/
def syntaxError (message : String) : Thrown := ⟨"SyntaxError", message⟩

/-- Declares constants that must be new. -/
def declareConstants (functions : List String) :
    List String → List Binding → Except Thrown (List String)
  | constants, [] => .ok constants
  | constants, binding :: rest =>
    let name := binding.name
    match binding.fault? with
    | some fault => .error (syntaxError fault)
    | none =>
      if constants.contains name then
        .error (syntaxError "invalid redefinition of lexical identifier")
      else if name == Factory.requireName || name == Factory.exportsName then
        .error (syntaxError "invalid redefinition of parameter name")
      else if functions.contains name then
        .error (syntaxError "invalid redefinition of a variable")
      else declareConstants functions (name :: constants) rest

/-- Declares a function, whose name no constant may have. -/
def declareFunction (constants functions : List String) (name : String) :
    Except Thrown (List String) :=
  match functionFault? name with
  | some fault => .error (syntaxError fault)
  | none =>
    if constants.contains name then
      .error (syntaxError "invalid redefinition of lexical identifier")
    else .ok (name :: functions)

/-- Compiles a module: no name may be declared twice, but for functions. -/
def compile (constants functions : List String) : List Statement → Except Thrown Unit
  | [] => .ok ()
  | s :: rest => do
    let constants ← declareConstants functions constants s.constants
    match s.function? with
    | none => compile constants functions rest
    | some name => compile constants (← declareFunction constants functions name) rest

end Statement

end ScriptLint

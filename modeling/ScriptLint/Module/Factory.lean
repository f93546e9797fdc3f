/-
Modules as factories, the bodies of functions of `__require` and `__exports`. Imports become calls
of the first and exports assignments to the second; everything between these statements stays as
it is. The ids of the required modules are listed in the order in which they are first named.
-/
import ScriptLint.Failure
import ScriptLint.Json.Writer
import ScriptLint.Module.Resolve
import ScriptLint.Text.Blank
import ScriptLint.Tree.Basic

namespace ScriptLint

/-- A module's text and its tree. -/
structure ModuleText where
  source : Bytes
  root : Node
  hasErrors : Bool
  deriving Inhabited

/-- A module as the body of a function, and the ids of the modules it requires. -/
structure Factory where
  body : String
  dependencies : List String
  deriving DecidableEq, Repr

namespace Factory

/-- The function that gives the exports of another module. -/
def requireName : String := "__require"

/-- The object that takes the exports of the module. -/
def exportsName : String := "__exports"

/-- The replacement of a piece of the source. -/
structure Edit where
  span : Span
  text : String
  deriving DecidableEq, Repr

/-- Replaces pieces of a source from the last to the first, so that the offsets of the earlier ones
stay right. -/
def applyEdits (source : Bytes) (edits : List Edit) : Bytes :=
  edits.foldr (fun e out => out.take e.span.lo ++ Utf8.encode e.text ++ out.drop e.span.hi) source

/-! ## Names -/

/-- A text without its first and last character. -/
def unquote (s : String) : String := String.ofList (s.toList.drop 1).dropLast

/-- A part of a node that the grammar promises. -/
def part (n : Node) (field : String) : Except ModuleFault Node :=
  match n.child? field with
  | some c => .ok c
  | none => .error .missingPart

/-- The names in a list of specifiers of one kind, each with the name it has on the other side. The
first name of a pair may be quoted; the second is taken as it is written. -/
def pairs (source : Bytes) (clause : Node) (kind : String) :
    Except ModuleFault (List (String × String)) :=
  (clause.namedChildren.filter fun c => c.kind == kind).mapM fun spec => do
    let name ← part spec "name"
    let text := if name.kind == "string" then unquote (name.text source) else name.text source
    return (text, ((spec.child? "alias").map (Node.text source)).getD text)

/-- The names that a declaration binds. Only plain names can be exported. -/
def declaredNames (source : Bytes) (declaration : Node) : Except ModuleFault (List String) :=
  if declaration.kind == "lexical_declaration" || declaration.kind == "variable_declaration" then
    (declaration.namedChildren.filter fun c => c.kind == "variable_declarator").mapM
      fun declarator =>
        match (declarator.child? "name").filter fun n => n.kind == "identifier" with
        | some name => .ok (name.text source)
        | none => .error (.unsupportedBinding (declarator.text source))
  else .ok (((declaration.child? "name").map (Node.text source)).toList)

/-! ## Statements -/

/-- The first child of a kind that is no punctuation. -/
def namedOfKind? (n : Node) (kind : String) : Option Node :=
  n.namedChildren.find? fun c => c.kind == kind

/-- A call that requires a module. -/
def requireCall (id : String) : String := requireName ++ "(" ++ Json.quote id ++ ")"

/-- An assignment to a member of the exports that is given by a quoted name. -/
def assignExport (name value : String) : String :=
  exportsName ++ "[" ++ Json.quote name ++ "] = " ++ value ++ ";"

/-- Statements on one line. -/
def inLine (statements : List String) : String := " ".intercalate statements

/-- What a part of an import clause binds. -/
def importBinding (source : Bytes) (call : String) (n : Node) :
    Except ModuleFault (List String) :=
  if n.kind == "identifier" then
    .ok ["const " ++ n.text source ++ " = " ++ call ++ ".default;"]
  else if n.kind == "namespace_import" then
    match namedOfKind? n "identifier" with
    | some name => .ok ["const " ++ name.text source ++ " = " ++ call ++ ";"]
    | none => .error .noIdentifier
  else if n.kind == "named_imports" then do
    let names ← pairs source n "import_specifier"
    let bindings := ", ".intercalate (names.map fun p => Json.quote p.1 ++ ": " ++ p.2)
    return ["const \x7b " ++ bindings ++ " \x7d = " ++ call ++ ";"]
  else .ok []

/-- The replacement of an import statement that requires the module `id`. -/
def importText (source : Bytes) (n : Node) (id : String) : Except ModuleFault String := do
  let call := requireCall id
  match namedOfKind? n "import_clause" with
  | none => return call ++ ";"
  | some clause =>
    let bindings ← clause.namedChildren.mapM (importBinding source call)
    return inLine bindings.flatten

/-- The replacement of an exported declaration. -/
def declarationText (source : Bytes) (isDefault : Bool) (declaration : Node) :
    Except ModuleFault String := do
  let names ← declaredNames source declaration
  let text := declaration.text source
  match isDefault, names with
  | true, [] => return exportsName ++ ".default = (" ++ text ++ ");"
  | true, name :: _ => return text ++ "\n" ++ exportsName ++ ".default = " ++ name ++ ";"
  | false, names =>
    return text ++ "\n" ++
      inLine (names.map fun name => exportsName ++ "." ++ name ++ " = " ++ name ++ ";")

/-- The name under which a whole module is exported again. -/
def namespaceAlias (source : Bytes) (n : Node) : Except ModuleFault String :=
  match n.namedChildren.getLast? with
  | none => .error .emptyNames
  | some name =>
    .ok (String.ofList (Text.trimBy (fun c => c = '\'' || c = '"') (name.text source).toList))

/-- Copies every export of a module but its default. -/
def copyAll (call : String) : String :=
  "(function (m) \x7b for (const k of Object.keys(m)) \x7b if (k !== \"default\") " ++ exportsName
    ++ "[k] = m[k]; \x7d \x7d)(" ++ call ++ ");"

/-- The replacement of an export statement that takes its names from the module `id`. -/
def reexportText (source : Bytes) (n : Node) (id : String) : Except ModuleFault String := do
  let call := requireCall id
  match namedOfKind? n "export_clause", namedOfKind? n "namespace_export" with
  | some clause, _ =>
    let names ← pairs source clause "export_specifier"
    return inLine (names.map fun p => assignExport p.2 (call ++ "[" ++ Json.quote p.1 ++ "]"))
  | none, some namespaceNode =>
    return assignExport (← namespaceAlias source namespaceNode) call
  | none, none => return copyAll call

/-- The replacement of an export statement without a module. -/
def exportText (source : Bytes) (n : Node) : Except ModuleFault String := do
  match namedOfKind? n "export_clause" with
  | some clause =>
    let names ← pairs source clause "export_specifier"
    return inLine (names.map fun p => assignExport p.2 p.1)
  | none => .error (.unsupportedExport (n.text source))

/-- Adds an id to a list that does not have it. -/
def addId (id : String) (ids : List String) : List String :=
  if ids.contains id then ids else ids ++ [id]

/-- The id of the module named by the specifier node. -/
def specifierId (source : Bytes) (moduleId : String) (specifier : Node) :
    Except ModuleFault String :=
  resolveSpecifier (unquote (specifier.text source)) moduleId

/-- The replacement of a top-level statement, if it is an import or an export, and the module it
requires, if there is one. -/
def statement (source : Bytes) (moduleId : String) (n : Node) :
    Except ModuleFault (Option (String × Option String)) := do
  if n.kind == "import_statement" then
    let id ← specifierId source moduleId (← part n "source")
    return some (← importText source n id, some id)
  else if n.kind == "export_statement" then
    let isDefault := n.children.any fun c => c.kind == "default"
    match n.child? "declaration", n.child? "value", n.child? "source" with
    | some declaration, _, _ => return some (← declarationText source isDefault declaration, none)
    | none, some value, _ =>
      return some (exportsName ++ ".default = (" ++ value.text source ++ ");", none)
    | none, none, some specifier =>
      let id ← specifierId source moduleId specifier
      return some (← reexportText source n id, some id)
    | none, none, none => return some (← exportText source n, none)
  else return none

/-- The replacements of the import and export statements of a list, and the modules required. -/
def statements (source : Bytes) (moduleId : String) :
    List Node → List Edit → List String → Except ModuleFault (List Edit × List String)
  | [], edits, ids => .ok (edits, ids)
  | n :: rest, edits, ids => do
    match ← statement source moduleId n with
    | none => statements source moduleId rest edits ids
    | some (text, required) =>
      let ids := match required with
        | some id => addId id ids
        | none => ids
      statements source moduleId rest (edits ++ [⟨n.span, text⟩]) ids

end Factory

/-- The factory of a module. -/
def ModuleText.toFactory (moduleId : String) (m : ModuleText) : Except ModuleFault Factory := do
  if m.hasErrors then .error (.unparsable moduleId)
  else
    let (edits, ids) ← Factory.statements m.source moduleId m.root.namedChildren [] []
    return { body := Utf8.decodeLossy (Factory.applyEdits m.source edits), dependencies := ids }

/-- The script that defines a module in the table of modules by its factory. -/
def defineScript (table moduleId body : String) : String :=
  table ++ ".define(" ++ Json.quote moduleId ++ ", function (" ++ Factory.requireName ++ ", "
    ++ Factory.exportsName ++ ") \x7b\n\"use strict\";\n" ++ body ++ "\n\x7d);"

end ScriptLint

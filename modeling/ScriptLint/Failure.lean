/-
Everything that can go wrong, as causes. `Failure.kind` and `Failure.message` are the only places
that word them.
-/
import ScriptLint.Files.Fault
import ScriptLint.Finding.Violation
import ScriptLint.Json.Display

namespace ScriptLint

/-- The payloads of the host operations. -/
inductive PayloadSchema where
  | addDiagnostics
  | ruleCode
  | controlFlowQuery
  deriving DecidableEq, Repr

/-- The name of a schema in messages. -/
def PayloadSchema.name : PayloadSchema → String
  | .addDiagnostics => "AddDiagnosticsPayload"
  | .ruleCode => "RuleCodePayload"
  | .controlFlowQuery => "ControlFlowQueryPayload"

/-- How a call of a host operation can break the protocol. -/
inductive ProtocolFault where
  /-- No operation has this name. -/
  | unknownOperation (name : Json)
  /-- The payload is no text. -/
  | notText (schema : PayloadSchema) (payload : Json)
  /-- The payload does not have the shape of its schema. -/
  | invalid (schema : PayloadSchema) (violations : List Violation)
  deriving Repr

/-- Why a module specifier that looks like a URL has no host name. -/
inductive HostFault where
  /-- Only one of two brackets, or something beside the brackets. -/
  | unbalanced
  /-- The text in brackets is no address. -/
  | noAddress (text : String)
  /-- An address of four parts needs no brackets. -/
  | bracketedV4
  /-- The text in brackets starts like a future address and is none. -/
  | futureAddress
  /-- A character whose compatibility form is a delimiter. -/
  | hiddenDelimiter (netloc : String)
  deriving DecidableEq, Repr

/-- Why a module cannot be named, read or prepared. -/
inductive ModuleFault where
  | emptySpecifier (referrer : String)
  | unsupportedScheme (scheme specifier : String)
  | badHost (fault : HostFault)
  | nulInPath
  /-- The path ends in a loop of links. -/
  | linkLoop (path : String)
  | unreadable (id : String) (why : ReadFault)
  | unparsable (id : String)
  | unsupportedBinding (text : String)
  | unsupportedExport (text : String)
  /-- A list of names that should have one and is empty. -/
  | emptyNames
  /-- A part that the grammar promises is not there. -/
  | missingPart
  /-- A name that the grammar promises is not there. -/
  | noIdentifier
  deriving DecidableEq, Repr

/-- An error thrown by a script. -/
structure Thrown where
  name : String
  message : String
  deriving DecidableEq, Inhabited, Repr

/-- The text before the first NUL, where a text ends that leaves a script as it is. -/
def textToNul (s : String) : String := String.ofList (s.toList.takeWhile (· ≠ Char.ofNat 0))

/-- The text of a thrown error that has left its script. -/
def Thrown.text (t : Thrown) : String :=
  textToNul (if t.name.isEmpty then t.message
    else if t.message.isEmpty then t.name
    else t.name ++ ": " ++ t.message)

/-- Why an octal escape has no character. -/
inductive OctalFault where
  /-- No character has this number. -/
  | noCharacter
  /-- The number is too large for a machine integer. -/
  | tooLarge
  deriving DecidableEq, Repr

/-- A failure, by its cause. -/
inductive Failure where
  | protocol (fault : ProtocolFault)
  | missingControlFlow
  | module (fault : ModuleFault)
  /-- An error that escaped the script `place`. -/
  | uncaught (place : String) (error : Thrown)
  | duplicateRule (code owner : String)
  | validation (violations : List Violation)
  | octal (fault : OctalFault)
  /-- A failure known by its kind and message only. -/
  | reported (kind message : String)
  /-- The failure of a host call that left its script as an error. -/
  | escaped (f : Failure)
  deriving Repr

/-! ## Wording -/

def ProtocolFault.message : ProtocolFault → String
  | .unknownOperation name => "Unknown host operation " ++ name.display
  | .notText schema payload => schema.name ++ ": expected JSON text, got " ++ payload.typeWord
  | .invalid schema violations =>
    schema.name ++ ": " ++ toString violations.length ++ " invalid field(s)"

def HostFault.message : HostFault → String
  | .unbalanced => "Invalid IPv6 URL"
  | .noAddress text => Text.quoted text ++ " does not appear to be an IPv4 or IPv6 address"
  | .bracketedV4 => "An IPv4 address cannot be in brackets"
  | .futureAddress => "IPvFuture address is invalid"
  | .hiddenDelimiter netloc =>
    "netloc '" ++ netloc ++ "' contains invalid characters under NFKC normalization"

def ModuleFault.message : ModuleFault → String
  | .emptySpecifier referrer => "Empty module specifier imported from " ++ referrer
  | .unsupportedScheme scheme specifier =>
    "Unsupported module scheme " ++ Text.quoted scheme ++ " in " ++ Text.quoted specifier
  | .badHost fault => fault.message
  | .nulInPath => "embedded null byte"
  | .linkLoop path => "Symlink loop from " ++ Text.quoted path
  | .unreadable id why => "Failed to load module " ++ id ++ ": " ++ why.message
  | .unparsable id => "Syntax error in module " ++ id
  | .unsupportedBinding text =>
    "Unsupported export binding " ++ Text.quoted text
      ++ ": only plain identifiers can be exported"
  | .unsupportedExport text => "Unsupported export statement " ++ Text.quoted text
  | .emptyNames => "list index out of range"
  | .missingPart => "'NoneType' object has no attribute 'start_byte'"
  | .noIdentifier => ""

/-- The class of error that a module fault is reported as. -/
def ModuleFault.kind : ModuleFault → String
  | .emptySpecifier _ | .unsupportedScheme _ _ | .unreadable _ _ => "PluginIOError"
  | .unparsable _ | .unsupportedBinding _ | .unsupportedExport _ => "ScriptFault"
  | .badHost _ | .nulInPath => "ValueError"
  | .linkLoop _ => "RuntimeError"
  | .emptyNames => "IndexError"
  | .missingPart => "AttributeError"
  | .noIdentifier => "StopIteration"

def OctalFault.message : OctalFault → String
  | .noCharacter => "chr() arg not in range(0x110000)"
  | .tooLarge => "Python int too large to convert to C int"

/-- The text before the first line feed. -/
def firstTextLine (s : String) : String := String.ofList (s.toList.takeWhile (· ≠ '\n'))

namespace Failure

/-- The class of error that a failure is reported as. -/
def kind : Failure → String
  | .protocol _ => "ProtocolError"
  | .missingControlFlow => "MissingContextError"
  | .module fault => fault.kind
  | .uncaught _ _ => "ScriptFault"
  | .duplicateRule _ _ => "DuplicateRuleError"
  | .validation _ => "ValidationError"
  | .octal .noCharacter => "ValueError"
  | .octal .tooLarge => "OverflowError"
  | .reported kind _ => kind
  | .escaped f => f.kind

/-- The sentence for a failure. Of an error thrown by a script only the first line is kept. -/
def message : Failure → String
  | .protocol fault => fault.message
  | .missingControlFlow => "ControlFlow is not set"
  | .module fault => fault.message
  | .uncaught place error => "Uncaught exception in " ++ place ++ ": " ++ firstTextLine error.text
  | .duplicateRule code owner =>
    "Rule code " ++ Text.quoted code ++ " is already registered by " ++ owner
  | .validation _ => ""
  | .octal fault => fault.message
  | .reported _ message => message
  | .escaped f => f.message

/-- The fields that are not as their schema asks. Those of a payload are no longer known once the
failure has escaped its script. -/
def violations : Failure → List Violation
  | .protocol (.invalid _ violations) => violations
  | .validation violations => violations
  | .escaped (.validation violations) => violations
  | _ => []

/-- The classes of error that the engine raises on purpose. -/
def engineKinds : List String :=
  ["LintError", "ProtocolError", "MissingContextError", "PluginIOError", "ScriptFault",
   "DuplicateRuleError"]

/-- Whether the engine raises the failure on purpose; such failures are recorded and the work goes
on, all others end it. -/
def isEngineFault (f : Failure) : Bool := engineKinds.contains f.kind

/-- Whether the failure is a breach of the protocol. -/
def isProtocolFault (f : Failure) : Bool := f.kind == "ProtocolError"

end Failure

end ScriptLint

/-
Reading the arguments of the command line. Options may stand before and after the target; the value
of an option follows it, after `=` for a long option or without a break for a short one; after `--`
everything is a target.
-/

namespace ScriptLint.Cli

/-- What to lint, and how. -/
structure LintOptions where
  target : String
  plugins : List String
  rules : List String
  verbose : Bool
  deriving DecidableEq, Repr

/-- What the command line asks for. -/
inductive Command where
  | lint (options : LintOptions)
  /-- List the built-in rules. -/
  | rules
  /-- Explain the usage. -/
  | help
  deriving DecidableEq, Repr

/-! ## Options -/

/-- An option of the lint command. -/
inductive Flag where
  | plugin
  | rule
  | verbose
  | help
  deriving DecidableEq, Repr

/-- Whether a value follows an option. -/
def Flag.takesValue : Flag → Bool
  | .plugin | .rule => true
  | .verbose | .help => false

/-- The options with long names that a command has. -/
def longFlag? : String → Option Flag
  | "--plugin" => some .plugin
  | "--rule" => some .rule
  | "--verbose" => some .verbose
  | "--help" => some .help
  | _ => none

/-- The options with short names. -/
def shortFlag? : Char → Option Flag
  | 'p' => some .plugin
  | 'r' => some .rule
  | 'v' => some .verbose
  | _ => none

/-- Options with their values and targets, in the order of the command line. -/
structure Parsed where
  flags : List (Flag × String)
  targets : List String
  deriving Repr

namespace Parsed

def empty : Parsed := ⟨[], []⟩

def addFlag (p : Parsed) (f : Flag) (value : String) : Parsed :=
  { p with flags := p.flags ++ [(f, value)] }

def addTargets (p : Parsed) (targets : List String) : Parsed :=
  { p with targets := p.targets ++ targets }

/-- The values of an option. -/
def values (p : Parsed) (f : Flag) : List String :=
  (p.flags.filter fun e => e.1 == f).map (·.2)

def has (p : Parsed) (f : Flag) : Bool := p.flags.any fun e => e.1 == f

end Parsed

/-- A name and the text after its first `=`. -/
def splitValue (arg : List Char) : List Char × Option (List Char) :=
  let name := arg.takeWhile (· ≠ '=')
  match arg.drop name.length with
  | [] => (name, none)
  | _ :: value => (name, some value)

/-- The short options after one dash. A value is what is left of the argument, or else the next
argument; the answer tells whether that is used. `none` for an unknown option or a missing value. -/
def shortFlags (p : Parsed) (next : Option String) : List Char → Option (Parsed × Bool)
  | [] => some (p, false)
  | c :: rest =>
    match shortFlag? c with
    | none => none
    | some f =>
      if f.takesValue then
        match rest, next with
        | _ :: _, _ => some (p.addFlag f (String.ofList rest), false)
        | [], some value => some (p.addFlag f value, true)
        | [], none => none
      else shortFlags (p.addFlag f "") next rest

/-- One option; the answer tells whether the next argument is its value. -/
def oneFlag (p : Parsed) (arg : String) (next : Option String) : Option (Parsed × Bool) :=
  let (name, value) := splitValue arg.toList
  match longFlag? (String.ofList name), value with
  | some f, some value =>
    if f.takesValue then some (p.addFlag f (String.ofList value), false) else none
  | some f, none =>
    if f.takesValue then next.map fun v => (p.addFlag f v, true) else some (p.addFlag f "", false)
  | none, _ =>
    if arg.startsWith "--" then none else shortFlags p next (arg.toList.drop 1)

/-- The options and targets of arguments. `skip` tells that the first argument has been used as a
value. -/
def parseFrom (p : Parsed) : (skip : Bool) → List String → Option Parsed
  | _, [] => some p
  | true, _ :: rest => parseFrom p false rest
  | false, arg :: rest =>
    if arg = "--" then some (p.addTargets rest)
    else if arg.startsWith "-" && arg.length > 1 then
      match oneFlag p arg rest.head? with
      | none => none
      | some (p, used) => parseFrom p used rest
    else parseFrom (p.addTargets [arg]) false rest

/-! ## Commands -/

/-- The lint command of arguments; `none` if they are not understood. -/
def lintCommand (args : List String) : Option Command := do
  let p ← parseFrom .empty false args
  if p.has .help then return .help
  match p.targets with
  | [target] =>
    return .lint { target := target, plugins := p.values .plugin, rules := p.values .rule
                   verbose := p.has .verbose }
  | _ => none

/-- The rules command of arguments; it takes nothing but `--help`. -/
def rulesCommand (args : List String) : Option Command :=
  match args with
  | [] | ["--"] => some .rules
  | _ => if args.all (· == "--help") then some .help else none

/-- The command of arguments; `none` if they are not understood. -/
def command? : List String → Option Command
  | "--help" :: _ => some .help
  | "--" :: name :: args | name :: args =>
    match name with
    | "lint" => lintCommand args
    | "rules" => rulesCommand args
    | _ => none
  | [] => none

end ScriptLint.Cli

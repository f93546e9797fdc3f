/-
Reading scripts from files. A file that cannot be read is passed over with a notice; one that does
not parse is linted all the same.
-/
import ScriptLint.Files.Tree
import ScriptLint.Lint.Notice
import ScriptLint.Plugin.Statement

namespace ScriptLint

/-- The content of a file: the text of a script with its tree, or a plugin module. -/
inductive StoredFile where
  | script (text : ModuleText)
  | plugin (body : List Statement)

namespace StoredFile

/-- The script in a file; of a plugin module only the statements are known. -/
def text : StoredFile → ModuleText
  | .script text => text
  | .plugin _ => { source := [], root := .emptyProgram, hasErrors := false }

/-- The statements of the module in a file. A script that parses has no exports. -/
def statements : StoredFile → List Statement
  | .plugin body => body
  | .script text => if text.hasErrors then [.unparsable] else []

end StoredFile

/-- The notice about a text that does not parse. -/
def ModuleText.notices (m : ModuleText) : List Notice :=
  if m.hasErrors then [.parseErrors m.root.kind] else []

/-- The script of a program. -/
def Program.ofText (path : String) (m : ModuleText) : Program :=
  { path := path, source := m.source, root := m.root, hasErrors := m.hasErrors }

/-- Parses the file at a path: whether its tree has errors. -/
def parseFile (root : FileTree StoredFile) (path : String) : Option Bool × List Notice :=
  match root.read path with
  | .error fault => (none, [.unreadable path fault])
  | .ok file => (some file.text.hasErrors, file.text.notices)

/-- Reads the program at a path. -/
def loadProgram (root : FileTree StoredFile) (path : String) : Option Program × List Notice :=
  match root.read path with
  | .error fault => (none, [.unreadable path fault])
  | .ok file =>
    let about := if file.text.hasErrors then [Notice.syntaxErrors path] else []
    (some (.ofText path file.text), file.text.notices ++ about)

/-- Reads the programs at paths; those that cannot be read are left out. -/
def loadPrograms (root : FileTree StoredFile) (paths : List String) :
    List Program × List Notice :=
  let loaded := paths.map (loadProgram root)
  (loaded.filterMap (·.1), loaded.flatMap (·.2))

/-- Lints the file at a path. -/
def lintFile {π : Type} [PluginKind π] (r : Registry π) (root : FileTree StoredFile)
    (path : String) : Except Failure (Option LintResult) × Registry π × List Notice :=
  match loadProgram root path with
  | (none, notices) => (.ok none, r, notices)
  | (some program, notices) =>
    match r.lint program none with
    | (.error f, r) => (.error f, r, notices)
    | (.ok result, r) => (.ok (some result), r, notices ++ result.notices)

/-- The text of the module at a path, every line ended by a line feed. Paths cannot hold a NUL. -/
def loadSource (root : FileTree StoredFile) (path : String) : Except ModuleFault String :=
  if path.contains (Char.ofNat 0) then .error .nulInPath
  else
    match root.read path with
    | .error fault => .error (.unreadable path (.closed fault path))
    | .ok file =>
      match Utf8.decode file.text.source with
      | .error fault => .error (.unreadable path (.badText fault))
      | .ok text => .ok (String.ofList (Text.unifyNewlines text.toList))

end ScriptLint

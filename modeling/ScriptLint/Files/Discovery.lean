/-
Finding the scripts below a directory: every regular file whose name has a script's suffix, outside
of directories with ignored names, in the order of the paths by their components.
-/
import ScriptLint.Files.Tree

namespace ScriptLint

namespace Discovery

/-- The suffixes of scripts. -/
def suffixes : List String := [".js", ".mjs", ".cjs", ".jsx"]

/-- Whether a path has a script's suffix, in either case. -/
def isScript (path : String) : Bool :=
  suffixes.contains (String.ofList ((Path.suffix path.toList).map Char.toLower))

/-- The names of directories that are ignored unless other names are given. -/
def ignoredNames : List String :=
  ["build", "dist", "out", "coverage", "node_modules", "bower_components", "vendor",
   "third_party", ".git", ".svn", ".hg", ".vscode", ".idea", ".cache", ".next", "__pycache__"]

/-- Whether the last name of a path is among the ignored ones. -/
def isIgnored (ignored : List String) (path : String) : Bool :=
  ignored.contains (String.ofList (Path.name path.toList))

/-- What to look for. -/
structure Search where
  ignored : List String
  /-- Whether symbolic links are followed. -/
  follow : Bool
  /-- Which names are wanted. -/
  wanted : String → Bool
  /-- Which paths are wanted, by the names along them. -/
  accepts : List String → Bool := fun _ => true

/-- The search for all scripts. -/
def Search.default : Search := { ignored := ignoredNames, follow := false, wanted := fun _ => true }

/-- Whether a file is collected that is shown under a name in a directory. -/
def Search.collects (s : Search) (shown : List String) (name : String) : Bool :=
  isScript name && s.wanted name && s.accepts (shown ++ [name])

/-- Why a directory cannot be searched. -/
inductive Fault where
  | missing (path : String)
  | notDirectory (path : String)
  | linkLoop (path : String)
  deriving DecidableEq, Repr

/-- The class of error that a fault is reported as. -/
def Fault.kind : Fault → String
  | .missing _ => "FileNotFoundError"
  | .notDirectory _ => "NotADirectoryError"
  | .linkLoop _ => "RuntimeError"

def Fault.message : Fault → String
  | .missing path => "Root directory does not exist: " ++ path
  | .notDirectory path => "Root path is not a directory: " ++ path
  | .linkLoop path => "Symlink loop from " ++ Text.quoted path

/-! ## Collecting -/

variable {α : Type}

mutual

/-- The paths of the wanted files at and below something with a name. `dir` is where it is, `shown`
the path that the directory is shown under; `viaLink` tells what a link contributes. -/
def collectAt (s : Search) (viaLink : List String → List String → String → List (List String))
    (dir shown : List String) (name : String) : FileTree α → List (List String)
  | .file _ => if s.collects shown name then [shown ++ [name]] else []
  | .directory entries =>
    if s.ignored.contains name then []
    else collect s viaLink (dir ++ [name]) (shown ++ [name]) entries
  | .link _ => viaLink dir shown name
termination_by structural t => t

/-- The paths of the wanted files among entries and below them. -/
def collect (s : Search) (viaLink : List String → List String → String → List (List String))
    (dir shown : List String) : List (String × FileTree α) → List (List String)
  | [] => []
  | (name, t) :: rest =>
    collectAt s viaLink dir shown name t ++ collect s viaLink dir shown rest
termination_by structural entries => entries

end

/-- What a link contributes when links are followed: what it leads to counts as if it stood there.
Every link takes from the links that its path may lead through. -/
def throughLink (s : Search) (root : FileTree α) :
    (depth links : Nat) → List String → List String → String → List (List String)
  | 0, _, _, _, _ => []
  | depth + 1, links, dir, shown, name =>
    match root.follow links dir [name] with
    | .error _ => []
    | .ok (place, left) =>
      match root.at? place with
      | some (.file _) => if s.collects shown name then [shown ++ [name]] else []
      | some (.directory entries) =>
        if s.ignored.contains name then []
        else collect s (throughLink s root depth left) place (shown ++ [name]) entries
      | _ => []

/-! ## Order -/

/-- The order of paths by their components. -/
def componentsLe : List String → List String → Bool
  | [], _ => true
  | _ :: _, [] => false
  | a :: as, b :: bs => if a < b then true else if b < a then false else componentsLe as bs

/-- The scripts below a directory. -/
def find (s : Search) (root : FileTree α) (start : String) : Except Fault (List String) :=
  match root.realPath (Path.names start) with
  | .error loop => .error (.linkLoop (Path.ofNames loop))
  | .ok shown =>
    match root.locate shown with
    | .error _ => .error (.missing (Path.ofNames shown))
    | .ok (place, .directory entries) =>
      let viaLink := if s.follow then throughLink s root FileTree.maxLinks FileTree.maxLinks
        else fun _ _ _ => []
      .ok (((collect s viaLink place shown entries).mergeSort componentsLe).map Path.ofNames)
    | .ok _ => .error (.notDirectory (Path.ofNames shown))

end Discovery

end ScriptLint

/-
The files that a run works on, in JSON: scripts with their trees, plugin modules with their
statements, directories and symbolic links, all by their paths below a base directory.
-/
import ScriptLint.Lint.Load
import ScriptLint.Module.Link
import ScriptLint.Module.Reader
import ScriptLint.Plugin.Reader

namespace ScriptLint

namespace FileTree

variable {α : Type}

/-- The files of entries that are reached without a link, with their paths below a directory. -/
def filesOf (dir : List String) : List (String × FileTree α) → List (List String × α)
  | [] => []
  | (name, .file content) :: rest => (dir ++ [name], content) :: filesOf dir rest
  | (name, .directory entries) :: rest => filesOf (dir ++ [name]) entries ++ filesOf dir rest
  | (_, .link _) :: rest => filesOf dir rest

/-- The files of a tree with their paths. -/
def files (t : FileTree α) : List (List String × α) := filesOf [] t.entries

end FileTree

namespace Workspace

/-- The tree in which nothing but the root directory and `/etc` is there. -/
def bare : FileTree StoredFile := .directory [("etc", .directory [])]

/-- Puts things below a base directory. -/
def place (base : List String) (things : List (String × FileTree StoredFile))
    (t : FileTree StoredFile) : FileTree StoredFile :=
  things.foldl (fun t thing => t.insert thing.2 (base ++ Path.names thing.1)) t

/-- The members of an object of things by their paths. -/
def things (j : Json) (key : String) (read : Json → Option (FileTree StoredFile)) :
    Option (List (String × FileTree StoredFile)) :=
  ((j.get? key).getD .null).members.mapM fun m => do return (m.1, ← read m.2)

/-- The tree of a workspace below a base directory. -/
def ofJson? (base : String) (j : Json) : Option (FileTree StoredFile) := do
  let scripts ← things j "files" fun f => (ModuleText.ofJson? f).map fun m => .file (.script m)
  let plugins ← things j "plugins" fun p =>
    (Statement.moduleOfJson? p).map fun body => .file (.plugin body)
  let links ← things j "links" fun l => l.str?.map .link
  let directories ← ((j.get? "dirs").getD .null).items.mapM Json.str?
  let start := Path.names base
  let withDirectories := directories.foldl
    (fun t (d : String) => t.makeDirectory (start ++ Path.names d)) (bare.makeDirectory start)
  return place start links (place start plugins (place start scripts withDirectories))

/-- Why the text of a module cannot be read. -/
def readFault (t : FileTree StoredFile) (id : String) : ReadFault :=
  match t.read id with
  | .error fault => .closed fault id
  | .ok file =>
    match Utf8.decode file.text.source with
    | .error fault => .badText fault
    | .ok _ => .closed .missing id

/-- Finds places in a tree, through its links. -/
def locate (t : FileTree StoredFile) : Locate := fun segs =>
  match t.realPath (segs.map String.ofList) with
  | .ok place => .ok (place.map String.toList)
  | .error loop => .error (.linkLoop (Path.ofNames loop))

/-- The modules in the files of a tree. -/
def library (t : FileTree StoredFile) : Library (List Statement) :=
  let readable := t.files.filter fun f => (Utf8.decode f.2.text.source).toOption.isSome
  { modules := readable.map fun f => (Path.ofNames f.1, f.2.statements)
    missing := readFault t
    locate := locate t }

end Workspace

end ScriptLint

/-
Directory trees with symbolic links, and following paths through them. A path is a list of names
from the root. Opening one resolves at most forty links; one more and it counts as a loop. The place
that a path leads to can be found through any number of them.
-/
import ScriptLint.Files.Fault
import ScriptLint.Json.Basic
import ScriptLint.Module.Path

namespace ScriptLint

/-- A file, a symbolic link, or a directory with named entries. -/
inductive FileTree (α : Type) where
  | file (content : α)
  | link (target : String)
  | directory (entries : List (String × FileTree α))

namespace FileTree

variable {α : Type}

/-- The entries of a directory, none for anything else. -/
def entries : FileTree α → List (String × FileTree α)
  | .directory entries => entries
  | _ => []

def isDirectory : FileTree α → Bool
  | .directory _ => true
  | _ => false

/-- What stands at the end of names, no link being followed. -/
def at? : FileTree α → List String → Option (FileTree α)
  | t, [] => some t
  | t, name :: rest => do (← Json.member? t.entries name).at? rest

/-- Puts something at the end of names; missing directories on the way are made. -/
def insert (t : FileTree α) (leaf : FileTree α) : List String → FileTree α
  | [] => leaf
  | name :: rest =>
    let below := ((Json.member? t.entries name).getD (.directory [])).insert leaf rest
    .directory (Json.setMember t.entries name below)

/-- Makes a directory unless something is there. -/
def makeDirectory (t : FileTree α) (path : List String) : FileTree α :=
  if (t.at? path).isSome then t else t.insert (.directory []) path

/-! ## Following paths -/

/-- How many links a path may lead through. -/
def maxLinks : Nat := 40

/-- Where names lead from a directory, through at most `links` links; with the number of links that
are left. -/
def follow (root : FileTree α) (links : Nat) (dir : List String) :
    List String → Except OpenFault (List String × Nat)
  | [] => .ok (dir, links)
  | name :: rest =>
    match root.at? dir with
    | some (.directory entries) =>
      if name = ".." then follow root links dir.dropLast rest
      else
        match Json.member? entries name with
        | none => .error .missing
        | some (.link target) =>
          match links with
          | 0 => .error .linkLoop
          | links + 1 =>
            follow root links (if target.startsWith "/" then [] else dir) (Path.names target ++ rest)
        | some _ => follow root links (dir ++ [name]) rest
    | _ => .error .notDirectory
termination_by names => (links, names.length)

/-- The number of links among entries and below them. -/
def linkCount : List (String × FileTree α) → Nat
  | [] => 0
  | (_, .link _) :: rest => linkCount rest + 1
  | (_, .directory entries) :: rest => linkCount entries + linkCount rest
  | (_, .file _) :: rest => linkCount rest

/-- Where names lead from a directory through any number of links; names that are not there stay as
they are. `entered` holds the links that are being followed: meeting one again is an error, and its
place with the names that are left comes back. Not more than `depth` links are followed inside of
each other; there are never more than the tree has. -/
def walk (root : FileTree α) (depth : Nat) (entered : List (List String)) (dir : List String) :
    List String → Except (List String) (List String)
  | [] => .ok dir
  | name :: rest =>
    if name = ".." then walk root depth entered dir.dropLast rest
    else
      let here := dir ++ [name]
      match root.at? here with
      | some (.link target) =>
        match depth with
        | 0 => .error (here ++ rest)
        | depth + 1 =>
          if entered.contains here then .error (here ++ rest)
          else
            let start := if target.startsWith "/" then [] else dir
            match walk root depth (here :: entered) start (Path.names target) with
            | .error stuck => .error (stuck ++ rest)
            | .ok place => walk root (depth + 1) entered place rest
      | _ => walk root depth entered here rest
termination_by names => (depth, names.length)

/-- The names of a path without `..`, each taking back the name before it. -/
def withoutParents (names : List String) : List String :=
  names.foldl (fun place name => if name = ".." then place.dropLast else place ++ [name]) []

/-- The place that names lead to, or the place where they end in a loop of links. -/
def realPath (root : FileTree α) (names : List String) : Except (List String) (List String) :=
  match root.walk (linkCount root.entries + 1) [] [] names with
  | .ok place => .ok place
  | .error stuck =>
    let place := withoutParents stuck
    match root.follow maxLinks [] place with
    | .error .linkLoop => .error place
    | _ => .ok place

/-- What names lead to, and its place. -/
def locate (root : FileTree α) (names : List String) :
    Except OpenFault (List String × FileTree α) := do
  let (place, _) ← root.follow maxLinks [] names
  match root.at? place with
  | some t => .ok (place, t)
  | none => .error .missing

/-- What a path leads to. -/
def find (root : FileTree α) (path : String) : Except OpenFault (FileTree α) :=
  (root.locate (Path.names path)).map (·.2)

/-- The content of the file a path leads to. -/
def read (root : FileTree α) (path : String) : Except OpenFault α := do
  match ← root.find path with
  | .file content => .ok content
  | _ => .error .isDirectory

end FileTree

end ScriptLint

/-
Paths by their segments. A path is written with slashes; empty segments and `.` say nothing, and
`..` takes back the segment before it, or nothing at the root. Relative paths start at the root.
-/
import ScriptLint.Text.Split

namespace ScriptLint.Path

/-- One part of a path between slashes. -/
abbrev Segment := List Char

/-- The segments of a path that say something. -/
def segments (path : List Char) : List Segment :=
  (Text.splitAt '/' path).filter fun s => !s.isEmpty && s != ['.']

/-- Follows the segments from a place, `..` going back. -/
def walk (place : List Segment) : List Segment → List Segment
  | [] => place
  | s :: rest => walk (if s = ['.', '.'] then place.dropLast else place ++ [s]) rest

/-- The place that segments lead to from the root. -/
def normalize (segs : List Segment) : List Segment := walk [] segs

/-- The path of a place. -/
def render (place : List Segment) : List Char := '/' :: Text.joinWith '/' place

/-- The segments of the directory that holds a path. -/
def parent (path : List Char) : List Segment := (segments path).dropLast

/-- Whether a path starts at the root whatever it is relative to. -/
def isAbsolute (path : List Char) : Bool := path.head? == some '/'

/-- A path as it is displayed: without `.` and empty segments, `.` if nothing is left. Two slashes
at the start stay two, any other number becomes one. -/
def display (path : String) : String :=
  let cs := path.toList
  let body := Text.joinWith '/' (segments cs)
  let slashes := (cs.takeWhile (· = '/')).length
  let start := if slashes = 0 then [] else if slashes = 2 then ['/', '/'] else ['/']
  if start.isEmpty && body.isEmpty then "." else String.ofList (start ++ body)

/-- The names along a path. -/
def names (path : String) : List String := (segments path.toList).map String.ofList

/-- The absolute path along names. -/
def ofNames (names : List String) : String :=
  String.ofList (render (names.map String.toList))

/-- The last segment of a path, empty if there is none. -/
def name (path : List Char) : Segment := (segments path).getLast?.getD []

/-- The ending of the last segment from its last point on; a point at either end of the name starts
none. -/
def suffix (path : List Char) : List Char :=
  let n := name path
  let ending := (n.reverse.takeWhile (· ≠ '.')).reverse
  if ending.length + 1 < n.length ∧ ending ≠ [] then '.' :: ending else []

/-- The absolute path that a path leads to, without `.`, `..` and empty segments. -/
def resolve (path : String) : String :=
  String.ofList (render (normalize (segments path.toList)))

end ScriptLint.Path

/-
The report that is printed for the results of a run: for every file its path, a table of its
findings, and its failures; then a summary. All of it is laid out for a terminal of some width.
-/
import ScriptLint.Lint.Pass
import ScriptLint.Module.Path
import ScriptLint.Report.Markup
import ScriptLint.Report.Wrap
import ScriptLint.Tree.Position

namespace ScriptLint.Console

/-- The sum of numbers. -/
def sumOf (ns : List Nat) : Nat := ns.foldl (· + ·) 0

/-! ## Panels -/

/-- Blanks up to a number of cells. -/
def blanks (n : Nat) : List Char := List.replicate n ' '

/-- A number of horizontal strokes. -/
def strokes (n : Nat) : List Char := List.replicate n '─'

/-- The upper edge of a panel, its title in the middle if there is room for it. -/
def titleEdge (width : Nat) (title : String) : List Char :=
  if width < 5 then ['╭'] ++ strokes (width - 2) ++ ['╮']
  else
    let shown := Wrap.truncate .fold (width - 4) ((' ' :: title.toList) ++ [' '])
    let free := width - 4 - Text.cells shown
    ['╭', '─'] ++ strokes (free / 2) ++ shown ++ strokes (free - free / 2) ++ ['─', '╮']

/-- The lines of a text that has two cells on both sides. -/
def inset (width : Nat) (text : List Char) : List (List Char) :=
  if width < 5 then [] else Wrap.lines .left .fold (width - 4) text

/-- A panel with round corners. -/
def panel (width : Nat) (title text : String) : List (List Char) :=
  let rows := (inset width text.toList).map fun line => ['│', ' '] ++ line ++ [' ', '│']
  ([titleEdge width title] ++ rows ++ [['╰'] ++ strokes (width - 2) ++ ['╯']]).map (·.take width)

/-- The heading of a file: its path between empty lines. -/
def heading (width : Nat) (path : String) : List (List Char) :=
  let text := Markup.plain ("[bold cyan]".toList ++ Markup.escape (Path.display path).toList
    ++ "[/bold cyan]".toList)
  let rows := (inset width text).map fun line => [' ', ' '] ++ line ++ [' ', ' ']
  [blanks width] ++ rows ++ [blanks width]

/-! ## Tables -/

/-- A column of a table; `room` counts the blank before and the blank after its texts. -/
structure Column where
  justify : Wrap.Justify
  room : Nat

/-- The lines of a cell. A column without room for a character between its blanks shows none. -/
def cellLines (column : Column) (text : String) : List (List Char) :=
  if column.room < 3 then []
  else
    (Wrap.lines column.justify .ellipsis (column.room - 2) text.toList).map fun line =>
      ' ' :: Wrap.fill (column.room - 2) line ++ [' ']

/-- The lines of a row, at least one: there is a blank before, between and after the cells. A line
of a cell is filled up once more, as blanks can be hidden by a joiner before them. -/
def row (columns : List Column) (texts : List String) : List (List Char) :=
  let cells := (columns.zip texts).map fun (column, text) => (column, cellLines column text)
  let height := (cells.map fun c => c.2.length).foldl max 1
  (List.range height).map fun i =>
    ' ' :: cells.flatMap fun (column, lines) => lines.getD i (blanks column.room) ++ [' ']

/-- How wide a text is that is not broken. -/
def textWidth (text : String) : Nat :=
  ((Text.splitLines (Wrap.sanitize text.toList)).map Text.cells).foldl max 0

/-- A quotient rounded to the nearest number, a half to the even one. -/
def roundedShare (n parts : Nat) : Nat :=
  let q := n / parts
  if 2 * (n % parts) < parts ∨ (2 * (n % parts) = parts ∧ q % 2 = 0) then q else q + 1

/-- Columns that give up some room together; each gives an even share of what is still to be given,
as far as it has room. -/
def narrowed (excess : Nat) : List Nat → List Nat
  | [] => []
  | room :: rest =>
    if room = 0 then 0 :: narrowed excess rest
    else
      let share := min room (roundedShare excess (1 + rest.countP (0 < ·)))
      (room - share) :: narrowed (excess - share) rest

/-- The room of the columns of a table of findings. The last is as wide as its texts need and the
terminal allows; where nothing is left for it, the others are narrowed. -/
def rooms (width needed : Nat) : List Nat :=
  let all := width - 5
  let fixed := [7, 6, 24].map (min all)
  let left := all - sumOf fixed
  narrowed (sumOf fixed - all) fixed ++ [min (needed + 2) left]

/-- The columns of a table of findings. -/
def columns (width : Nat) (messages : List String) : List Column :=
  let needed := (messages.map textWidth).foldl max "Message".length
  [Wrap.Justify.right, .right, .left, .left].zipWith Column.mk (rooms width needed)

/-- The table of the findings of a file. -/
def table (width : Nat) (source : Bytes) (findings : List Diagnostic) : List (List Char) :=
  let cols := columns width (findings.map (·.message))
  let total := sumOf (cols.map (·.room)) + 5
  let rows := findings.flatMap fun d =>
    let place := Position.ofOffset source d.span.lo
    row cols [toString place.line, toString place.column, "[" ++ d.code ++ "]", d.message]
  let lines := [blanks total] ++ row cols ["Line", "Col", "Rule", "Message"]
    ++ [' ' :: strokes (total - 2) ++ [' ']] ++ rows ++ [blanks total]
  if total ≤ width then lines else lines.map (·.take width)

/-! ## Report -/

/-- A line with a text in which tags are plain text. -/
def remark (width : Nat) (start text : String) : List (List Char) :=
  Wrap.lines .none .fold width
    (Markup.plain (start.toList ++ Markup.escape text.toList))

/-- The hint of a finding, if it has one. -/
def hint (width : Nat) (d : Diagnostic) : List (List Char) :=
  match d.hint with
  | none | some "" => []
  | some text => remark width "  [dim]Hint:[/dim] " ("[" ++ d.code ++ "] " ++ text)

/-- The failure of a plugin. -/
def failure (width : Nat) (f : Failure) : List (List Char) :=
  remark width "  [bold red]plugin failed:[/bold red] " (f.kind ++ ": " ++ f.message)

/-- The part of the report on one file. -/
def file (width : Nat) (verbose : Bool) (r : LintResult) : List (List Char) :=
  if r.findings.isEmpty && r.failures.isEmpty then []
  else
    [[]] ++ heading width r.path
      ++ (if r.findings.isEmpty then [] else table width r.source r.findings)
      ++ (if verbose then r.findings.flatMap (hint width) else [])
      ++ r.failures.flatMap fun f => failure width f.failure

/-- A number of things. -/
def counted (n : Nat) (thing : String) : String :=
  toString n ++ " " ++ thing ++ (if n = 1 then "" else "s")

/-- The lines of the report on the results of a run. A terminal without columns shows none. -/
def lines (width : Nat) (verbose : Bool) (results : List LintResult) : List (List Char) :=
  let total := sumOf (results.map (·.findings.length))
  let failed := sumOf (results.map (·.failures.length))
  if width = 0 then []
  else if total = 0 ∧ failed = 0 then panel width "lintbridge" "No problems found."
  else
    let parts := [counted total "problem"]
      ++ (if failed = 0 then [] else [counted failed "plugin failure"])
    results.flatMap (file width verbose) ++ [[]] ++ panel width "Summary" (" | ".intercalate parts)

/-- The text of the report on the results of a run. -/
def report (width : Nat) (verbose : Bool) (results : List LintResult) : String :=
  String.ofList ((lines width verbose results).flatMap (· ++ ['\n']))

end ScriptLint.Console

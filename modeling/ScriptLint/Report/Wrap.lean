/-
Fitting text into columns of a terminal. Text is broken before words; blanks belong to the word
before them, so a broken line may end with blanks as long as they fit. A word wider than the column
is folded or cut, as the style of the column says.
-/
import ScriptLint.Text.Blank
import ScriptLint.Text.Cluster
import ScriptLint.Text.Split

namespace ScriptLint.Wrap

open Text

/-- What becomes of text that is wider than its column. -/
inductive Overflow where
  /-- It goes on in the next line. -/
  | fold
  /-- It is cut, and an ellipsis shows it. -/
  | ellipsis
  deriving DecidableEq, Repr

/-- How lines stand in their column. -/
inductive Justify where
  /-- As they are, without padding. -/
  | none
  | left
  | right
  deriving DecidableEq, Repr

/-! ## Preparation -/

/-- Whether a terminal would act on a character instead of showing it. -/
def isControlCode (c : Char) : Bool := [7, 8, 11, 12, 13].contains c.toNat

/-- A text without control codes. -/
def sanitize (cs : List Char) : List Char := cs.filter fun c => !isControlCode c

/-- The parts of a line that ended at tabs, each filled up with blanks to the next multiple of eight
cells; the last ended at none and stays as it is. -/
def fillTabs (column : Nat) : List (List Char) → List Char
  | [] => []
  | [part] => part
  | part :: next :: parts =>
    let stop := column + cells (part ++ [' '])
    let full := (stop + 7) / 8 * 8
    part ++ ' ' :: List.replicate (full - stop) ' ' ++ fillTabs full (next :: parts)

/-- A line with tabs replaced by blanks up to the next multiple of eight cells. -/
def expandTabs (line : List Char) : List Char := fillTabs 0 (splitAt '\t' line)

/-! ## Cutting -/

/-- The beginning of a text that takes a number of cells; half of a wide cluster becomes a blank. -/
def front : (total : Nat) → List Cluster → List Char
  | 0, _ => []
  | _, [] => []
  | total + 1, k :: rest =>
    if k.size ≤ total + 1 then k.chars ++ front (total + 1 - k.size) rest else [' ']

/-- A text filled up with blanks to a number of cells. -/
def fill (total : Nat) (cs : List Char) : List Char := cs ++ List.replicate (total - cells cs) ' '

/-- A text cut or filled up to a number of cells. -/
def setCells (cs : List Char) (total : Nat) : List Char :=
  if cells cs ≤ total then fill total cs else front total (Cluster.ofChars cs)

/-- A line cut to the width of its column. -/
def truncate (overflow : Overflow) (width : Nat) (line : List Char) : List Char :=
  if cells line ≤ width then line
  else
    match overflow with
    | .fold => setCells line width
    | .ellipsis => setCells line (width - 1) ++ ['…']

/-- A line without trailing blanks. -/
def trimEnd (line : List Char) : List Char := (line.reverse.dropWhile isBlank).reverse

/-- A line without the trailing blanks that make it longer than the width. -/
def trimBeyond (width : Nat) (line : List Char) : List Char :=
  let blanks := (line.reverse.takeWhile isBlank).length
  line.take (line.length - min blanks (line.length - width))

/-! ## Breaking -/

/-- The words of a text, each with the blanks after it, the first also with those before it. -/
def words (cs : List Char) : List (List Char) :=
  let start := cs.dropWhile isBlank
  let rest := start.dropWhile fun c => !isBlank c
  if _nonempty : start = [] then []
  else
    let next := rest.dropWhile isBlank
    cs.take (cs.length - next.length) :: words next
termination_by cs.length
decreasing_by
  have h₁ : (cs.dropWhile isBlank).length ≤ cs.length := by
    simpa using (List.dropWhile_suffix isBlank).length_le
  have h₂ : ((cs.dropWhile isBlank).dropWhile fun c => !isBlank c).length
      < (cs.dropWhile isBlank).length := by
    match hs : cs.dropWhile isBlank with
    | [] => exact absurd hs _nonempty
    | c :: tail =>
      have hc : isBlank c = false := by
        have := List.head_dropWhile_not isBlank (l := cs) (by simp [hs])
        simpa [hs] using this
      have := (List.dropWhile_suffix (l := tail) fun c => !isBlank c).length_le
      simp only [List.dropWhile_cons, hc, Bool.not_false, ↓reduceIte, List.length_cons]
      omega
  have h₃ := (List.dropWhile_suffix
    (l := (cs.dropWhile isBlank).dropWhile fun c => !isBlank c) isBlank).length_le
  omega

/-- Puts characters before the first piece. -/
def prepend (cs : List Char) : List (List Char) → List (List Char)
  | piece :: pieces => (cs ++ piece) :: pieces
  | [] => [cs]

/-- Clusters in pieces that fit into a width; `used` cells of the first are taken. -/
def chopFrom (width used : Nat) : List Cluster → List (List Char)
  | [] => [[]]
  | k :: rest =>
    if width < used + k.size then [] :: prepend k.chars (chopFrom width k.size rest)
    else prepend k.chars (chopFrom width (used + k.size) rest)

/-- A word in pieces that fit into a width. -/
def chop (width : Nat) (word : List Char) : List (List Char) :=
  chopFrom width 0 (Cluster.ofChars word)

/-- Packs words into lines. `line` is the open line, `used` the cells that its words take. -/
def pack (overflow : Overflow) (width : Nat) (line : List Char) (used : Nat) :
    List (List Char) → List (List Char)
  | [] => [line]
  | word :: rest =>
    let size := cells (trimEnd word)
    if used + size ≤ width then pack overflow width (line ++ word) (used + cells word) rest
    else
      let finished := if line.isEmpty then [] else [line]
      if size ≤ width ∨ overflow = .ellipsis then
        finished ++ pack overflow width word (cells word) rest
      else
        let pieces := chop width word
        let pieces := if line.isEmpty then pieces.dropWhile (·.isEmpty) else pieces
        let last := pieces.getLast?.getD []
        finished ++ pieces.dropLast ++ pack overflow width last (cells last) rest

/-- The lines of a text without line feeds. -/
def breakLine (overflow : Overflow) (width : Nat) (cs : List Char) : List (List Char) :=
  match words cs with
  | [] => [cs]
  | ws => pack overflow width [] 0 ws

/-- A line in its place in the column. -/
def justify (how : Justify) (overflow : Overflow) (width : Nat) (line : List Char) : List Char :=
  match how with
  | .none => truncate overflow width line
  | .left => fill width (truncate overflow width line)
  | .right =>
    let cut := truncate overflow width (trimEnd line)
    List.replicate (width - cells cut) ' ' ++ cut

/-- The lines of a text in a column. -/
def lines (how : Justify) (overflow : Overflow) (width : Nat) (text : List Char) :
    List (List Char) :=
  (splitAt '\n' (sanitize text)).flatMap fun line =>
    (breakLine overflow width (expandTabs line)).map fun l =>
      justify how overflow width (trimBeyond width l)

end ScriptLint.Wrap

/-
Style tags in square brackets. A tag starts with a small letter or one of `#`, `/` and `@` and ends
at the next closing bracket; an odd number of backslashes before it makes it plain text. `escape`
makes plain text of the tags of a text, `plain` leaves the tags out. Names of emoji between colons
are replaced.
-/
import ScriptLint.Text.Emoji

namespace ScriptLint.Markup

/-- Whether a character can follow the opening bracket of a tag. -/
def startsTag (c : Char) : Bool :=
  (0x61 ≤ c.toNat && c.toNat ≤ 0x7A) || c = '#' || c = '/' || c = '@'

/-- The length of a tag after its opening bracket, the closing one included, if there is a tag. -/
def tagLength? : List Char → Option Nat
  | [] => none
  | c :: rest =>
    if startsTag c then
      let inner := rest.takeWhile fun d => d ≠ ']' && d ≠ '['
      if (rest.drop inner.length).head? = some ']' then some (inner.length + 2) else none
    else none

/-- A piece of a text with tags. -/
inductive Piece where
  | char (c : Char)
  /-- A tag with its brackets and the number of backslashes before it. -/
  | tag (backslashes : Nat) (text : List Char)
  deriving Repr

/-- The pieces of a text. `backslashes` of them have been read and may belong to a tag; `skip`
characters belong to the tag before. -/
def piecesFrom : (backslashes skip : Nat) → List Char → List Piece
  | backslashes, _, [] => List.replicate backslashes (.char '\\')
  | backslashes, skip + 1, _ :: rest => piecesFrom backslashes skip rest
  | backslashes, 0, c :: rest =>
    if c = '\\' then piecesFrom (backslashes + 1) 0 rest
    else
      match if c = '[' then tagLength? rest else none with
      | some n => .tag backslashes ('[' :: rest.take n) :: piecesFrom 0 n rest
      | none => List.replicate backslashes (.char '\\') ++ .char c :: piecesFrom 0 0 rest

/-- The pieces of a text. -/
def pieces (cs : List Char) : List Piece := piecesFrom 0 0 cs

/-- A text in which every tag is plain text. A single backslash at the end is doubled, so that it
does not reach what follows. -/
def escape (cs : List Char) : List Char :=
  let escaped := (pieces cs).flatMap fun
    | .char c => [c]
    | .tag n text => List.replicate (2 * n + 1) '\\' ++ text
  let slashes := (escaped.reverse.takeWhile (· = '\\')).length
  if slashes = 1 then escaped ++ ['\\'] else escaped

/-- A text without the backslashes before opening brackets. -/
def unescape : List Char → List Char
  | '\\' :: '[' :: rest => '[' :: unescape rest
  | c :: rest => c :: unescape rest
  | [] => []

/-- What is shown of the characters between two tags. -/
def shownBetween (cs : List Char) : List Char := Text.Emoji.replace (unescape cs)

/-- What is shown of pieces after the characters `before`, the latest first: tags are left out, and
escaped ones are shown. -/
def shownAfter (before : List Char) : List Piece → List Char
  | [] => shownBetween before.reverse
  | .char c :: rest => shownAfter (c :: before) rest
  | .tag n text :: rest =>
    shownBetween before.reverse ++ List.replicate (n / 2) '\\'
      ++ (if n % 2 = 1 then shownBetween text else []) ++ shownAfter [] rest

/-- What is shown of a text with tags. -/
def plain (cs : List Char) : List Char := shownAfter [] (pieces cs)

end ScriptLint.Markup

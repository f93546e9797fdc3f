/-
Characters that are shown as one: a character with the marks after it, and characters that a joiner
joins. A text is cut only between such clusters.
-/
import ScriptLint.Text.Width

namespace ScriptLint.Text

/-- Characters that are shown as one, and the cells they take. -/
structure Cluster where
  chars : List Char
  size : Nat
  deriving Repr

namespace Cluster

/-- A cluster with one more character that widens it by some cells. -/
def add (k : Cluster) (c : Char) (more : Nat) : Cluster := ⟨k.chars ++ [c], k.size + more⟩

/-- The clusters of a text after the open cluster `k?`. `hidden` and `last?` say what they say for
`cellsAfter`; a joiner at the very start joins nothing. -/
def ofCharsAfter (k? : Option Cluster) (hidden : Bool) (last? : Option Char) :
    List Char → List Cluster
  | [] => k?.toList
  | c :: rest =>
    match k? with
    | none =>
      if c = joiner ∨ c = emojiForm ∨ charCells c = 0 then
        ofCharsAfter (some ⟨[c], 0⟩) false last? rest
      else ofCharsAfter (some ⟨[c], charCells c⟩) false (some c) rest
    | some k =>
      if hidden then ofCharsAfter (some (k.add c 0)) false last? rest
      else if c = joiner then ofCharsAfter (some (k.add c 0)) true last? rest
      else if c = emojiForm then
        ofCharsAfter (some (k.add c ((last?.map addedCells).getD 0))) false none rest
      else if charCells c = 0 then ofCharsAfter (some (k.add c 0)) false last? rest
      else k :: ofCharsAfter (some ⟨[c], charCells c⟩) false (some c) rest

/-- The clusters of a text. -/
def ofChars (cs : List Char) : List Cluster := ofCharsAfter none false none cs

theorem flatMap_chars_ofCharsAfter (k? : Option Cluster) (hidden : Bool) (last? : Option Char)
    (cs : List Char) :
    (ofCharsAfter k? hidden last? cs).flatMap chars = (k?.map chars).getD [] ++ cs := by
  induction cs generalizing k? hidden last? with
  | nil => cases k? <;> simp [ofCharsAfter]
  | cons c rest ih =>
    unfold ofCharsAfter
    cases k? with
    | none => dsimp only; split <;> simp [ih]
    | some k =>
      dsimp only
      split
      · simp [ih, add]
      · split
        · simp [ih, add]
        · split
          · simp [ih, add]
          · split <;> simp [ih, add]

/-- The clusters of a text hold all of its characters in order. -/
theorem flatMap_chars_ofChars (cs : List Char) : (ofChars cs).flatMap chars = cs := by
  simp [ofChars, flatMap_chars_ofCharsAfter]

end Cluster

end ScriptLint.Text

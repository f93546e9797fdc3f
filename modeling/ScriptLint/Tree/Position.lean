/-
Lines and columns of byte offsets. Both start at one, and a column counts bytes.
-/
import ScriptLint.Text.Utf8

namespace ScriptLint

/-- A place in a source text. -/
structure Position where
  line : Nat
  column : Nat
  deriving DecidableEq, Repr

/-- The byte that ends a line. -/
def newline : UInt8 := 0x0A

/-- The place of a byte offset. An offset before the source counts as its start, one after it as
its end. -/
def Position.ofOffset (source : Bytes) (offset : Int) : Position :=
  let before := source.take offset.toNat
  { line := before.count newline + 1
    column := (before.reverse.takeWhile (· ≠ newline)).length + 1 }

end ScriptLint

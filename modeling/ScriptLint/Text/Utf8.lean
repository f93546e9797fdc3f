/-
UTF-8 text as bytes. `encode` writes text; `decode` reads it strictly and names the place and the
cause of the first fault; `decodeLossy` reads anything, one replacement character for every
maximal run of bytes that starts a character but does not finish it.
-/
import ScriptLint.Text.Hex

namespace ScriptLint

/-- Raw file contents. All offsets of the library count these bytes. -/
abbrev Bytes := List UInt8

namespace Utf8

/-! ## Writing -/

/-- The bytes of a list of characters. -/
def encodeChars (cs : List Char) : Bytes := cs.flatMap String.utf8EncodeChar

/-- The bytes of a text. -/
def encode (s : String) : Bytes := encodeChars s.toList

theorem encodeChars_nil : encodeChars [] = [] := rfl

theorem encodeChars_append (a b : List Char) :
    encodeChars (a ++ b) = encodeChars a ++ encodeChars b := by
  simp [encodeChars]

/-! ## Cutting bytes into characters -/

/-- Why bytes are not UTF-8. -/
inductive Cause where
  /-- No character starts with this byte. -/
  | invalidStart
  /-- A byte that should continue the character does not. -/
  | invalidContinuation
  /-- The text ends within a character. -/
  | truncated
  deriving DecidableEq, Repr

/-- One character, or one maximal run of bytes that is none. `extra` counts the bytes after the
first. -/
inductive Piece where
  | char (c : Char) (extra : Nat)
  | bad (cause : Cause) (extra : Nat)
  deriving DecidableEq, Repr

/-- The bytes of the piece after its first. -/
def Piece.extra : Piece → Nat
  | .char _ n => n
  | .bad _ n => n

/-- Reads `need` more bytes of a character. The next one must lie between `lo` and `hi`, the later
ones between `0x80` and `0xBF`; `acc` is the scalar value so far and `taken` the bytes read. -/
def continuation : (need lo hi acc taken : Nat) → Bytes → Piece
  | 0, _, _, acc, taken, _ => .char (Char.ofNat acc) taken
  | _ + 1, _, _, _, taken, [] => .bad .truncated taken
  | need + 1, lo, hi, acc, taken, b :: rest =>
    if lo ≤ b.toNat ∧ b.toNat ≤ hi then
      continuation need 0x80 0xBF (acc * 64 + b.toNat % 64) (taken + 1) rest
    else .bad .invalidContinuation taken

/-- The piece that starts with the byte `b` and goes on in `rest`. The bounds on the second byte
keep out overlong forms, surrogates and values above `0x10FFFF`. -/
def split (b : UInt8) (rest : Bytes) : Piece :=
  let n := b.toNat
  if n < 0x80 then .char (Char.ofNat n) 0
  else if n < 0xC2 then .bad .invalidStart 0
  else if n < 0xE0 then continuation 1 0x80 0xBF (n - 0xC0) 0 rest
  else if n < 0xF0 then
    continuation 2 (if n = 0xE0 then 0xA0 else 0x80) (if n = 0xED then 0x9F else 0xBF)
      (n - 0xE0) 0 rest
  else if n < 0xF5 then
    continuation 3 (if n = 0xF0 then 0x90 else 0x80) (if n = 0xF4 then 0x8F else 0xBF)
      (n - 0xF0) 0 rest
  else .bad .invalidStart 0

/-- All pieces of a byte string, the first `skip` bytes belonging to the piece before. -/
def piecesFrom : (skip : Nat) → Bytes → List Piece
  | _, [] => []
  | skip + 1, _ :: rest => piecesFrom skip rest
  | 0, b :: rest => split b rest :: piecesFrom (split b rest).extra rest

/-- All pieces of a byte string, in order. -/
def pieces (bytes : Bytes) : List Piece := piecesFrom 0 bytes

/-! ## Reading -/

/-- The character that stands for bytes that are none. -/
def replacement : Char := Char.ofNat 0xFFFD

/-- The character a piece reads as when faults are replaced. -/
def Piece.lossy : Piece → Char
  | .char c _ => c
  | .bad _ _ => replacement

/-- Reads any bytes, faults replaced. -/
def decodeLossy (bytes : Bytes) : String :=
  String.ofList ((pieces bytes).map Piece.lossy)

/-- The first place where bytes are not UTF-8: `size` bytes from offset `first`, the first of them
being `byte`. -/
structure Fault where
  cause : Cause
  byte : UInt8
  first : Nat
  size : Nat
  deriving DecidableEq, Repr

/-- Collects the characters up to the first fault, which is reported at its offset. -/
def collect (bytes : Bytes) : (offset : Nat) → List Piece → Except Fault (List Char)
  | _, [] => .ok []
  | offset, .char c n :: rest => (collect bytes (offset + n + 1) rest).map (c :: ·)
  | offset, .bad cause n :: _ => .error ⟨cause, bytes.getD offset 0, offset, n + 1⟩

/-- Reads UTF-8, or says where and why it is none. -/
def decode (bytes : Bytes) : Except Fault String :=
  (collect bytes 0 (pieces bytes)).map String.ofList

/-! ## Wording -/

/-- The words for a cause. -/
def Cause.message : Cause → String
  | .invalidStart => "invalid start byte"
  | .invalidContinuation => "invalid continuation byte"
  | .truncated => "unexpected end of data"

/-- The sentence for a fault: one byte is quoted, several are given by their offsets. -/
def Fault.message (f : Fault) : String :=
  let place :=
    if f.size = 1 then
      "byte 0x" ++ String.ofList (Text.hexFixed 2 f.byte.toNat) ++ " in position " ++ toString f.first
    else "bytes in position " ++ toString f.first ++ "-" ++ toString (f.first + f.size - 1)
  "'utf-8' codec can't decode " ++ place ++ ": " ++ f.cause.message

end Utf8

/-- The bytes from `lo` up to, not including, `hi`. -/
def Bytes.slice (bytes : Bytes) (lo hi : Nat) : Bytes := (bytes.take hi).drop lo

end ScriptLint

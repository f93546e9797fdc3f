/-
Text written as UTF-8 reads as this text (`decodeLossy_encodeChars`). Bytes of any kind read as no
more characters than there are bytes (`length_decodeLossy_le`); those that are a text (`IsText`) are
read without a loss, and stay texts when they are cut between characters (`IsText.slice`).
-/
import ScriptLint.Text.Utf8
import Mathlib.Data.List.Basic

namespace ScriptLint.Utf8

/-! ## One character -/

theorem continuation_zero (lo hi acc taken : Nat) (rest : Bytes) :
    continuation 0 lo hi acc taken rest = .char (Char.ofNat acc) taken := by
  cases rest <;> rfl

theorem continuation_succ {need lo hi acc taken : Nat} {b : UInt8} {rest : Bytes}
    (h : lo ≤ b.toNat ∧ b.toNat ≤ hi) :
    continuation (need + 1) lo hi acc taken (b :: rest) =
      continuation need 0x80 0xBF (acc * 64 + b.toNat % 64) (taken + 1) rest := by
  rw [continuation, if_pos h]

theorem toNat_ofNat_of_lt {n : Nat} (h : n < 256) : (UInt8.ofNat n).toNat = n := by
  simp only [UInt8.toNat_ofNat']
  omega

/-- A character below `0x80` is written as one byte. -/
theorem encodeChar_ascii {c : Char} (h : c.toNat < 0x80) :
    String.utf8EncodeChar c = [UInt8.ofNat c.toNat] := by
  have : c.val.toNat ≤ 127 := Nat.le_of_lt_succ h
  simp only [String.utf8EncodeChar, if_pos this]
  rfl

/-- The bytes that a character is written as are cut off as this character. -/
theorem split_encodeChar (c : Char) (rest : Bytes) :
    ∃ b tail, String.utf8EncodeChar c = b :: tail ∧
      split b (tail ++ rest) = .char c tail.length := by
  have hc : c = Char.ofNat c.val.toNat := (Char.ofNat_toNat c).symm
  have hvalid : c.val.toNat < 0xD800 ∨ 0xDFFF < c.val.toNat ∧ c.val.toNat < 0x110000 := c.valid
  unfold String.utf8EncodeChar
  generalize c.val.toNat = v at hc hvalid
  dsimp only
  split
  · refine ⟨_, [], rfl, ?_⟩
    have hb : (UInt8.ofNat v).toNat = v := toNat_ofNat_of_lt (by omega)
    simp only [split, hb, if_pos (show v < 0x80 by omega), hc, List.length_nil]
  split
  · refine ⟨_, _, rfl, ?_⟩
    have hb₁ := toNat_ofNat_of_lt (show v / 64 % 32 + 192 < 256 by omega)
    have hb₂ := toNat_ofNat_of_lt (show v % 64 + 128 < 256 by omega)
    simp only [split, hb₁, List.cons_append, List.nil_append]
    rw [if_neg (by omega), if_neg (by omega), if_pos (by omega), continuation_succ (by omega), hb₂,
      continuation_zero, hc]
    congr 2
    omega
  split
  · refine ⟨_, _, rfl, ?_⟩
    have hb₁ := toNat_ofNat_of_lt (show v / 4096 % 16 + 224 < 256 by omega)
    have hb₂ := toNat_ofNat_of_lt (show v / 64 % 64 + 128 < 256 by omega)
    have hb₃ := toNat_ofNat_of_lt (show v % 64 + 128 < 256 by omega)
    simp only [split, hb₁, List.cons_append, List.nil_append]
    rw [if_neg (by omega), if_neg (by omega), if_neg (by omega), if_pos (by omega),
      continuation_succ (by rw [hb₂]; split <;> split <;> omega), continuation_succ (by omega), hb₂,
      hb₃, continuation_zero, hc]
    congr 2
    omega
  · refine ⟨_, _, rfl, ?_⟩
    have hb₁ := toNat_ofNat_of_lt (show v / 262144 % 8 + 240 < 256 by omega)
    have hb₂ := toNat_ofNat_of_lt (show v / 4096 % 64 + 128 < 256 by omega)
    have hb₃ := toNat_ofNat_of_lt (show v / 64 % 64 + 128 < 256 by omega)
    have hb₄ := toNat_ofNat_of_lt (show v % 64 + 128 < 256 by omega)
    simp only [split, hb₁, List.cons_append, List.nil_append]
    rw [if_neg (by omega), if_neg (by omega), if_neg (by omega), if_neg (by omega),
      if_pos (by omega), continuation_succ (by rw [hb₂]; split <;> split <;> omega),
      continuation_succ (by omega), continuation_succ (by omega), hb₂, hb₃, hb₄, continuation_zero,
      hc]
    congr 2
    omega

/-! ## Texts -/

theorem piecesFrom_skip (first rest : Bytes) :
    piecesFrom first.length (first ++ rest) = pieces rest := by
  induction first with
  | nil => rfl
  | cons b first ih => rw [List.length_cons, List.cons_append, piecesFrom, ih]

/-- The pieces of a text with other bytes behind it are its characters and the pieces of these. -/
theorem pieces_encodeChars_append (cs : List Char) (rest : Bytes) :
    (pieces (encodeChars cs ++ rest)).map Piece.lossy = cs ++ (pieces rest).map Piece.lossy := by
  induction cs with
  | nil => rfl
  | cons c cs ih =>
    obtain ⟨b, tail, hencode, hsplit⟩ := split_encodeChar c (encodeChars cs ++ rest)
    have hbytes : encodeChars (c :: cs) ++ rest = b :: (tail ++ (encodeChars cs ++ rest)) := by
      rw [encodeChars, List.flatMap_cons, hencode]
      simp [encodeChars]
    rw [hbytes, pieces, piecesFrom, hsplit]
    simp only [List.map_cons, Piece.lossy, Piece.extra, piecesFrom_skip, ih, List.cons_append]

theorem pieces_encodeChars (cs : List Char) :
    (pieces (encodeChars cs)).map Piece.lossy = cs := by
  have h := pieces_encodeChars_append cs []
  rw [List.append_nil] at h
  rw [h]
  exact List.append_nil cs

/-- A text is read from the bytes it is written as. -/
theorem decodeLossy_encodeChars (cs : List Char) :
    decodeLossy (encodeChars cs) = String.ofList cs := by
  rw [decodeLossy, pieces_encodeChars]

/-! ## Bytes that are text -/

/-- Whether bytes are those of a text. -/
def IsText (bytes : Bytes) : Prop := ∃ cs, bytes = encodeChars cs

variable {bytes first second : Bytes}

theorem isText_encode (s : String) : IsText (encode s) := ⟨s.toList, rfl⟩

/-- Bytes that are text are read without a loss. -/
theorem IsText.encode_decodeLossy (h : IsText bytes) : encode (decodeLossy bytes) = bytes := by
  obtain ⟨cs, rfl⟩ := h
  rw [decodeLossy_encodeChars, encode, String.toList_ofList]

theorem isText_iff : IsText bytes ↔ encode (decodeLossy bytes) = bytes :=
  ⟨IsText.encode_decodeLossy, fun h => h ▸ isText_encode _⟩

instance : Decidable (IsText bytes) := decidable_of_iff _ isText_iff.symm

theorem IsText.append (h : IsText first) (h' : IsText second) : IsText (first ++ second) := by
  obtain ⟨cs, rfl⟩ := h
  obtain ⟨cs', rfl⟩ := h'
  exact ⟨cs ++ cs', (encodeChars_append cs cs').symm⟩

/-- Where a text is cut after a text, the rest is a text. -/
theorem IsText.of_append (h : IsText (first ++ second)) (h' : IsText first) : IsText second := by
  obtain ⟨cs, hcs⟩ := h
  obtain ⟨cs', rfl⟩ := h'
  have hchars := pieces_encodeChars_append cs' second
  rw [hcs, pieces_encodeChars] at hchars
  refine ⟨(pieces second).map Piece.lossy, (List.append_right_inj (encodeChars cs')).1 ?_⟩
  rw [hcs, ← encodeChars_append, ← hchars]

theorem IsText.drop {n : Nat} (h : IsText bytes) (hn : IsText (bytes.take n)) :
    IsText (bytes.drop n) := by
  rw [← List.take_append_drop n bytes] at h
  exact h.of_append hn

/-- The bytes between two offsets that lie between characters are a text. -/
theorem IsText.slice {lo hi : Nat} (hlo : IsText (bytes.take lo)) (hhi : IsText (bytes.take hi))
    (h : lo ≤ hi) : IsText (bytes.slice lo hi) := by
  refine IsText.drop hhi ?_
  rwa [List.take_take, Nat.min_eq_left h]

/-! ## Lengths -/

theorem length_piecesFrom_le (skip : Nat) (bytes : Bytes) :
    (piecesFrom skip bytes).length ≤ bytes.length := by
  fun_induction piecesFrom skip bytes with
  | case1 => simp
  | case2 skip _ rest ih => rw [List.length_cons]; omega
  | case3 b rest ih => simpa using ih

theorem length_decodeLossy_le (bytes : Bytes) :
    (decodeLossy bytes).toList.length ≤ bytes.length := by
  rw [decodeLossy, String.toList_ofList, List.length_map]
  exact length_piecesFrom_le 0 bytes

end ScriptLint.Utf8

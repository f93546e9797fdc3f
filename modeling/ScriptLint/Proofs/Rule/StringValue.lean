/-
The value that the language gives to a string literal, as code units. `value?` reads the characters
between the quotes from left to right, one character or one escape after the other, legacy octal
escapes included. A literal that the language rejects has no value. Nothing here refers to the tokens
of a tree.
-/
import ScriptLint.Text.Hex
import Mathlib.Algebra.Ring.Nat

namespace ScriptLint.StringValue

/-! ## Code units -/

/-- The code units of a code point: a surrogate pair where one unit is too small. -/
def units (n : Nat) : List Nat :=
  if n < 0x10000 then [n] else [0xD800 + (n - 0x10000) / 0x400, 0xDC00 + (n - 0x10000) % 0x400]

/-- The code units of a text. -/
def unitsOf (cs : List Char) : List Nat := cs.flatMap fun c => units c.toNat

/-! ## Numbers -/

def isHexDigit (c : Char) : Bool := (Text.hexValue? c).isSome

/-- The number that hexadecimal digits write. -/
def hexNumber (digits : List Char) : Nat :=
  digits.foldl (fun n c => n * 16 + (Text.hexValue? c).getD 0) 0

def isOctalDigit (c : Char) : Bool := '0'.toNat ≤ c.toNat && c.toNat ≤ '7'.toNat

/-- The number that octal digits write. -/
def octalNumber (digits : List Char) : Nat :=
  digits.foldl (fun n c => n * 8 + (c.toNat - '0'.toNat)) 0

/-- Hexadecimal digits are digits and the first letters of ASCII. -/
theorem isHexDigit_iff {c : Char} : isHexDigit c = true ↔
    (0x30 ≤ c.toNat ∧ c.toNat ≤ 0x39) ∨ (0x61 ≤ c.toNat ∧ c.toNat ≤ 0x66) ∨
      (0x41 ≤ c.toNat ∧ c.toNat ≤ 0x46) := by
  unfold isHexDigit Text.hexValue?
  dsimp only
  split
  · simp [*]
  split
  · simp [*]
  split
  · simp [*]
  · simp
    omega

/-- A character of a class is none outside of it. -/
theorem ne_of_class {p : Char → Bool} {c d : Char} (h : p c = true) (hd : p d = false) : c ≠ d := by
  rintro rfl
  rw [h] at hd
  cases hd

theorem hexValue?_getD_lt (c : Char) : (Text.hexValue? c).getD 0 < 16 := by
  unfold Text.hexValue?
  dsimp only
  split
  · simp only [Option.getD_some]
    omega
  split
  · simp only [Option.getD_some]
    omega
  split
  · simp only [Option.getD_some]
    omega
  · decide

/-- Digits below a base write a number below the power of the base. -/
theorem foldl_digits_lt {base : Nat} {digit : Char → Nat} {digits : List Char}
    (h : ∀ d ∈ digits, digit d < base) (acc : Nat) :
    digits.foldl (fun n c => n * base + digit c) acc < (acc + 1) * base ^ digits.length := by
  induction digits generalizing acc with
  | nil => simp
  | cons d rest ih =>
    have hd := h d (by simp)
    have hstep : acc * base + digit d + 1 ≤ (acc + 1) * base := by
      rw [Nat.add_mul]
      omega
    calc rest.foldl (fun n c => n * base + digit c) (acc * base + digit d)
        < (acc * base + digit d + 1) * base ^ rest.length := ih (fun c hc => h c (by simp [hc])) _
      _ ≤ (acc + 1) * base * base ^ rest.length := Nat.mul_le_mul_right _ hstep
      _ = (acc + 1) * base ^ (d :: rest).length := by
        rw [List.length_cons, Nat.pow_succ', Nat.mul_assoc]

theorem hexNumber_lt (digits : List Char) : hexNumber digits < 16 ^ digits.length := by
  simpa [hexNumber] using foldl_digits_lt (fun d _ => hexValue?_getD_lt d) 0

theorem octalNumber_lt {digits : List Char} (h : ∀ d ∈ digits, isOctalDigit d = true) :
    octalNumber digits < 8 ^ digits.length := by
  have hdigit : ∀ d ∈ digits, d.toNat - '0'.toNat < 8 := by
    intro d hd
    have hd := h d hd
    simp only [isOctalDigit, Bool.and_eq_true, decide_eq_true_eq] at hd
    have hseven : '7'.toNat = '0'.toNat + 7 := rfl
    omega
  simpa [octalNumber] using foldl_digits_lt hdigit 0

/-! ## Escapes -/

/-- The characters that end a line. -/
def lineEnds : List Char := ['\n', '\r', '\u2028', '\u2029']

/-- The letters that stand for a control character after a backslash. -/
def controls : List (Char × Nat) :=
  [('b', 0x08), ('t', 0x09), ('n', 0x0A), ('v', 0x0B), ('f', 0x0C), ('r', 0x0D)]

/-- The code point of a character after a backslash. -/
def single (c : Char) : Nat := ((controls.find? fun e => e.1 == c).map (·.2)).getD c.toNat

/-- The code units of a fixed number of hexadecimal digits, and the text after them. -/
def fixedHex? (width : Nat) (cs : List Char) : Option (List Nat × List Char) :=
  let digits := cs.take width
  if digits.length = width ∧ digits.all isHexDigit then
    some (units (hexNumber digits), cs.drop width)
  else none

/-- The code units of hexadecimal digits that a brace closes, and the text after it. -/
def bracedHex? (cs : List Char) : Option (List Nat × List Char) :=
  let digits := cs.takeWhile isHexDigit
  match cs.dropWhile isHexDigit with
  | '\x7d' :: rest =>
    if digits ≠ [] ∧ hexNumber digits ≤ 0x10FFFF then some (units (hexNumber digits), rest)
    else none
  | _ => none

/-- How many octal digits an escape that begins with this one has at most. -/
def octalWidth (c : Char) : Nat := if c.toNat ≤ '3'.toNat then 3 else 2

/-- The octal digits that a text begins with, as far as they are one escape. -/
def octalDigits (c : Char) (rest : List Char) : List Char :=
  ((c :: rest).take (octalWidth c)).takeWhile isOctalDigit

/-- The code units of the escape that a text after a backslash begins with, and the text after
it. -/
def escape? : List Char → Option (List Nat × List Char)
  | [] => none
  | c :: rest =>
    if c = 'x' then fixedHex? 2 rest
    else if c = 'u' then
      match rest with
      | '\x7b' :: rest => bracedHex? rest
      | _ => fixedHex? 4 rest
    else if isOctalDigit c then
      let digits := octalDigits c rest
      some (units (octalNumber digits), (c :: rest).drop digits.length)
    else if c = '\r' ∧ rest.head? = some '\n' then some ([], rest.tail)
    else if c ∈ lineEnds then some ([], rest)
    else some (units (single c), rest)

theorem length_fixedHex? {width : Nat} {cs after : List Char} {us : List Nat}
    (h : fixedHex? width cs = some (us, after)) : after.length ≤ cs.length := by
  unfold fixedHex? at h
  dsimp only at h
  split at h
  · obtain ⟨-, rfl⟩ := Prod.mk.inj (Option.some.inj h)
    simp
  · cases h

theorem length_bracedHex? {cs after : List Char} {us : List Nat}
    (h : bracedHex? cs = some (us, after)) : after.length ≤ cs.length := by
  unfold bracedHex? at h
  dsimp only at h
  split at h
  · rename_i rest heq
    have hlength := (List.dropWhile_suffix isHexDigit (l := cs)).length_le
    rw [heq, List.length_cons] at hlength
    split at h
    · obtain ⟨-, rfl⟩ := Prod.mk.inj (Option.some.inj h)
      omega
    · cases h
  · cases h

/-- An escape leaves a part of the text after the backslash. -/
theorem length_escape? {cs after : List Char} {us : List Nat}
    (h : escape? cs = some (us, after)) : after.length ≤ cs.length := by
  cases cs with
  | nil => cases h
  | cons c rest =>
    have hdone : ∀ {us' : List Nat} {tail : List Char}, some (us', tail) = some (us, after) →
        tail.length ≤ (c :: rest).length → after.length ≤ (c :: rest).length := by
      intro us' tail heq hle
      obtain ⟨-, rfl⟩ := Prod.mk.inj (Option.some.inj heq)
      exact hle
    simp only [escape?] at h
    split at h
    · exact Nat.le_succ_of_le (length_fixedHex? h)
    split at h
    · split at h
      · exact Nat.le_succ_of_le (Nat.le_succ_of_le (length_bracedHex? h))
      · exact Nat.le_succ_of_le (length_fixedHex? h)
    split at h
    · exact hdone h (by simp)
    split at h
    · exact hdone h (by simp; omega)
    split at h
    · exact hdone h (Nat.le_succ _)
    · exact hdone h (Nat.le_succ _)

/-! ## Reading one escape -/

theorem escape?_char {c : Char} {next : List Char} (hx : c ≠ 'x') (hu : c ≠ 'u')
    (hoctal : isOctalDigit c = false) (hfeed : c = '\r' → next.head? ≠ some '\n') :
    escape? (c :: next) = some (if c ∈ lineEnds then [] else units (single c), next) := by
  have hpair : ¬(c = '\r' ∧ next.head? = some '\n') := fun h => hfeed h.1 h.2
  simp only [escape?]
  rw [if_neg hx, if_neg hu, if_neg (by simp [hoctal]), if_neg hpair]
  split <;> rfl

/-- The digits of an octal escape end where its width is reached, or before something else. -/
theorem octalDigits_append {c : Char} {digits next : List Char}
    (h : ∀ d ∈ c :: digits, isOctalDigit d = true) (hwidth : digits.length < octalWidth c)
    (hend : digits.length + 1 = octalWidth c ∨
      ∀ d rest, next = d :: rest → isOctalDigit d = false) :
    octalDigits c (digits ++ next) = c :: digits := by
  have hlength : (c :: digits).length ≤ octalWidth c := hwidth
  -- what the width leaves of the text after the digits adds none to them
  have hnone : (next.take (octalWidth c - (c :: digits).length)).takeWhile isOctalDigit = [] := by
    rcases hend with hfull | hother
    · rw [List.length_cons, hfull, Nat.sub_self]
      rfl
    · cases next with
      | nil => simp
      | cons d rest =>
        cases octalWidth c - (c :: digits).length with
        | zero => rfl
        | succ n => rw [List.take_succ_cons, List.takeWhile_cons_of_neg (by simp [hother d rest rfl])]
  rw [octalDigits, ← List.cons_append, List.take_append, List.take_of_length_le hlength,
    List.takeWhile_append_of_pos h, hnone, List.append_nil]

theorem escape?_octal {c : Char} {digits next : List Char}
    (h : ∀ d ∈ c :: digits, isOctalDigit d = true) (hwidth : digits.length < octalWidth c)
    (hend : digits.length + 1 = octalWidth c ∨
      ∀ d rest, next = d :: rest → isOctalDigit d = false) :
    escape? (c :: (digits ++ next)) = some (units (octalNumber (c :: digits)), next) := by
  have hc := h c (by simp)
  have hx : c ≠ 'x' := ne_of_class hc (by decide)
  have hu : c ≠ 'u' := ne_of_class hc (by decide)
  simp only [escape?]
  rw [if_neg hx, if_neg hu, if_pos hc,
    octalDigits_append h hwidth hend, ← List.cons_append, List.drop_left]

theorem fixedHex?_append {width : Nat} {digits : List Char} (hlength : digits.length = width)
    (h : ∀ d ∈ digits, isHexDigit d = true) (next : List Char) :
    fixedHex? width (digits ++ next) = some (units (hexNumber digits), next) := by
  subst hlength
  simp [fixedHex?, List.all_eq_true.2 h]

theorem escape?_unicode {digits : List Char} (hlength : digits.length = 4)
    (h : ∀ d ∈ digits, isHexDigit d = true) (next : List Char) :
    escape? ('u' :: (digits ++ next)) = some (units (hexNumber digits), next) := by
  have hread := fixedHex?_append hlength h next
  obtain ⟨d, rest, rfl⟩ := List.exists_cons_of_length_eq_add_one hlength
  -- the first digit is no brace, so this is not the other notation
  have hbrace := ne_of_class (h d (by simp)) (d := '\x7b') (by decide)
  rw [← hread, List.cons_append, escape?, if_neg (by decide), if_pos rfl]
  intro tail heq
  exact hbrace (List.cons.inj heq).1

theorem bracedHex?_append {digits : List Char} (hne : digits ≠ [])
    (h : ∀ d ∈ digits, isHexDigit d = true) (next : List Char) :
    bracedHex? (digits ++ '\x7d' :: next) =
      if hexNumber digits ≤ 0x10FFFF then some (units (hexNumber digits), next) else none := by
  have hbrace : isHexDigit '\x7d' = false := by decide
  unfold bracedHex?
  rw [List.takeWhile_append_of_pos h, List.dropWhile_append_of_pos h]
  simp [List.takeWhile, List.dropWhile, hbrace, hne]

/-! ## Values -/

/-- The code units of a literal, from the characters between its quotes. -/
def value? : List Char → Option (List Nat)
  | [] => some []
  | c :: rest =>
    if c = '\\' then
      match h : escape? rest with
      | none => none
      | some (us, after) =>
        have := length_escape? h
        (value? after).map (us ++ ·)
    -- the two separators U+2028 and U+2029 may stand in a literal, other ends of line may not
    else if c = '\n' ∨ c = '\r' then none
    else (value? rest).map (units c.toNat ++ ·)
termination_by cs => cs.length

theorem value?_nil : value? [] = some [] := by rw [value?]

/-- A text that is no escape begins with itself. -/
theorem value?_cons {c : Char} (hslash : c ≠ '\\') (hline : ¬(c = '\n' ∨ c = '\r'))
    (rest : List Char) : value? (c :: rest) = (value? rest).map (units c.toNat ++ ·) := by
  rw [value?, if_neg hslash, if_neg hline]

/-- A line that ends within a literal is an error. -/
theorem value?_lineEnd {c : Char} (h : c = '\n' ∨ c = '\r') (rest : List Char) :
    value? (c :: rest) = none := by
  have hslash : c ≠ '\\' := by rcases h with rfl | rfl <;> decide
  rw [value?, if_neg hslash, if_pos h]

theorem value?_escape {cs after : List Char} {us : List Nat} (h : escape? cs = some (us, after)) :
    value? ('\\' :: cs) = (value? after).map (us ++ ·) := by
  rw [value?, if_pos rfl]
  split
  · rename_i heq
    rw [h] at heq
    cases heq
  · rename_i heq
    rw [h] at heq
    obtain ⟨rfl, rfl⟩ := Prod.mk.inj (Option.some.inj heq)
    rfl

theorem value?_escape_none {cs : List Char} (h : escape? cs = none) : value? ('\\' :: cs) = none := by
  rw [value?, if_pos rfl]
  split
  · rfl
  · rename_i heq
    rw [h] at heq
    cases heq

/-- Two digits from `4` on, three below. -/
example : value? "\\1635\\4012".toList = some [0x73, 0x35, 0x20, 0x31, 0x32] := by
  cbv

end ScriptLint.StringValue

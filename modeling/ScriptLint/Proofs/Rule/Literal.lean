/-
What the rule about `typeof` makes of a string literal. It decodes the literal token by token, while
the language reads it character by character, and on some literals the two come to different values:
three octal digits from `4` on, code points that are none, characters beyond the first plane. No such
value is a word of small letters, so the two agree on which literals are names of types
(`literalValue_isTypeName`).
-/
import ScriptLint.Proofs.Rule.Escape
import ScriptLint.Rule.ValidTypeof
import Mathlib.Data.List.Basic

namespace ScriptLint

open StringValue (units unitsOf hexNumber octalNumber single escape? value?)

/-! ## Agreement -/

/-- Whether a value is a word of small letters. -/
def IsWord (value : List Nat) : Prop := ∀ n ∈ value, 0x61 ≤ n ∧ n ≤ 0x7A

/-- Whether a decoded value and the value of a literal are the same words. -/
def Agrees (decoded : List Nat) (value : Option (List Nat)) : Prop :=
  ∀ word, IsWord word → (decoded = word ↔ value = some word)

namespace Agrees

theorem refl (value : List Nat) : Agrees value (some value) := by
  intro word _
  rw [Option.some.injEq]

theorem append {decoded : List Nat} {value : Option (List Nat)} (h : Agrees decoded value)
    (first : List Nat) : Agrees (first ++ decoded) (value.map (first ++ ·)) := by
  intro word hword
  rw [Option.map_eq_some_iff]
  constructor
  · rintro rfl
    exact ⟨decoded, (h decoded fun n hn => hword n (by simp [hn])).1 rfl, rfl⟩
  · rintro ⟨v, hv, rfl⟩
    rw [(h v fun n hn => hword n (by simp [hn])).2 hv]

/-- Where neither side is a word, there is nothing to agree about. -/
theorem of_not_isWord {decoded : List Nat} {value : Option (List Nat)} (hdecoded : ¬IsWord decoded)
    (hvalue : ∀ v, value = some v → ¬IsWord v) : Agrees decoded value := by
  intro word hword
  constructor
  · rintro rfl
    exact absurd hword hdecoded
  · intro h
    exact absurd hword (hvalue word h)

/-- A code point that is no letter is none in code units either. -/
theorem cons_units {decoded : List Nat} {value : Option (List Nat)} (h : Agrees decoded value)
    (n : Nat) : Agrees (n :: decoded) (value.map (units n ++ ·)) := by
  by_cases hplane : n < 0x10000
  · rw [show units n = [n] from if_pos hplane]
    exact h.append [n]
  · -- beyond the first plane the code point is no letter, and its high surrogate is none
    refine of_not_isWord (fun hword => ?_) ?_
    · have hn := hword n (by simp)
      omega
    · intro v hv hword
      obtain ⟨w, -, rfl⟩ := Option.map_eq_some_iff.1 hv
      have hn := hword (0xD800 + (n - 0x10000) / 0x400) (by simp [units, hplane])
      omega

/-- A character that is no backslash stands for itself, unless it ends a line. -/
theorem cons_char {decoded : List Nat} {c : Char} {rest : List Char} (hslash : c ≠ '\\')
    (h : Agrees decoded (value? rest)) : Agrees (c.toNat :: decoded) (value? (c :: rest)) := by
  by_cases hline : c = '\n' ∨ c = '\r'
  · rw [StringValue.value?_lineEnd hline]
    refine of_not_isWord (fun hword => ?_) (fun v hv => by cases hv)
    have hc := hword c.toNat (by simp)
    rcases hline with rfl | rfl <;> exact absurd hc (by decide)
  · rw [StringValue.value?_cons hslash hline]
    exact h.cons_units _

theorem fragment {decoded : List Nat} {cs rest : List Char} (hslash : '\\' ∉ cs)
    (h : Agrees decoded (value? rest)) :
    Agrees (Escape.codePoints cs ++ decoded) (value? (cs ++ rest)) := by
  induction cs with
  | nil => exact h
  | cons c cs ih =>
    rw [List.mem_cons, not_or] at hslash
    exact (ih hslash.2).cons_char (Ne.symm hslash.1)

/-- Three octal digits from `4` on are read as an escape of two and a character. -/
theorem wideOctal {c d e : Char} (h : ∀ x ∈ [c, d, e], StringValue.isOctalDigit x = true)
    (hwidth : StringValue.octalWidth c = 2) (decoded : List Nat) (next : List Char) :
    Agrees (octalNumber [c, d, e] :: decoded) (value? ('\\' :: c :: d :: e :: next)) := by
  have hshort : ∀ x ∈ [c, d], StringValue.isOctalDigit x = true := fun x hx => h x (by
    rw [show [c, d, e] = [c, d] ++ [e] from rfl]
    exact List.mem_append_left _ hx)
  have hread : escape? (c :: ([d] ++ e :: next)) = some (units (octalNumber [c, d]), e :: next) :=
    StringValue.escape?_octal hshort (by simp [hwidth]) (.inl hwidth.symm)
  have hlt : octalNumber [c, d] < 64 := StringValue.octalNumber_lt hshort
  have hc : '3'.toNat < c.toNat := by
    unfold StringValue.octalWidth at hwidth
    split at hwidth
    · cases hwidth
    · rename_i hc
      exact Nat.lt_of_not_le hc
  -- three digits make 256 at least, two of them 63 at most, and the letters lie between
  refine of_not_isWord (fun hword => ?_) ?_
  · have hle := (hword _ (List.mem_cons_self ..)).2
    simp only [octalNumber, List.foldl_cons, List.foldl_nil] at hle
    have hdigits : '3'.toNat = '0'.toNat + 3 := rfl
    omega
  · intro v hv hword
    rw [show c :: d :: e :: next = c :: ([d] ++ e :: next) from rfl,
      StringValue.value?_escape hread] at hv
    obtain ⟨w, -, rfl⟩ := Option.map_eq_some_iff.1 hv
    have hunit := hword (octalNumber [c, d]) (by
      rw [units, if_pos (by omega)]
      exact List.mem_cons_self ..)
    omega

/-- An escape that is the longest one is decoded, to what the language reads as far as words go. -/
theorem escape {decoded : List Nat} {body next : List Char} (hlongest : Escape.IsLongest body next)
    (h : Agrees decoded (value? next)) : ∃ us, Escape.bodyValue body = .ok us ∧
      Agrees (us ++ decoded) (value? ('\\' :: (body ++ next))) := by
  cases hlongest.isBody with
  | @char c hx hu hoctal =>
    refine ⟨_, Escape.bodyValue_char hx hu hoctal, ?_⟩
    have hfeed : c = '\r' → next.head? ≠ some '\n' := by
      rintro rfl
      exact hlongest.not_lineFeed
    have hread := StringValue.escape?_char hx hu hoctal hfeed
    rw [List.singleton_append, StringValue.value?_escape hread]
    split
    · exact h.append []
    · exact h.cons_units (single c)
  | octal hne hlength hdigits =>
    refine ⟨_, Escape.bodyValue_octal hne hlength hdigits, ?_⟩
    obtain ⟨c, digits, rfl⟩ := List.exists_cons_of_ne_nil hne
    have hthree : StringValue.octalWidth c = 3 ∨ StringValue.octalWidth c = 2 := by
      unfold StringValue.octalWidth
      split
      · exact .inl rfl
      · exact .inr rfl
    rw [List.length_cons] at hlength
    -- the language reads all digits, except for three from `4` on
    by_cases hwidth : digits.length < StringValue.octalWidth c
    · have hend : digits.length + 1 = StringValue.octalWidth c ∨
          ∀ d rest, next = d :: rest → StringValue.isOctalDigit d = false := by
        by_cases hfull : digits.length + 1 = StringValue.octalWidth c
        · exact .inl hfull
        · have hshort : (c :: digits).length < 3 := by
            rw [List.length_cons]
            omega
          exact .inr fun d rest hnext => hlongest.not_octal hdigits hshort hnext
      have hread := StringValue.escape?_octal hdigits hwidth hend
      show Agrees (octalNumber (c :: digits) :: decoded) (value? ('\\' :: c :: (digits ++ next)))
      rw [StringValue.value?_escape hread]
      exact h.cons_units _
    · obtain ⟨d, e, rfl⟩ := List.length_eq_two.1 (show digits.length = 2 by omega)
      have htwo : StringValue.octalWidth c = 2 := by
        rw [List.length_cons, List.length_cons, List.length_nil] at hwidth
        omega
      exact wideOctal hdigits htwo decoded next
  | @hex digits hlength hdigits =>
    have hne : digits ≠ [] := List.ne_nil_of_length_eq_add_one hlength
    refine ⟨_, Escape.bodyValue_fixed (.inl rfl) hne (by omega) hdigits, ?_⟩
    have hread : escape? ('x' :: (digits ++ next)) = _ :=
      StringValue.fixedHex?_append hlength hdigits next
    show Agrees (hexNumber digits :: decoded) (value? ('\\' :: 'x' :: (digits ++ next)))
    rw [StringValue.value?_escape hread]
    exact h.cons_units _
  | @unicode digits hlength hdigits =>
    have hne : digits ≠ [] := List.ne_nil_of_length_eq_add_one hlength
    refine ⟨_, Escape.bodyValue_fixed (.inr rfl) hne (by omega) hdigits, ?_⟩
    show Agrees (hexNumber digits :: decoded) (value? ('\\' :: 'u' :: (digits ++ next)))
    rw [StringValue.value?_escape (StringValue.escape?_unicode hlength hdigits next)]
    exact h.cons_units _
  | @codePoint digits hne hdigits =>
    refine ⟨_, Escape.bodyValue_codePoint hne hdigits, ?_⟩
    have hread : escape? ('u' :: '\x7b' :: (digits ++ ['\x7d']) ++ next) =
        if hexNumber digits ≤ 0x10FFFF then some (units (hexNumber digits), next) else none := by
      rw [List.cons_append, List.cons_append, List.append_assoc]
      exact StringValue.bracedHex?_append hne hdigits next
    split
    · rename_i hle
      rw [if_pos hle] at hread
      rw [StringValue.value?_escape hread]
      exact h.cons_units _
    · rename_i hle
      rw [if_neg hle] at hread
      rw [StringValue.value?_escape_none hread]
      refine of_not_isWord (fun hword => ?_) (fun v hv => by cases hv)
      exact absurd (hword '\x7b'.toNat (by simp [Escape.codePoints])) (by decide)
  | lineEnd =>
    have hread : escape? ('\r' :: '\n' :: next) = some ([], next) := rfl
    refine ⟨[], rfl, ?_⟩
    show Agrees decoded (value? ('\\' :: '\r' :: '\n' :: next))
    rw [StringValue.value?_escape hread]
    exact h.append []

end Agrees

/-! ## Literals -/

namespace ValidTypeof

/-- The characters of a literal, from its parts. -/
def content (source : Bytes) (parts : List Node) : List Char :=
  parts.flatMap fun n => (n.text source).toList

/-- Whether the parts of a literal are texts without a backslash and escapes of the grammar, each the
longest that begins at its backslash. -/
inductive IsTokenized (source : Bytes) : List Node → Prop
  | nil : IsTokenized source []
  | fragment {n : Node} {rest : List Node} : n.kind ≠ "escape_sequence" →
      '\\' ∉ (n.text source).toList → IsTokenized source rest → IsTokenized source (n :: rest)
  | escape {n : Node} {body : List Char} {rest : List Node} : n.kind = "escape_sequence" →
      (n.text source).toList = '\\' :: body → Escape.IsLongest body (content source rest) →
      IsTokenized source rest → IsTokenized source (n :: rest)

/-- The parts of a literal have values, which join to what the language reads as far as words go. -/
theorem partValues_agree {source : Bytes} {parts : List Node} (h : IsTokenized source parts) :
    ∃ values, parts.mapM (partValue source) = .ok values ∧
      Agrees values.flatten (value? (content source parts)) := by
  -- by induction from the last part on, since an escape depends on the text after it
  induction h with
  | nil => exact ⟨[], rfl, by rw [content, List.flatMap_nil, StringValue.value?_nil]; exact .refl []⟩
  | @fragment n rest hkind hslash _ ih =>
    obtain ⟨values, hvalues, hagrees⟩ := ih
    have hpart : partValue source n = .ok (Escape.codePoints (n.text source).toList) := by
      rw [partValue, if_neg (by simpa using hkind)]
    refine ⟨_ :: values, ?_, hagrees.fragment hslash⟩
    rw [List.mapM_cons, hpart, hvalues]
    rfl
  | @escape n body rest hkind htext hlongest _ ih =>
    obtain ⟨values, hvalues, hagrees⟩ := ih
    obtain ⟨us, hbody, hread⟩ := hagrees.escape hlongest
    have hpart : partValue source n = .ok us := by
      rw [partValue, if_pos (by simp [hkind]), Escape.value, htext]
      exact hbody
    refine ⟨us :: values, ?_, ?_⟩
    · rw [List.mapM_cons, hpart, hvalues]
      rfl
    · rw [content, List.flatMap_cons, htext]
      exact hread

/-- Names of types are words. -/
theorem isWord_typeNames : ∀ name ∈ typeNames, IsWord (Escape.codePoints name.toList) ∧
    Escape.codePoints name.toList = unitsOf name.toList := by
  unfold IsWord
  decide

/-- A literal has a decoded value, and this is the name of a type exactly if the value that the
language gives to the literal is one. -/
theorem literalValue_isTypeName {source : Bytes} {n : Node} (h : IsTokenized source n.namedChildren) :
    ∃ decoded, literalValue source n = .ok decoded ∧ (isTypeName decoded = true ↔
      ∃ name ∈ typeNames, value? (content source n.namedChildren) = some (unitsOf name.toList)) := by
  obtain ⟨values, hvalues, hagrees⟩ := partValues_agree h
  refine ⟨values.flatten, by rw [literalValue, hvalues]; rfl, ?_⟩
  rw [isTypeName, List.any_eq_true]
  constructor
  · rintro ⟨name, hname, heq⟩
    obtain ⟨hword, hunits⟩ := isWord_typeNames name hname
    refine ⟨name, hname, ?_⟩
    rw [← hunits]
    exact (hagrees _ hword).1 (beq_iff_eq.1 heq).symm
  · rintro ⟨name, hname, hvalue⟩
    obtain ⟨hword, hunits⟩ := isWord_typeNames name hname
    refine ⟨name, hname, ?_⟩
    rw [← hunits] at hvalue
    exact beq_iff_eq.2 ((hagrees _ hword).2 hvalue).symm

end ValidTypeof

end ScriptLint

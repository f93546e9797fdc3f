/-
The escapes of the grammar and what the rule about `typeof` decodes them to. An escape is the longest
that begins at its backslash exactly if it is no short octal escape before an octal digit and no
carriage return before a line feed (`isLongest_iff`). No escape makes the decoder fail, and each kind
has its own law of what comes out.
-/
import ScriptLint.Proofs.Rule.StringValue
import ScriptLint.Proofs.Text.Trim
import ScriptLint.Rule.Escape

namespace ScriptLint

namespace Escape

open StringValue

/-! ## Forgiving numbers -/

theorem isSpace_of_isHexDigit {c : Char} (h : isHexDigit c = true) : Text.isSpace c = false := by
  rw [isHexDigit_iff] at h
  simp [Text.isSpace]
  omega

theorem underscored?_digits {digits : List Char} (h : ∀ d ∈ digits, isHexDigit d = true)
    (acc : Nat) : underscored? false acc digits =
      some (digits.foldl (fun n c => n * 16 + (Text.hexValue? c).getD 0) acc) := by
  induction digits generalizing acc with
  | nil => rfl
  | cons c rest ih =>
    have hc := h c (by simp)
    obtain ⟨d, hd⟩ := Option.isSome_iff_exists.1 hc
    have hunderscore := ne_of_class hc (d := '_') (by decide)
    rw [underscored?, if_neg hunderscore, digitValue?, hd, List.foldl_cons, hd]
    exact ih (fun d hd => h d (by simp [hd])) _

theorem afterPrefix_digits {digits : List Char} (h : ∀ d ∈ digits, isHexDigit d = true) :
    afterPrefix digits = digits := by
  unfold afterPrefix
  split
  · rename_i z x rest
    have hx := h x (by simp)
    rw [if_neg]
    rintro ⟨-, rfl | rfl⟩ <;> exact absurd hx (by decide)
  · rfl

/-- Digits without signs, blanks and underscores are read as they are. -/
theorem hexNumber?_digits {digits : List Char} (hne : digits ≠ [])
    (h : ∀ d ∈ digits, isHexDigit d = true) : hexNumber? digits = some (hexNumber digits : Int) := by
  obtain ⟨c, rest, rfl⟩ := List.exists_cons_of_ne_nil hne
  have hc := h c (by simp)
  -- an underscore could not come first, but no digit is one
  have hstart : underscored? true 0 (c :: rest) = some (hexNumber (c :: rest)) := by
    have hunderscore := ne_of_class hc (d := '_') (by decide)
    rw [hexNumber, ← underscored?_digits h 0, underscored?, underscored?, if_neg hunderscore,
      if_neg hunderscore]
  have htrim := Text.trimBy_eq_self fun d hd => isSpace_of_isHexDigit (h d hd)
  unfold hexNumber?
  rw [htrim]
  split
  · rename_i heq
    exact absurd (List.cons.inj heq).1 (ne_of_class hc (by decide))
  · rename_i heq
    exact absurd (List.cons.inj heq).1 (ne_of_class hc (by decide))
  · rw [afterPrefix_digits h, hstart]
    rfl

/-- Digits stand for their code point, if there is one. -/
theorem hexEscape_digits {digits : List Char} (hne : digits ≠ [])
    (h : ∀ d ∈ digits, isHexDigit d = true) (body : List Char) :
    hexEscape digits body =
      if hexNumber digits ≤ 0x10FFFF then [hexNumber digits] else codePoints body := by
  rw [hexEscape, hexNumber?_digits hne h]
  dsimp only
  by_cases hle : hexNumber digits ≤ 0x10FFFF
  · rw [if_pos hle, if_pos ⟨Int.natCast_nonneg _, Int.ofNat_le.2 hle⟩, Int.toNat_natCast]
  · rw [if_neg hle, if_neg fun hboth => hle (Int.ofNat_le.1 hboth.2)]

/-! ## Tokens -/

/-- The texts that the grammar takes for an escape after a backslash. -/
inductive IsBody : List Char → Prop
  | char {c : Char} : c ≠ 'x' → c ≠ 'u' → StringValue.isOctalDigit c = false → IsBody [c]
  | octal {digits : List Char} : digits ≠ [] → digits.length ≤ 3 →
      (∀ d ∈ digits, StringValue.isOctalDigit d = true) → IsBody digits
  | hex {digits : List Char} : digits.length = 2 → (∀ d ∈ digits, isHexDigit d = true) →
      IsBody ('x' :: digits)
  | unicode {digits : List Char} : digits.length = 4 → (∀ d ∈ digits, isHexDigit d = true) →
      IsBody ('u' :: digits)
  | codePoint {digits : List Char} : digits ≠ [] → (∀ d ∈ digits, isHexDigit d = true) →
      IsBody ('u' :: '\x7b' :: (digits ++ ['\x7d']))
  | lineEnd : IsBody ['\r', '\n']

/-- Whether an escape is the longest that the text from the backslash on begins with. -/
structure IsLongest (body next : List Char) : Prop where
  isBody : IsBody body
  longest : ∀ longer, IsBody longer → longer <+: body ++ next → longer.length ≤ body.length

/-- No further octal digit comes after an escape of fewer than three. -/
theorem IsLongest.not_octal {digits next : List Char} (h : IsLongest digits next)
    (hdigits : ∀ d ∈ digits, StringValue.isOctalDigit d = true) (hlength : digits.length < 3)
    {c : Char} {rest : List Char} (hnext : next = c :: rest) :
    StringValue.isOctalDigit c = false := by
  cases hc : StringValue.isOctalDigit c with
  | false => rfl
  | true =>
    have hbody : IsBody (digits ++ [c]) := by
      refine .octal (by simp) (by rwa [List.length_append, List.length_singleton]) fun d hd => ?_
      rcases List.mem_append.1 hd with hd | hd
      · exact hdigits d hd
      · rwa [List.mem_singleton.1 hd]
    have hle := h.longest _ hbody ⟨rest, by simp [hnext]⟩
    rw [List.length_append, List.length_singleton] at hle
    omega

/-- No line feed comes after a carriage return that is an escape of its own. -/
theorem IsLongest.not_lineFeed {next : List Char} (h : IsLongest ['\r'] next) :
    next.head? ≠ some '\n' := by
  intro hhead
  obtain ⟨rest, rfl⟩ := List.head?_eq_some_iff.1 hhead
  have hle := h.longest _ .lineEnd ⟨rest, rfl⟩
  exact absurd hle (by decide)

theorem IsBody.ne_nil {body : List Char} (h : IsBody body) : body ≠ [] := by
  cases h with
  | octal hne => exact hne
  | _ => exact List.cons_ne_nil _ _

theorem IsBody.length_x {rest : List Char} (h : IsBody ('x' :: rest)) : rest.length = 2 := by
  cases h with
  | char hx => exact absurd rfl hx
  | octal _ _ hdigits => exact absurd (hdigits 'x' List.mem_cons_self) (by decide)
  | hex hlength => exact hlength

theorem IsBody.digits_u {rest : List Char} (h : IsBody ('u' :: rest)) :
    (rest.length = 4 ∧ ∀ d ∈ rest, isHexDigit d = true) ∨
      ∃ digits, rest = '\x7b' :: (digits ++ ['\x7d']) ∧ ∀ d ∈ digits, isHexDigit d = true := by
  cases h with
  | char _ hu => exact absurd rfl hu
  | octal _ _ hdigits => exact absurd (hdigits 'u' List.mem_cons_self) (by decide)
  | unicode hlength hdigits => exact .inl ⟨hlength, hdigits⟩
  | codePoint _ hdigits => exact .inr ⟨_, rfl, hdigits⟩

/-- No escape that begins with `u` goes on as another one. -/
theorem IsBody.eq_nil_of_u {rest tail : List Char} (h : IsBody ('u' :: rest))
    (hlonger : IsBody ('u' :: (rest ++ tail))) : tail = [] := by
  have hbrace : ∀ d, isHexDigit d = true → d ≠ '\x7b' ∧ d ≠ '\x7d' := fun d hd =>
    ⟨ne_of_class hd (by decide), ne_of_class hd (by decide)⟩
  rcases h.digits_u with ⟨hfour, hdigits⟩ | ⟨digits, rfl, hdigits⟩ <;>
    rcases hlonger.digits_u with ⟨hfour', hdigits'⟩ | ⟨digits', heq, hdigits'⟩
  · rw [List.length_append] at hfour'
    exact List.length_eq_zero_iff.1 (by omega)
  · obtain ⟨d, rest, rfl⟩ := List.exists_cons_of_length_eq_add_one hfour
    exact absurd (List.cons.inj heq).1 (hbrace d (hdigits d List.mem_cons_self)).1
  · exact absurd rfl (hbrace '\x7b' (hdigits' _ (by simp))).1
  · -- the first closing brace ends both
    rw [List.cons_append, List.append_assoc, List.cons.injEq] at heq
    by_contra hne
    have hwhole : digits ++ ['\x7d'] <+: digits' ++ ['\x7d'] :=
      ⟨tail, by rw [List.append_assoc]; exact heq.2⟩
    have hwithin : digits ++ ['\x7d'] <+: digits' := by
      refine List.prefix_of_prefix_length_le hwhole (List.prefix_append _ _) ?_
      · have hlength := congrArg List.length heq.2
        have hpos := List.length_pos_iff.2 hne
        simp only [List.length_append, List.length_singleton] at hlength ⊢
        omega
    exact (hbrace '\x7d' (hdigits' _ (hwithin.subset (by simp)))).2 rfl

/-- An escape is the longest one unless it is a short octal escape before an octal digit or a carriage
return before a line feed. -/
theorem isLongest_iff {body next : List Char} : IsLongest body next ↔ IsBody body ∧
    ((∀ d ∈ body, StringValue.isOctalDigit d = true) → body.length < 3 →
      ∀ c rest, next = c :: rest → StringValue.isOctalDigit c = false) ∧
    (body = ['\r'] → next.head? ≠ some '\n') := by
  constructor
  · intro h
    refine ⟨h.isBody, fun hdigits hlength c rest hnext => h.not_octal hdigits hlength hnext, ?_⟩
    rintro rfl
    exact h.not_lineFeed
  rintro ⟨hbody, hoctal, hline⟩
  refine ⟨hbody, fun longer hlonger hprefix => ?_⟩
  by_contra hlt
  rw [Nat.not_le] at hlt
  -- a longer escape is this one with more characters, which the text after it begins with
  obtain ⟨tail, rfl⟩ := List.prefix_of_prefix_length_le (List.prefix_append body next) hprefix
    (Nat.le_of_lt hlt)
  rw [List.prefix_append_right_inj] at hprefix
  have htail : tail ≠ [] := by
    rintro rfl
    simp at hlt
  obtain ⟨d, tail, rfl⟩ := List.exists_cons_of_ne_nil htail
  obtain ⟨c, rest, rfl⟩ := List.exists_cons_of_ne_nil hbody.ne_nil
  obtain ⟨after, hafter⟩ := hprefix
  rw [List.cons_append] at hlonger
  generalize hr : rest ++ d :: tail = r at hlonger
  cases hlonger with
  | char => simp at hr
  | octal _ hlength hdigits =>
    subst hr
    have hshort : ∀ x ∈ c :: rest, StringValue.isOctalDigit x = true := fun x hx =>
      hdigits x (by rw [← List.cons_append]; exact List.mem_append_left _ hx)
    have hd := hoctal hshort (by simp at hlength ⊢; omega) d (tail ++ after) hafter.symm
    exact absurd ((hdigits d (by simp)).symm.trans hd) (by decide)
  | hex hlength =>
    subst hr
    have hrest := hbody.length_x
    simp at hlength
    omega
  | unicode hlength hdigits =>
    subst hr
    exact htail (hbody.eq_nil_of_u (.unicode hlength hdigits))
  | codePoint hne hdigits =>
    exact htail (hbody.eq_nil_of_u (hr ▸ .codePoint hne hdigits))
  | lineEnd =>
    obtain ⟨rfl, hd⟩ : rest = [] ∧ d = '\n' := by
      cases rest with
      | nil => exact ⟨rfl, (List.cons.inj hr).1⟩
      | cons => simp at hr
    exact hline rfl (by rw [← hafter, hd]; rfl)

theorem isLongest_of_length {body next : List Char} (hbody : IsBody body)
    (h : 3 ≤ body.length) : IsLongest body next := by
  refine isLongest_iff.2 ⟨hbody, fun _ hlt => absurd h (Nat.not_le.2 hlt), ?_⟩
  rintro rfl
  exact absurd h (by decide)

/-! ## What is decoded -/

theorem letterEscape?_getD (c : Char) : (letterEscape? c).getD c.toNat = single c := by
  unfold letterEscape?
  by_cases hmem : c ∈ StringValue.controls.map (·.1)
  · simp only [StringValue.controls, List.map_cons, List.map_nil, List.mem_cons, List.not_mem_nil,
      or_false] at hmem
    rcases hmem with rfl | rfl | rfl | rfl | rfl | rfl <;> rfl
  · -- a character outside of the table stands for itself on both sides
    have hnone : StringValue.controls.find? (fun e => e.1 == c) = none := by
      rw [List.find?_eq_none]
      rintro e he heq
      exact hmem (List.mem_map.2 ⟨e, he, beq_iff_eq.1 heq⟩)
    have hletters : c ≠ 'b' ∧ c ≠ 'f' ∧ c ≠ 'n' ∧ c ≠ 'r' ∧ c ≠ 't' ∧ c ≠ 'v' := by
      refine ⟨?_, ?_, ?_, ?_, ?_, ?_⟩ <;> (rintro rfl; exact hmem (by decide))
    obtain ⟨hb, hf, hn, hr, ht, hv⟩ := hletters
    rw [single, hnone, if_neg hb, if_neg hf, if_neg hn, if_neg hr, if_neg ht, if_neg hv]
    rfl

theorem not_braced {c : Char} (h : c ≠ 'u') (rest : List Char) :
    ¬((c :: rest).take 2 = ['u', '\x7b'] ∧ (c :: rest).getLast? = some '\x7d') := by
  rintro ⟨htake, -⟩
  exact h (List.cons.inj htake).1

theorem not_hexadecimal {c : Char} (hx : c ≠ 'x') (hu : c ≠ 'u') (rest : List Char) :
    ¬(((c :: rest).head? = some 'x' ∨ (c :: rest).head? = some 'u') ∧ 1 < (c :: rest).length) := by
  rintro ⟨h | h, -⟩
  · exact hx (Option.some.inj h)
  · exact hu (Option.some.inj h)

theorem contains_lineContinuations (c : Char) :
    lineContinuations.contains [c] = decide (c ∈ lineEnds) := by
  simp [lineContinuations, lineEnds]

/-- A single character ends a line or stands for itself or a control character. -/
theorem bodyValue_char {c : Char} (hx : c ≠ 'x') (hu : c ≠ 'u')
    (hoctal : StringValue.isOctalDigit c = false) :
    bodyValue [c] = .ok (if c ∈ lineEnds then [] else [single c]) := by
  have hdigit : ¬([c] ≠ [] ∧ [c].all isOctalDigit) := by
    rintro ⟨-, h⟩
    have hc : isOctalDigit c = true := by simpa using h
    exact absurd (hc.symm.trans hoctal) (by decide)
  unfold bodyValue
  rw [if_neg (not_braced hu []), if_neg (not_hexadecimal hx hu []), if_neg hdigit,
    contains_lineContinuations]
  dsimp only
  rw [letterEscape?_getD]
  by_cases hline : c ∈ lineEnds <;> simp [hline]

theorem bodyValue_octal {digits : List Char} (hne : digits ≠ []) (hlength : digits.length ≤ 3)
    (h : ∀ d ∈ digits, StringValue.isOctalDigit d = true) :
    bodyValue digits = .ok [octalNumber digits] := by
  obtain ⟨c, rest, rfl⟩ := List.exists_cons_of_ne_nil hne
  have hc := h c List.mem_cons_self
  have hx : c ≠ 'x' := ne_of_class hc (by decide)
  have hu : c ≠ 'u' := ne_of_class hc (by decide)
  have hall : (c :: rest).all isOctalDigit = true := List.all_eq_true.2 h
  -- three digits stay below the bound from which on there is no character
  have hlt : octalNumber (c :: rest) < 8 ^ 3 :=
    Nat.lt_of_lt_of_le (octalNumber_lt h) (Nat.pow_le_pow_right (by decide) hlength)
  have hle : octalNumber (c :: rest) ≤ maxCodePoint := by
    unfold maxCodePoint
    omega
  have hnumber : (c :: rest).foldl (fun n c => 8 * n + (c.toNat - 0x30)) 0 =
      octalNumber (c :: rest) := by
    simp only [octalNumber, Nat.mul_comm]
    rfl
  unfold bodyValue
  rw [if_neg (not_braced hu rest), if_neg (not_hexadecimal hx hu rest), if_pos ⟨hne, hall⟩,
    octalEscape, hnumber]
  exact if_pos hle

/-- The two digits of `\x` and the four of `\u` are the code point of one unit. -/
theorem bodyValue_fixed {letter : Char} (hletter : letter = 'x' ∨ letter = 'u')
    {digits : List Char} (hne : digits ≠ []) (hlength : digits.length ≤ 4)
    (h : ∀ d ∈ digits, isHexDigit d = true) :
    bodyValue (letter :: digits) = .ok [hexNumber digits] := by
  have hbrace : ¬((letter :: digits).take 2 = ['u', '\x7b'] ∧
      (letter :: digits).getLast? = some '\x7d') := by
    obtain ⟨d, rest, rfl⟩ := List.exists_cons_of_ne_nil hne
    rintro ⟨htake, -⟩
    exact ne_of_class (h d (by simp)) (by decide) (List.cons.inj (List.cons.inj htake).2).1
  have hhead : ((letter :: digits).head? = some 'x' ∨ (letter :: digits).head? = some 'u') ∧
      1 < (letter :: digits).length := by
    refine ⟨hletter.imp (congrArg some) (congrArg some), ?_⟩
    exact Nat.succ_lt_succ (List.length_pos_iff.2 hne)
  have hlt : hexNumber digits < 16 ^ 4 :=
    Nat.lt_of_lt_of_le (hexNumber_lt digits) (Nat.pow_le_pow_right (by decide) hlength)
  unfold bodyValue
  rw [if_neg hbrace, if_pos hhead, List.tail_cons, hexEscape_digits hne h, if_pos (by omega)]

theorem bodyValue_codePoint {digits : List Char} (hne : digits ≠ [])
    (h : ∀ d ∈ digits, isHexDigit d = true) :
    bodyValue ('u' :: '\x7b' :: (digits ++ ['\x7d'])) =
      .ok (if hexNumber digits ≤ 0x10FFFF then [hexNumber digits]
        else codePoints ('u' :: '\x7b' :: (digits ++ ['\x7d']))) := by
  have hlast : ('u' :: '\x7b' :: (digits ++ ['\x7d'])).getLast? = some '\x7d' :=
    List.getLast?_concat (l := 'u' :: '\x7b' :: digits)
  unfold bodyValue
  rw [if_pos ⟨rfl, hlast⟩]
  simp only [List.drop_succ_cons, List.drop_zero, List.dropLast_concat, hexEscape_digits hne h]

end Escape

end ScriptLint

/-
URLs of files. `Url.ofPath` writes a path as a URL; taking this apart gives the scheme `file` and
the path in percent escapes (`parse_ofPath`), and decoding these escapes once gives the path
(`unescape_escape`). A module specifier is decoded twice. That keeps a path without the text of an
escape in it (`unescape_eq_self`) and shortens any other (`length_unescape_lt`).
-/
import ScriptLint.Module.Url
import ScriptLint.Proofs.Text.Utf8
import Mathlib.Data.List.Infix
import Mathlib.Data.List.TakeWhile

namespace ScriptLint.Url

/-! ## Writing a path -/

/-- Whether a character stands for itself in the URL of a path. -/
def isPlain (c : Char) : Bool :=
  isAsciiLetter c || Json.isDigit c || c = '_' || c = '.' || c = '-' || c = '~' || c = '/'

/-- The digit for a value below sixteen, letters in upper case. -/
def upperHexDigit (n : Nat) : Char := Char.ofNat (if n < 10 then 0x30 + n else 0x37 + n)

/-- A byte of a path as it stands in a URL. -/
def escapeByte (b : UInt8) : List Char :=
  if isPlain (Char.ofNat b.toNat) then [Char.ofNat b.toNat]
  else ['%', upperHexDigit (b.toNat / 16), upperHexDigit (b.toNat % 16)]

/-- A path in percent escapes. -/
def escape (path : List Char) : List Char := (Utf8.encodeChars path).flatMap escapeByte

/-- The URL of the file at an absolute path. -/
def ofPath (path : List Char) : String := String.ofList ("file://".toList ++ escape path)

/-! ## The characters of a URL -/

theorem isPlain_upperHexDigit : ∀ n : Fin 16, isPlain (upperHexDigit n) = true := by decide

theorem hexValue?_upperHexDigit : ∀ n : Fin 16, Text.hexValue? (upperHexDigit n) = some n.val := by
  decide

theorem isPlain_or_of_mem_escapeByte {b : UInt8} {c : Char} (h : c ∈ escapeByte b) :
    isPlain c = true ∨ c = '%' := by
  have hlt := b.toNat_lt
  unfold escapeByte at h
  split at h
  · rename_i hplain
    rw [List.mem_singleton.1 h]
    exact .inl hplain
  · simp only [List.mem_cons, List.not_mem_nil, or_false] at h
    rcases h with rfl | rfl | rfl
    · exact .inr rfl
    · exact .inl (isPlain_upperHexDigit ⟨b.toNat / 16, by omega⟩)
    · exact .inl (isPlain_upperHexDigit ⟨b.toNat % 16, by omega⟩)

/-- Where the characters that stand for themselves lie. -/
theorem toNat_of_isPlain {c : Char} (h : isPlain c = true) :
    0x2D ≤ c.toNat ∧ c.toNat < 0x80 ∧ c.toNat ≠ 0x3F := by
  simp only [isPlain, isAsciiLetter, Json.isDigit, Bool.or_eq_true, Bool.and_eq_true,
    decide_eq_true_eq] at h
  rcases h with (((((h | h) | rfl) | rfl) | rfl) | rfl) | rfl
  · omega
  · omega
  all_goals decide

/-- The characters of an escaped path are ASCII; blanks, control characters and the delimiters of
URLs are not among them. -/
theorem toNat_of_mem_escape {path : List Char} {c : Char} (h : c ∈ escape path) :
    0x25 ≤ c.toNat ∧ c.toNat < 0x80 ∧ c.toNat ≠ 0x3F := by
  obtain ⟨b, -, hc⟩ := List.mem_flatMap.1 h
  rcases isPlain_or_of_mem_escapeByte hc with hplain | rfl
  · have := toNat_of_isPlain hplain
    omega
  · decide

theorem escape_slash (path : List Char) : escape ('/' :: path) = '/' :: escape path := by
  rw [escape, Utf8.encodeChars, List.flatMap_cons, Utf8.encodeChar_ascii (by decide)]
  rfl

/-! ## Taking a URL apart -/

theorem clean_eq_self {cs : List Char} (hfirst : ∀ c ∈ cs.head?, 0x20 < c.toNat)
    (h : ∀ c ∈ cs, c ≠ '\t' ∧ c ≠ '\r' ∧ c ≠ '\n') : clean cs = cs := by
  have hdrop : cs.dropWhile (fun c => c.toNat ≤ 0x20) = cs := by
    cases cs with
    | nil => rfl
    | cons c rest =>
      have := hfirst c rfl
      rw [List.dropWhile_cons_of_neg (by simpa using this)]
  rw [clean, hdrop, List.filter_eq_self]
  intro c hc
  simpa [and_assoc] using h c hc

theorem splitScheme_file (rest : List Char) :
    splitScheme ("file://".toList ++ rest) = ("file".toList, '/' :: '/' :: rest) := rfl

theorem splitHost_path (path : List Char) :
    splitHost ('/' :: '/' :: '/' :: path) = ([], '/' :: path) := rfl

theorem checkHost_nil : checkHost [] = .ok () := rfl

theorem parse_of_splits {text : String} {scheme rest netloc path : List Char}
    (hscheme : splitScheme (clean text.toList) = (scheme, rest))
    (hhost : splitHost rest = (netloc, path)) (hcheck : checkHost netloc = .ok ()) :
    parse text = .ok
      { scheme := String.ofList scheme, path := path.takeWhile fun c => c ≠ '#' && c ≠ '?' } := by
  unfold parse
  rw [hscheme]
  simp only [hhost, hcheck]
  rfl

/-- The URL of a path from the root has the scheme `file`, no host, and the escaped path. -/
theorem parse_ofPath (path : List Char) :
    parse (ofPath ('/' :: path)) = .ok { scheme := "file", path := escape ('/' :: path) } := by
  have hclean : clean ("file://".toList ++ escape ('/' :: path)) =
      "file://".toList ++ escape ('/' :: path) := by
    have hstart : ∀ c ∈ "file://".toList, c ≠ '\t' ∧ c ≠ '\r' ∧ c ≠ '\n' := by simp
    refine clean_eq_self (fun c hc => ?_) fun c hc => ?_
    · obtain rfl : 'f' = c := Option.some.inj hc
      decide
    · rcases List.mem_append.1 hc with hc | hc
      · exact hstart c hc
      · have := toNat_of_mem_escape hc
        refine ⟨?_, ?_, ?_⟩ <;> rintro rfl <;> simp at this
  have hpath : (escape ('/' :: path)).takeWhile (fun c => c ≠ '#' && c ≠ '?') =
      escape ('/' :: path) := by
    rw [List.takeWhile_eq_self_iff]
    intro c hc
    have := toNat_of_mem_escape hc
    have hhash : c ≠ '#' := by rintro rfl; simp at this
    have hmark : c ≠ '?' := by rintro rfl; simp at this
    simp [hhash, hmark]
  have hsplit : splitScheme (clean (ofPath ('/' :: path)).toList) =
      ("file".toList, '/' :: '/' :: '/' :: escape path) := by
    have htext : (ofPath ('/' :: path)).toList = "file://".toList ++ escape ('/' :: path) :=
      String.toList_ofList
    rw [htext, hclean, escape_slash]
    exact splitScheme_file _
  rw [parse_of_splits hsplit (splitHost_path _) checkHost_nil, ← escape_slash, hpath,
    String.ofList_toList]

/-! ## Decoding once -/

theorem unescapeBytes_plain {c : Char} (h : c ≠ '%') (rest : List Char) :
    unescapeBytes (c :: rest) = UInt8.ofNat c.toNat :: unescapeBytes rest :=
  (unescapeBytes.eq_def _).trans (if_neg h)

theorem unescapeBytes_escapeByte (b : UInt8) (rest : List Char) :
    unescapeBytes (escapeByte b ++ rest) = b :: unescapeBytes rest := by
  have hlt := b.toNat_lt
  unfold escapeByte
  split
  · rename_i hplain
    have hne : Char.ofNat b.toNat ≠ '%' := by
      intro e
      rw [e] at hplain
      exact absurd hplain (by decide)
    have hvalid : b.toNat.isValidChar := .inl (by omega)
    have hnat : (Char.ofNat b.toNat).toNat = b.toNat := by
      rw [Char.ofNat, dif_pos hvalid]
      rfl
    rw [List.singleton_append, unescapeBytes_plain hne, hnat, UInt8.ofNat_toNat]
  · have hhigh := hexValue?_upperHexDigit ⟨b.toNat / 16, by omega⟩
    have hlow := hexValue?_upperHexDigit ⟨b.toNat % 16, by omega⟩
    have hvalue : 16 * (b.toNat / 16) + b.toNat % 16 = b.toNat := by omega
    simp only [List.cons_append, List.nil_append, unescapeBytes, if_pos, hhigh, hlow, hvalue,
      UInt8.ofNat_toNat]

theorem unescapeBytes_flatMap (bytes : Bytes) :
    unescapeBytes (bytes.flatMap escapeByte) = bytes := by
  induction bytes with
  | nil => rfl
  | cons b rest ih => rw [List.flatMap_cons, unescapeBytes_escapeByte, ih]

theorem unescapeFrom_ascii (run : List Char) {cs : List Char} (h : ∀ c ∈ cs, isAscii c = true) :
    unescapeFrom run cs = (Utf8.decodeLossy (unescapeBytes (run.reverse ++ cs))).toList := by
  induction cs generalizing run with
  | nil => rw [unescapeFrom, List.append_nil]
  | cons c rest ih =>
    obtain ⟨hc, hrest⟩ := List.forall_mem_cons.1 h
    rw [unescapeFrom, if_pos hc, ih _ hrest, List.reverse_cons, List.append_assoc,
      List.singleton_append]

/-- An escaped path is decoded to the path. -/
theorem unescape_escape (path : List Char) : unescape (escape path) = path := by
  have hascii : ∀ c ∈ escape path, isAscii c = true := fun c hc =>
    decide_eq_true (toNat_of_mem_escape hc).2.1
  rw [unescape, unescapeFrom_ascii [] hascii, List.reverse_nil, List.nil_append, escape,
    unescapeBytes_flatMap, Utf8.decodeLossy_encodeChars, String.toList_ofList]

/-! ## Decoding once more -/

/-- Whether a text holds a percent sign with two hexadecimal digits after it. -/
def HasEscape (cs : List Char) : Prop :=
  ∃ a b, (Text.hexValue? a).isSome ∧ (Text.hexValue? b).isSome ∧ ['%', a, b] <:+: cs

theorem HasEscape.mono {first second : List Char} (h : HasEscape first)
    (hpart : first <:+: second) : HasEscape second := by
  obtain ⟨a, b, ha, hb, h⟩ := h
  exact ⟨a, b, ha, hb, h.trans hpart⟩

theorem hasEscape_cons_iff {c : Char} {rest : List Char} :
    HasEscape (c :: rest) ↔
      (c = '%' ∧ ∃ a b rest', rest = a :: b :: rest' ∧ (Text.hexValue? a).isSome ∧
        (Text.hexValue? b).isSome) ∨ HasEscape rest := by
  constructor
  · rintro ⟨a, b, ha, hb, h⟩
    rcases List.infix_cons_iff.1 h with ⟨rest', h⟩ | h
    · simp only [List.cons_append, List.nil_append, List.cons.injEq] at h
      obtain ⟨rfl, rfl⟩ := h
      exact .inl ⟨rfl, a, b, rest', rfl, ha, hb⟩
    · exact .inr ⟨a, b, ha, hb, h⟩
  · rintro (⟨rfl, a, b, rest', rfl, ha, hb⟩ | h)
    · exact ⟨a, b, ha, hb, ⟨[], rest', rfl⟩⟩
    · exact h.mono (List.suffix_cons ..).isInfix

theorem not_hasEscape_nil : ¬HasEscape [] := by
  rintro ⟨a, b, -, -, h⟩
  simpa using h.length_le

theorem isAscii_of_hexValue? {c : Char} (h : (Text.hexValue? c).isSome) : isAscii c = true := by
  refine decide_eq_true ?_
  unfold Text.hexValue? at h
  by_contra hc
  rw [if_neg (by omega), if_neg (by omega), if_neg (by omega)] at h
  cases h

/-- An escape does not go across a character that is not ASCII. -/
theorem HasEscape.split {first rest : List Char} {c : Char} (hc : ¬isAscii c = true)
    (h : HasEscape (first ++ c :: rest)) : HasEscape first ∨ HasEscape rest := by
  induction first with
  | nil =>
    rcases hasEscape_cons_iff.1 h with ⟨rfl, -⟩ | h
    · exact absurd rfl hc
    · exact .inr h
  | cons d first ih =>
    rcases hasEscape_cons_iff.1 h with ⟨rfl, a, b, rest', hsplit, ha, hb⟩ | h
    · -- both digits stand before the character
      rcases first with _ | ⟨x, _ | ⟨y, first⟩⟩
      · have := (List.cons.inj hsplit).1
        exact absurd (isAscii_of_hexValue? ha) (this ▸ hc)
      · have := (List.cons.inj (List.cons.inj hsplit).2).1
        exact absurd (isAscii_of_hexValue? hb) (this ▸ hc)
      · have hx := (List.cons.inj hsplit).1
        have hy := (List.cons.inj (List.cons.inj hsplit).2).1
        rw [← hx] at ha
        rw [← hy] at hb
        exact .inl (hasEscape_cons_iff.2 (.inl ⟨rfl, x, y, first, rfl, ha, hb⟩))
    · exact (ih h).imp_left fun h => h.mono (List.suffix_cons ..).isInfix

theorem unescapeBytes_of_not_hasEscape {cs : List Char} (hascii : ∀ c ∈ cs, isAscii c = true)
    (h : ¬HasEscape cs) : unescapeBytes cs = Utf8.encodeChars cs := by
  have hchar : ∀ {c : Char} (rest : List Char), isAscii c = true →
      Utf8.encodeChars (c :: rest) = UInt8.ofNat c.toNat :: Utf8.encodeChars rest := by
    intro c rest hc
    rw [Utf8.encodeChars, List.flatMap_cons, Utf8.encodeChar_ascii (of_decide_eq_true hc)]
    rfl
  fun_induction unescapeBytes cs with
  | case1 => rfl
  | case2 a b rest x y hb ha _ =>
    have ha : (Text.hexValue? a).isSome := by rw [ha]; rfl
    have hb : (Text.hexValue? b).isSome := by rw [hb]; rfl
    exact absurd (hasEscape_cons_iff.2 (.inl ⟨rfl, a, b, rest, rfl, ha, hb⟩)) h
  | case3 a b rest _ ih =>
    obtain ⟨hc, hrest⟩ := List.forall_mem_cons.1 hascii
    rw [hchar _ hc, ih hrest fun h' => h (hasEscape_cons_iff.2 (.inr h'))]
    rfl
  | case4 rest _ ih =>
    obtain ⟨hc, hrest⟩ := List.forall_mem_cons.1 hascii
    rw [hchar _ hc, ih hrest fun h' => h (hasEscape_cons_iff.2 (.inr h'))]
    rfl
  | case5 c rest _ ih =>
    obtain ⟨hc, hrest⟩ := List.forall_mem_cons.1 hascii
    rw [hchar _ hc, ih hrest fun h' => h (hasEscape_cons_iff.2 (.inr h'))]

theorem length_unescapeBytes_le (cs : List Char) : (unescapeBytes cs).length ≤ cs.length := by
  fun_induction unescapeBytes cs <;> simp only [List.length_nil, List.length_cons] at * <;> omega

theorem length_unescapeBytes_lt {cs : List Char} (h : HasEscape cs) :
    (unescapeBytes cs).length + 2 ≤ cs.length := by
  fun_induction unescapeBytes cs with
  | case1 => exact absurd h not_hasEscape_nil
  | case2 a b rest =>
    have := length_unescapeBytes_le rest
    simp only [List.length_cons]
    omega
  | case3 a b rest hnone ih =>
    rcases hasEscape_cons_iff.1 h with ⟨-, _, _, _, hsplit, ha, hb⟩ | h
    · rw [← (List.cons.inj hsplit).1] at ha
      rw [← (List.cons.inj (List.cons.inj hsplit).2).1] at hb
      obtain ⟨x, hx⟩ := Option.isSome_iff_exists.1 ha
      obtain ⟨y, hy⟩ := Option.isSome_iff_exists.1 hb
      exact (hnone x y hx hy).elim
    · have := ih h
      simp only [List.length_cons] at *
      omega
  | case4 rest hshort ih =>
    rcases hasEscape_cons_iff.1 h with ⟨-, a, b, rest', rfl, -⟩ | h
    · exact absurd rfl (hshort a b rest')
    · have := ih h
      simp only [List.length_cons]
      omega
  | case5 c rest hc ih =>
    rcases hasEscape_cons_iff.1 h with ⟨rfl, -⟩ | h
    · exact absurd rfl hc
    · have := ih h
      simp only [List.length_cons]
      omega

theorem unescapeFrom_of_not_hasEscape {run cs : List Char} (hrun : ∀ c ∈ run, isAscii c = true)
    (h : ¬HasEscape (run.reverse ++ cs)) : unescapeFrom run cs = run.reverse ++ cs := by
  have hread : ∀ {run : List Char}, (∀ c ∈ run, isAscii c = true) → ¬HasEscape run.reverse →
      (Utf8.decodeLossy (unescapeBytes run.reverse)).toList = run.reverse := by
    intro run hrun h
    rw [unescapeBytes_of_not_hasEscape (fun c hc => hrun c (List.mem_reverse.1 hc)) h,
      Utf8.decodeLossy_encodeChars, String.toList_ofList]
  induction cs generalizing run with
  | nil =>
    rw [List.append_nil] at h ⊢
    exact hread hrun h
  | cons c rest ih =>
    rw [unescapeFrom]
    split
    · rename_i hc
      have happend : (c :: run).reverse ++ rest = run.reverse ++ c :: rest := by simp
      rw [← happend] at h ⊢
      exact ih (List.forall_mem_cons.2 ⟨hc, hrun⟩) h
    · have hfirst : ¬HasEscape run.reverse := fun h' => h (h'.mono (List.prefix_append ..).isInfix)
      have hrest : ¬HasEscape ([].reverse ++ rest) := fun h' =>
        h (h'.mono ((List.suffix_cons ..).trans (List.suffix_append ..)).isInfix)
      have hnone : ∀ c ∈ ([] : List Char), isAscii c = true := fun _ h => nomatch h
      rw [hread hrun hfirst, ih hnone hrest, List.reverse_nil, List.nil_append]

theorem length_unescapeFrom_le (run cs : List Char) :
    (unescapeFrom run cs).length ≤ run.length + cs.length := by
  have hread : ∀ run : List Char,
      (Utf8.decodeLossy (unescapeBytes run.reverse)).toList.length ≤ run.length := by
    intro run
    have := length_unescapeBytes_le run.reverse
    rw [List.length_reverse] at this
    exact (Utf8.length_decodeLossy_le _).trans this
  induction cs generalizing run with
  | nil => exact hread run
  | cons c rest ih =>
    rw [unescapeFrom, List.length_cons]
    split
    · have := ih (c :: run)
      rw [List.length_cons] at this
      omega
    · have := hread run
      have := ih []
      simp only [List.length_append, List.length_cons, List.length_nil] at *
      omega

theorem length_unescapeFrom_lt {run cs : List Char} (h : HasEscape (run.reverse ++ cs)) :
    (unescapeFrom run cs).length + 2 ≤ run.length + cs.length := by
  have hread : ∀ {run : List Char}, HasEscape run.reverse →
      (Utf8.decodeLossy (unescapeBytes run.reverse)).toList.length + 2 ≤ run.length := by
    intro run h
    have := length_unescapeBytes_lt h
    have := Utf8.length_decodeLossy_le (unescapeBytes run.reverse)
    rw [List.length_reverse] at *
    omega
  induction cs generalizing run with
  | nil =>
    rw [List.append_nil] at h
    exact hread h
  | cons c rest ih =>
    rw [unescapeFrom, List.length_cons]
    split
    · have happend : (c :: run).reverse ++ rest = run.reverse ++ c :: rest := by simp
      have := ih (happend ▸ h)
      rw [List.length_cons] at this
      omega
    · rename_i hc
      rw [List.length_append, List.length_cons]
      have hfirst := length_unescapeFrom_le run []
      have hrest := length_unescapeFrom_le [] rest
      rw [unescapeFrom] at hfirst
      simp only [List.length_nil] at hfirst hrest
      rcases h.split hc with h | h
      · have := hread h
        omega
      · have : (unescapeFrom [] rest).length + 2 ≤ [].length + rest.length := ih h
        simp only [List.length_nil] at this
        omega

theorem unescape_eq_self {cs : List Char} (h : ¬HasEscape cs) : unescape cs = cs :=
  unescapeFrom_of_not_hasEscape (fun _ h => nomatch h) h

/-- Decoding an escape makes a text shorter by two characters at least. -/
theorem length_unescape_lt {cs : List Char} (h : HasEscape cs) :
    (unescape cs).length + 2 ≤ cs.length := by
  have : (unescapeFrom [] cs).length + 2 ≤ [].length + cs.length := length_unescapeFrom_lt h
  rwa [List.length_nil, Nat.zero_add] at this

end ScriptLint.Url

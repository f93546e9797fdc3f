/-
JSON texts are read back as they were written. `Reads` says that the reader finds a value at the
start of a text whatever comes after it; there is one lemma for each kind of value, by which the
texts of any writer without blanks can be put together.
-/
import ScriptLint.Proofs.Json.Numbers
import ScriptLint.Proofs.Json.Strings
import Mathlib.Data.List.Nodup

namespace ScriptLint.Json

/-! ## Texts of values -/

/-- Characters that are a value without blanks around it, when `depth` containers may still be
opened. The reader needs two steps for each character at most. -/
structure Reads (d : Dialect) (depth : Nat) (v : Json) (cs : List Char) : Prop where
  starts : ∃ c rest, cs = c :: rest ∧ isSpace c = false ∧ c ≠ ']'
  reads : ∀ fuel rest, 2 * cs.length ≤ fuel → Ends rest →
    value? d fuel depth (cs ++ rest) = some (v, rest)

/-- Characters that are the items of an array, at least one. -/
structure ReadsItems (d : Dialect) (depth : Nat) (vs : List Json) (cs : List Char) : Prop where
  starts : ∃ c rest, cs = c :: rest ∧ isSpace c = false ∧ c ≠ ']'
  reads : ∀ fuel rest, 2 * cs.length + 1 ≤ fuel →
    items? d fuel depth (cs ++ ']' :: rest) = some (vs, rest)

/-- Characters that are the members of an object, at least one. -/
structure ReadsMembers (d : Dialect) (depth : Nat) (ms : List (String × Json)) (cs : List Char) :
    Prop where
  starts : ∃ rest, cs = '"' :: rest
  reads : ∀ fuel rest, 2 * cs.length + 1 ≤ fuel →
    members? d fuel depth (cs ++ '\x7d' :: rest) = some (ms, rest)

variable {d : Dialect} {depth : Nat}

theorem skipSpace_cons {c : Char} (h : isSpace c = false) (cs : List Char) :
    skipSpace (c :: cs) = c :: cs := by
  rw [skipSpace, List.dropWhile_cons_of_neg (by simp [h])]

/-- A value that starts with none of the marks of strings and containers is a scalar. -/
theorem value?_scalar {c : Char} (quote : c ≠ '"') (bracket : c ≠ '[') (brace : c ≠ '\x7b')
    (fuel : Nat) (cs : List Char) : value? d (fuel + 1) depth (c :: cs) = scalar? d (c :: cs) := by
  rw [value?]
  · rintro rest he
    exact quote (List.cons.inj he).1
  · rintro rest he
    exact bracket (List.cons.inj he).1
  · rintro rest he
    exact brace (List.cons.inj he).1

/-! ## Scalars -/

theorem reads_null : Reads d depth .null "null".toList := by
  refine ⟨⟨'n', _, rfl, rfl, by decide⟩, fun fuel rest hfuel _ => ?_⟩
  obtain ⟨fuel, rfl⟩ : ∃ f, fuel = f + 1 := ⟨fuel - 1, by simp at hfuel; omega⟩
  rfl

theorem reads_bool (b : Bool) : Reads d depth (.bool b) (if b then "true" else "false").toList := by
  cases b with
  | false =>
    refine ⟨⟨'f', _, rfl, rfl, by decide⟩, fun fuel rest hfuel _ => ?_⟩
    obtain ⟨fuel, rfl⟩ : ∃ f, fuel = f + 1 := ⟨fuel - 1, by simp at hfuel; omega⟩
    rfl
  | true =>
    refine ⟨⟨'t', _, rfl, rfl, by decide⟩, fun fuel rest hfuel _ => ?_⟩
    obtain ⟨fuel, rfl⟩ : ∃ f, fuel = f + 1 := ⟨fuel - 1, by simp at hfuel; omega⟩
    rfl

/-- A digit is no blank and no mark. -/
theorem isDigit_plain {c : Char} (h : isDigit c = true) :
    isSpace c = false ∧ c ≠ ']' ∧ c ≠ '"' ∧ c ≠ '[' ∧ c ≠ '\x7b' := by
  refine ⟨?_, ?_, ?_, ?_, ?_⟩
  · rw [Bool.eq_false_iff]
    intro hs
    simp only [isSpace, Bool.or_eq_true, decide_eq_true_eq] at hs
    rcases hs with ((rfl | rfl) | rfl) | rfl <;> exact absurd h (by decide)
  all_goals
    rintro rfl
    exact absurd h (by decide)

theorem reads_int {n : Int} (short : d.takesWhole (toString n).toList.length = true) :
    Reads d depth (.int n) (toString n).toList := by
  -- the digits, of which there is at least one
  have digits : ∀ m : Nat, ∃ c rest, Nat.toDigits 10 m = c :: rest ∧ isDigit c = true := fun m => by
    obtain ⟨c, rest, hd⟩ := List.exists_cons_of_ne_nil (Nat.toDigits_ne_nil (n := m) (b := 10))
    exact ⟨c, rest, hd, isDigit_of_mem_toDigits (hd ▸ List.mem_cons_self)⟩
  rw [Int.toString_eq_repr, Int.repr_eq_if] at short ⊢
  by_cases h : 0 ≤ n
  · rw [if_pos h, Nat.toList_repr] at short ⊢
    obtain ⟨c, ds, hd, hc⟩ := digits n.toNat
    obtain ⟨space, bracket, quote, open', brace⟩ := isDigit_plain hc
    refine ⟨⟨c, ds, hd, space, bracket⟩, fun fuel rest hfuel hends => ?_⟩
    obtain ⟨fuel, rfl⟩ : ∃ f, fuel = f + 1 := ⟨fuel - 1, by simp [hd] at hfuel; omega⟩
    have hread := number?_toDigits false hends short
    rw [hd, List.cons_append] at hread ⊢
    rw [value?_scalar quote open' brace, scalar?_digit hc, hread]
    simp [Int.toNat_of_nonneg h]
  · rw [if_neg h, String.toList_append, Nat.toList_repr] at short ⊢
    obtain ⟨c, ds, hd, hc⟩ := digits (-n).toNat
    refine ⟨⟨'-', _, rfl, rfl, by decide⟩, fun fuel rest hfuel hends => ?_⟩
    obtain ⟨fuel, rfl⟩ : ∃ f, fuel = f + 1 := ⟨fuel - 1, by simp [hd] at hfuel; omega⟩
    have short' : d.takesWhole ((Nat.toDigits 10 (-n).toNat).length + 1) = true := by
      simpa [Nat.add_comm] using short
    have hread := number?_toDigits true hends short'
    show value? d (fuel + 1) depth ('-' :: (Nat.toDigits 10 (-n).toNat ++ rest)) = _
    rw [value?_scalar (by decide) (by decide) (by decide)]
    rw [hd, List.cons_append] at hread ⊢
    rw [scalar?_minus hc, hread]
    have : ((-n).toNat : Int) = -n := Int.toNat_of_nonneg (by omega)
    simp [this]

/-! ## Strings -/

variable {piece : Char → List Char}

theorem string?_spelled (spells : ∀ c, Spells c (piece c)) (s : String) (rest : List Char) :
    string? ((s.toList.flatMap piece ++ '"' :: rest).length + 1)
      (s.toList.flatMap piece ++ '"' :: rest) = some (s.toList, rest) := by
  refine string?_flatMap spells _ ?_ rest
  have := length_le_flatMap spells s.toList
  simp only [List.length_append]
  omega

theorem reads_str (spells : ∀ c, Spells c (piece c)) (s : String) :
    Reads d depth (.str s) ('"' :: s.toList.flatMap piece ++ ['"']) := by
  refine ⟨⟨'"', _, rfl, rfl, by decide⟩, fun fuel rest hfuel _ => ?_⟩
  obtain ⟨fuel, rfl⟩ : ∃ f, fuel = f + 1 := ⟨fuel - 1, by simp at hfuel; omega⟩
  show value? d (fuel + 1) depth ('"' :: ((s.toList.flatMap piece ++ ['"']) ++ rest)) = _
  rw [List.append_assoc, List.singleton_append, value?, string?_spelled spells]
  simp

/-! ## Arrays -/

theorem reads_arr_nil : Reads d depth (.arr []) "[]".toList := by
  refine ⟨⟨'[', _, rfl, rfl, by decide⟩, fun fuel rest hfuel _ => ?_⟩
  obtain ⟨fuel, rfl⟩ : ∃ f, fuel = f + 1 := ⟨fuel - 1, by simp at hfuel; omega⟩
  rfl

theorem readsItems_one {v : Json} {cs : List Char} (h : Reads d depth v cs) :
    ReadsItems d depth [v] cs := by
  refine ⟨h.starts, fun fuel rest hfuel => ?_⟩
  obtain ⟨fuel, rfl⟩ : ∃ f, fuel = f + 1 := ⟨fuel - 1, by omega⟩
  rw [items?, h.reads fuel _ (by omega) (ends_bracket rest)]
  rfl

theorem readsItems_cons {v : Json} {vs : List Json} {cs cs' : List Char} (h : Reads d depth v cs)
    (h' : ReadsItems d depth vs cs') : ReadsItems d depth (v :: vs) (cs ++ ',' :: cs') := by
  obtain ⟨c, tail, hcs, space, bracket⟩ := h.starts
  refine ⟨⟨c, tail ++ ',' :: cs', by simp [hcs], space, bracket⟩, fun fuel rest hfuel => ?_⟩
  obtain ⟨fuel, rfl⟩ : ∃ f, fuel = f + 1 := ⟨fuel - 1, by omega⟩
  obtain ⟨c', tail', hcs', space', -⟩ := h'.starts
  have hskip : skipSpace (cs' ++ ']' :: rest) = cs' ++ ']' :: rest := by
    rw [hcs', List.cons_append, skipSpace_cons space']
  simp only [List.length_append, List.length_cons] at hfuel
  rw [List.append_assoc, List.cons_append, items?, h.reads fuel _ (by omega) (ends_comma _)]
  simp only [Option.bind_eq_bind, Option.bind_some, skipSpace_cons (show isSpace ',' = false from rfl)]
  rw [hskip, h'.reads fuel rest (by omega)]
  rfl

theorem reads_arr {vs : List Json} {cs : List Char} (h : ReadsItems d depth vs cs) :
    Reads d (depth + 1) (.arr vs) ('[' :: cs ++ [']']) := by
  refine ⟨⟨'[', _, rfl, rfl, by decide⟩, fun fuel rest hfuel _ => ?_⟩
  obtain ⟨fuel, rfl⟩ : ∃ f, fuel = f + 1 := ⟨fuel - 1, by simp at hfuel; omega⟩
  simp only [List.cons_append, List.length_cons, List.length_append] at hfuel
  have hread := h.reads fuel rest (by omega)
  obtain ⟨c, tail, rfl, space, bracket⟩ := h.starts
  show value? d (fuel + 1) (depth + 1) ('[' :: ((c :: tail ++ [']']) ++ rest)) = _
  rw [List.append_assoc, List.singleton_append, value?]
  rw [List.cons_append] at hread ⊢
  rw [skipSpace_cons space]
  split
  · rename_i he
    exact absurd (List.cons.inj he).1 bracket
  · show (items? d fuel depth (c :: (tail ++ ']' :: rest))).map _ = _
    rw [hread]
    rfl

/-! ## Objects -/

theorem reads_obj_nil : Reads d depth (.obj []) "\x7b\x7d".toList := by
  refine ⟨⟨'\x7b', _, rfl, rfl, by decide⟩, fun fuel rest hfuel _ => ?_⟩
  obtain ⟨fuel, rfl⟩ : ∃ f, fuel = f + 1 := ⟨fuel - 1, by simp at hfuel; omega⟩
  rfl

/-- A key, its colon and the text of its value. -/
def spelledMember (piece : Char → List Char) (key : String) (cs : List Char) : List Char :=
  '"' :: key.toList.flatMap piece ++ ['"'] ++ ':' :: cs

theorem readsMembers_one (spells : ∀ c, Spells c (piece c)) (key : String) {v : Json}
    {cs : List Char} (h : Reads d depth v cs) :
    ReadsMembers d depth [(key, v)] (spelledMember piece key cs) := by
  refine ⟨⟨_, rfl⟩, fun fuel rest hfuel => ?_⟩
  obtain ⟨fuel, rfl⟩ : ∃ f, fuel = f + 1 := ⟨fuel - 1, by omega⟩
  obtain ⟨c, tail, hcs, space, -⟩ := h.starts
  have hskip : skipSpace (cs ++ '\x7d' :: rest) = cs ++ '\x7d' :: rest := by
    rw [hcs, List.cons_append, skipSpace_cons space]
  simp only [spelledMember, List.length_append, List.length_cons] at hfuel
  have htext : spelledMember piece key cs ++ '\x7d' :: rest =
      '"' :: (key.toList.flatMap piece ++ '"' :: ':' :: (cs ++ '\x7d' :: rest)) := by
    simp [spelledMember]
  rw [htext, members?, string?_spelled spells]
  simp only [Option.bind_eq_bind, Option.bind_some, skipSpace_cons (show isSpace ':' = false from rfl)]
  rw [hskip, h.reads fuel _ (by omega) (ends_brace rest)]
  simp [skipSpace_cons (show isSpace '\x7d' = false from rfl)]

theorem readsMembers_cons (spells : ∀ c, Spells c (piece c)) (key : String) {v : Json}
    {cs : List Char} (h : Reads d depth v cs) {ms : List (String × Json)} {cs' : List Char}
    (h' : ReadsMembers d depth ms cs') :
    ReadsMembers d depth ((key, v) :: ms) (spelledMember piece key cs ++ ',' :: cs') := by
  refine ⟨⟨_, rfl⟩, fun fuel rest hfuel => ?_⟩
  obtain ⟨fuel, rfl⟩ : ∃ f, fuel = f + 1 := ⟨fuel - 1, by omega⟩
  obtain ⟨c, tail, hcs, space, -⟩ := h.starts
  obtain ⟨tail', hcs'⟩ := h'.starts
  have hskip : skipSpace (cs ++ ',' :: (cs' ++ '\x7d' :: rest)) =
      cs ++ ',' :: (cs' ++ '\x7d' :: rest) := by
    rw [hcs, List.cons_append, skipSpace_cons space]
  have hskip' : skipSpace (cs' ++ '\x7d' :: rest) = cs' ++ '\x7d' :: rest := by
    rw [hcs', List.cons_append, skipSpace_cons rfl]
  simp only [spelledMember, List.length_append, List.length_cons] at hfuel
  have htext : (spelledMember piece key cs ++ ',' :: cs') ++ '\x7d' :: rest =
      '"' :: (key.toList.flatMap piece ++ '"' :: ':' :: (cs ++ ',' :: (cs' ++ '\x7d' :: rest))) := by
    simp [spelledMember]
  rw [htext, members?, string?_spelled spells]
  simp only [Option.bind_eq_bind, Option.bind_some, skipSpace_cons (show isSpace ':' = false from rfl)]
  rw [hskip, h.reads fuel _ (by omega) (ends_comma _)]
  simp only [Option.bind_some, skipSpace_cons (show isSpace ',' = false from rfl)]
  rw [hskip', h'.reads fuel rest (by omega)]
  simp

/-- Members with distinct keys are kept as they are. -/
theorem distinctMembers_eq {ms : List (String × Json)} (h : (ms.map (·.1)).Nodup) :
    distinctMembers ms = ms := by
  have new : ∀ (before : List (String × Json)) (key : String) (v : Json),
      key ∉ before.map (·.1) → setMember before key v = before ++ [(key, v)] := by
    intro before key v hkey
    induction before with
    | nil => rfl
    | cons m rest ih =>
      simp only [List.map_cons, List.mem_cons, not_or] at hkey
      rw [setMember, if_neg (Ne.symm hkey.1), ih hkey.2]
      rfl
  have all : ∀ before : List (String × Json), ((before ++ ms).map (·.1)).Nodup →
      ms.foldl (fun acc m => setMember acc m.1 m.2) before = before ++ ms := by
    induction ms with
    | nil => simp
    | cons m rest ih =>
      intro before hb
      have hkey : m.1 ∉ before.map (·.1) := by
        rw [List.map_append, List.nodup_append] at hb
        intro hm
        exact hb.2.2 _ hm _ (by simp) rfl
      rw [List.foldl_cons, new _ _ _ hkey, ih]
      · simp
      · exact (List.nodup_cons.1 h).2
      · simpa using hb
  exact all [] h

theorem reads_obj {ms : List (String × Json)} {cs : List Char} (h : ReadsMembers d depth ms cs) :
    Reads d (depth + 1) (.obj (distinctMembers ms)) ('\x7b' :: cs ++ ['\x7d']) := by
  refine ⟨⟨'\x7b', _, rfl, rfl, by decide⟩, fun fuel rest hfuel _ => ?_⟩
  obtain ⟨fuel, rfl⟩ : ∃ f, fuel = f + 1 := ⟨fuel - 1, by simp at hfuel; omega⟩
  simp only [List.cons_append, List.length_cons, List.length_append] at hfuel
  have hread := h.reads fuel rest (by omega)
  obtain ⟨tail, rfl⟩ := h.starts
  show value? d (fuel + 1) (depth + 1) ('\x7b' :: (('"' :: tail ++ ['\x7d']) ++ rest)) = _
  rw [List.append_assoc, List.singleton_append, value?]
  rw [List.cons_append] at hread ⊢
  rw [skipSpace_cons rfl]
  simp [hread]

/-! ## Whole texts -/

theorem read?_of_reads {v : Json} {cs : List Char} (h : Reads d d.maxDepth v cs) :
    read? d (String.ofList cs) = some v := by
  obtain ⟨c, tail, rfl, space, -⟩ := h.starts
  have hread := h.reads (2 * (c :: tail).length + 2) [] (by omega) ends_nil
  rw [List.append_nil] at hread
  unfold read?
  rw [String.toList_ofList, skipSpace_cons space]
  simp only [Option.bind_eq_bind]
  rw [hread]
  rfl

end ScriptLint.Json

/-
Lines and columns tell offsets. The place of an offset counts the lines before it that a newline
ends, and the bytes after them (`marks_ofOffset`); a later offset has a later place
(`Marks.key_lt`), so every offset of a source can be found again from its place.
-/
import ScriptLint.Tree.Position
import Mathlib.Data.List.Flatten
import Mathlib.Data.List.TakeWhile
import Mathlib.Data.Prod.Lex
import Mathlib.Order.Interval.Set.Defs

namespace ScriptLint

/-! ## Lines of a source -/

namespace Bytes

/-- The lines of a source that a newline ends, each with its newline. -/
def lines : Bytes → List Bytes
  | [] => []
  | b :: rest =>
    if b = newline then [b] :: lines rest
    else
      match lines rest with
      | [] => []
      | line :: more => (b :: line) :: more

/-- The offset after the first `k` of these lines. -/
def lineStart (source : Bytes) (k : Nat) : Nat := (source.lines.take k).flatten.length

theorem lines_of_notMem {body : Bytes} (h : newline ∉ body) : body.lines = [] := by
  induction body with
  | nil => rfl
  | cons b body ih =>
    obtain ⟨hb, hbody⟩ := not_or.1 (mt List.mem_cons.2 h)
    rw [lines, if_neg fun e => hb e.symm, ih hbody]

theorem lines_append_newline {body : Bytes} (h : newline ∉ body) (rest : Bytes) :
    lines (body ++ newline :: rest) = (body ++ [newline]) :: lines rest := by
  induction body with
  | nil => rw [List.nil_append, lines, if_pos rfl, List.nil_append]
  | cons b body ih =>
    obtain ⟨hb, hbody⟩ := not_or.1 (mt List.mem_cons.2 h)
    rw [List.cons_append, lines, if_neg fun e => hb e.symm, ih hbody, List.cons_append]

/-- A source is taken apart line by line until no newline is left. -/
theorem lines_induction {P : Bytes → Prop} (last : ∀ body, newline ∉ body → P body)
    (line : ∀ body rest, newline ∉ body → P rest → P (body ++ newline :: rest)) :
    (source : Bytes) → P source := by
  intro source
  induction h : source.length using Nat.strong_induction_on generalizing source with
  | _ n ih =>
    by_cases hmem : newline ∈ source
    · obtain ⟨body, rest, rfl, hbody⟩ := List.eq_append_cons_of_mem hmem
      rw [List.length_append, List.length_cons] at h
      exact line body rest hbody (ih rest.length (by omega) rest rfl)
    · exact last source hmem

/-- A line has one newline, at its end. -/
theorem eq_concat_of_mem_lines {source line : Bytes} (h : line ∈ source.lines) :
    ∃ body, newline ∉ body ∧ line = body ++ [newline] := by
  induction source using lines_induction with
  | last body hbody => simp [lines_of_notMem hbody] at h
  | line body rest hbody ih =>
    rw [lines_append_newline hbody] at h
    rcases List.mem_cons.1 h with rfl | h
    · exact ⟨body, hbody, rfl⟩
    · exact ih h

/-- There are as many lines as newlines. -/
theorem length_lines (source : Bytes) : source.lines.length = source.count newline := by
  induction source using lines_induction with
  | last body hbody => rw [lines_of_notMem hbody, List.count_eq_zero_of_not_mem hbody]; rfl
  | line body rest hbody ih =>
    rw [lines_append_newline hbody, List.count_append, List.count_eq_zero_of_not_mem hbody,
      List.count_cons_self, List.length_cons, ih, Nat.zero_add]

/-- What follows does not change the lines that are there. -/
theorem lines_prefix_append (source more : Bytes) :
    source.lines <+: (source ++ more).lines := by
  induction source using lines_induction with
  | last body hbody => rw [lines_of_notMem hbody]; exact List.nil_prefix
  | line body rest hbody ih =>
    rw [List.append_assoc, List.cons_append, lines_append_newline hbody, lines_append_newline hbody]
    exact (List.prefix_cons_inj _).2 ih

/-- After the lines of a source come the bytes that stand behind its last newline. -/
theorem exists_open (source : Bytes) : ∃ rest : Bytes, newline ∉ rest ∧
    source = source.lines.flatten ++ rest ∧
    source.reverse.takeWhile (· ≠ newline) = rest.reverse := by
  induction source using lines_induction with
  | last body hbody =>
    refine ⟨body, hbody, by simp [lines_of_notMem hbody], ?_⟩
    rw [List.takeWhile_eq_self_iff]
    intro b hb
    have hne : b ≠ newline := fun e => hbody (e ▸ List.mem_reverse.1 hb)
    simpa using hne
  | line body rest hbody ih =>
    obtain ⟨tail, htail, hflat, hwhile⟩ := ih
    refine ⟨tail, htail, ?_, ?_⟩
    · rw [lines_append_newline hbody, List.flatten_cons, List.append_assoc, ← hflat]
      simp
    · -- the search from the end stops at the newline at the latest
      rw [List.reverse_append, List.reverse_cons, List.append_assoc, List.takeWhile_append]
      split
      · next hall =>
        have hself : rest.reverse.takeWhile (· ≠ newline) = rest.reverse :=
          (List.takeWhile_prefix _).eq_of_length hall
        rw [List.singleton_append, List.takeWhile_cons_of_neg (by simp), List.append_nil, ← hwhile,
          hself]
      · exact hwhile

theorem lineStart_mono (source : Bytes) {i j : Nat} (h : i ≤ j) :
    source.lineStart i ≤ source.lineStart j :=
  (List.take_sublist_take_left h).flatten.length_le

/-- From the start of a line on, a source has this line, the later ones and what follows them. -/
theorem drop_lineStart {source rest : Bytes} (h : source = source.lines.flatten ++ rest) (k : Nat) :
    source.drop (source.lineStart k) = (source.lines.drop k).flatten ++ rest := by
  have hcut : source =
      (source.lines.take k).flatten ++ ((source.lines.drop k).flatten ++ rest) := by
    rw [← List.append_assoc, ← List.flatten_append, List.take_append_drop]
    exact h
  calc source.drop (source.lineStart k)
      = ((source.lines.take k).flatten ++ ((source.lines.drop k).flatten ++ rest)).drop
          (source.lineStart k) := by rw [← hcut]
    _ = (source.lines.drop k).flatten ++ rest := List.drop_left

/-- Between the start of a line that is ended and the start of the next there is a newline. -/
theorem newline_mem_slice {source : Bytes} {k o : Nat} (hk : k < source.lines.length)
    (ho : source.lineStart (k + 1) ≤ o) : newline ∈ source.slice (source.lineStart k) o := by
  obtain ⟨rest, -, hflat, -⟩ := exists_open source
  obtain ⟨body, -, hline⟩ := eq_concat_of_mem_lines (List.getElem_mem hk)
  have hnext : source.lineStart (k + 1) = source.lineStart k + source.lines[k].length := by
    unfold lineStart
    rw [List.take_succ_eq_append_getElem hk, List.flatten_append, List.length_append,
      List.flatten_singleton]
  unfold slice
  rw [List.drop_take, drop_lineStart hflat, List.drop_eq_getElem_cons hk, List.flatten_cons,
    List.append_assoc, List.take_append]
  refine List.mem_append_left _ ?_
  rw [List.take_of_length_le (by omega), hline]
  simp

end Bytes

/-! ## Places of offsets -/

namespace Position

/-- A place as a pair, which compares lines first. -/
def key (p : Position) : ℕ ×ₗ ℕ := toLex (p.line, p.column)

/-- Whether a place is that of an offset: before its line there are as many lines as its number
says, they and the bytes before its column make up the offset, and no newline stands between. -/
structure Marks (source : Bytes) (p : Position) (o : Nat) : Prop where
  line_pos : 1 ≤ p.line
  column_pos : 1 ≤ p.column
  lines_before : p.line - 1 ≤ source.lines.length
  offset_eq : source.lineStart (p.line - 1) + (p.column - 1) = o
  no_newline : newline ∉ source.slice (source.lineStart (p.line - 1)) o

variable {source : Bytes} {p q : Position} {o o' : Nat}

theorem Marks.offset_unique (h : p.Marks source o) (h' : p.Marks source o') : o = o' :=
  h.offset_eq.symm.trans h'.offset_eq

/-- The line of a place is not after that of a later one, else the newline that ends the line of
the later one would stand before it. -/
theorem Marks.line_le (h : p.Marks source o) (h' : q.Marks source o') (hle : o ≤ o') :
    p.line ≤ q.line := by
  by_contra hlt
  have hk : q.line - 1 < source.lines.length := by
    have := h.lines_before
    have := h'.line_pos
    omega
  have hnext : source.lineStart (q.line - 1 + 1) ≤ o' := by
    have hmono := source.lineStart_mono (i := q.line - 1 + 1) (j := p.line - 1) (by
      have := h'.line_pos
      omega)
    have := h.offset_eq
    omega
  exact h'.no_newline (Bytes.newline_mem_slice hk hnext)

/-- Of two offsets the later one has the later place. -/
theorem Marks.key_lt (h : p.Marks source o) (h' : q.Marks source o') (hlt : o < o') :
    p.key < q.key := by
  unfold key
  rw [Prod.Lex.toLex_lt_toLex]
  rcases Nat.lt_or_eq_of_le (h.line_le h' (Nat.le_of_lt hlt)) with hline | hline
  · exact .inl hline
  · refine .inr ⟨hline, ?_⟩
    have hoffset := h.offset_eq
    have hoffset' := h'.offset_eq
    have := h.column_pos
    rw [hline] at hoffset
    show p.column < q.column
    omega

/-- An offset has one place. -/
theorem Marks.unique (h : p.Marks source o) (h' : q.Marks source o) : p = q := by
  have hline : p.line = q.line :=
    Nat.le_antisymm (h.line_le h' (Nat.le_refl o)) (h'.line_le h (Nat.le_refl o))
  have hcolumn : p.column = q.column := by
    have hoffset := h.offset_eq
    have hoffset' := h'.offset_eq
    have := h.column_pos
    have := h'.column_pos
    rw [hline] at hoffset
    omega
  cases p
  cases q
  cases hline
  cases hcolumn
  rfl

/-! ## The place that is found -/

/-- The bytes before an offset are the whole source, or as many as the offset says. -/
theorem length_take_toNat (source : Bytes) (offset : Int) :
    (source.take offset.toNat).length = (max 0 (min offset source.length)).toNat := by
  rw [List.length_take]
  omega

/-- The place of an offset is that of the nearest offset in the source. -/
theorem marks_ofOffset (source : Bytes) (offset : Int) :
    (ofOffset source offset).Marks source (max 0 (min offset source.length)).toNat := by
  rw [← length_take_toNat]
  let before : Bytes := source.take offset.toNat
  obtain ⟨rest, hrest, hflat, hwhile⟩ := before.exists_open
  have hlines : before.lines <+: source.lines := by
    have := before.lines_prefix_append (source.drop offset.toNat)
    rwa [List.take_append_drop] at this
  have hline : (ofOffset source offset).line - 1 = before.lines.length := by
    rw [Bytes.length_lines]
    rfl
  have hcolumn : (ofOffset source offset).column - 1 = rest.length := by
    show (before.reverse.takeWhile (· ≠ newline)).length = rest.length
    rw [hwhile, List.length_reverse]
  have hstart : source.lineStart ((ofOffset source offset).line - 1) =
      before.lines.flatten.length := by
    unfold Bytes.lineStart
    rw [hline, ← List.prefix_iff_eq_take.1 hlines]
  have hslice : source.slice before.lines.flatten.length before.length = rest := by
    have htake : source.take before.length = before := by
      rw [List.length_take, ← List.take_take, List.take_length]
    unfold Bytes.slice
    rw [htake]
    have hrest := Bytes.drop_lineStart hflat before.lines.length
    rwa [Bytes.lineStart, List.take_length, List.drop_length] at hrest
  refine ⟨Nat.le_add_left 1 _, Nat.le_add_left 1 _, ?_, ?_, ?_⟩
  · rw [hline]
    exact hlines.length_le
  · rw [hstart, hcolumn, ← List.length_append, ← hflat]
  · rwa [hstart, hslice]

/-- Line and column identify the offset. The place that is found is the one of the nearest offset in
the source, and no other is; different offsets in the source have different places, a later one a
later place. -/
theorem ofOffset_identifies (source : Bytes) :
    (∀ (offset : Int) (p : Position),
      ofOffset source offset = p ↔ p.Marks source (max 0 (min offset source.length)).toNat) ∧
    Set.InjOn (fun o : Nat => ofOffset source o) (Set.Iic source.length) ∧
    StrictMonoOn (fun o : Nat => (ofOffset source o).key) (Set.Iic source.length) := by
  have hinside : ∀ o ∈ Set.Iic source.length, (ofOffset source (o : Nat)).Marks source o := by
    intro o ho
    have hclamped : (max 0 (min (o : Int) source.length)).toNat = o := by
      have : o ≤ source.length := ho
      omega
    have h := marks_ofOffset source o
    rwa [hclamped] at h
  refine ⟨fun offset p => ⟨?_, ?_⟩, ?_, ?_⟩
  · rintro rfl
    exact marks_ofOffset source offset
  · exact (marks_ofOffset source offset).unique
  · intro a ha b hb heq
    have hplace : ofOffset source (a : Nat) = ofOffset source (b : Nat) := heq
    have hb' := hinside b hb
    rw [← hplace] at hb'
    exact (hinside a ha).offset_unique hb'
  · intro a ha b hb hlt
    exact (hinside a ha).key_lt (hinside b hb) hlt

/-- An empty line at the end of a source is a line of its own, and an offset after the source is at
its end. -/
example : ofOffset [0x61, 0x3B, 0x0A, 0x0A] 3 = ⟨2, 1⟩ ∧
    ofOffset [0x61, 0x3B, 0x0A, 0x0A] 9 = ⟨3, 1⟩ := by decide

end Position

end ScriptLint

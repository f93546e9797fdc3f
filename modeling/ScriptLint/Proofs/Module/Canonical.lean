/-
Module ids are canonical. An id is a path in normal form; that of a relative specifier is where the
path of the specifier leads from the directory of the referrer, whatever way it is spelled; and an
id without tabs and line ends names itself in every module (`resolve_isCanonical`).

Where a path leads is said by `Path.Leads`, one segment after the other.
-/
import ScriptLint.Proofs.Module.Resolve

namespace ScriptLint

namespace Path

/-! ## Where segments lead -/

/-- Where segments lead from a place. A segment that says nothing stays there, `..` goes back, but
not beyond the root, and a name goes into what it names. -/
inductive Leads : List Segment → List Segment → List Segment → Prop where
  | done (place : List Segment) : Leads place [] place
  | here {place segs last : List Segment} {s : Segment} (nothing : s = [] ∨ s = ['.'])
      (rest : Leads place segs last) : Leads place (s :: segs) last
  | root {segs last : List Segment} (rest : Leads [] segs last) :
      Leads [] (['.', '.'] :: segs) last
  | back {place segs last : List Segment} {s : Segment} (rest : Leads place segs last) :
      Leads (place ++ [s]) (['.', '.'] :: segs) last
  | into {place segs last : List Segment} {s : Segment} (name : IsName s)
      (rest : Leads (place ++ [s]) segs last) : Leads place (s :: segs) last

/-- A path is where a text leads from the root. -/
def IsResolved (text path : List Char) : Prop :=
  ∃ place, Leads [] (Text.splitAt '/' text) place ∧ path = render place

/-- Whether a segment counts when a path is followed. -/
def isSaying (s : Segment) : Bool := !s.isEmpty && s != ['.']

variable {place segs last : List Segment} {path text : List Char} {s : Segment} {c : Char}

theorem isSaying_iff : isSaying s = true ↔ s ≠ [] ∧ s ≠ ['.'] := by
  simp [isSaying]

theorem Leads.eq_walk (h : Leads place segs last) : last = walk place (segs.filter isSaying) := by
  induction h with
  | done place => rfl
  | here nothing _ ih =>
    rw [List.filter_cons_of_neg (by rw [isSaying_iff]; tauto)]
    exact ih
  | root _ ih =>
    rw [List.filter_cons_of_pos (by decide), walk, if_pos rfl]
    exact ih
  | back _ ih =>
    rw [List.filter_cons_of_pos (by decide), walk, if_pos rfl, List.dropLast_concat]
    exact ih
  | into name _ ih =>
    rw [List.filter_cons_of_pos (isSaying_iff.2 ⟨name.ne_nil, name.ne_dot⟩), walk,
      if_neg name.ne_dots]
    exact ih

/-- Segments without slashes lead somewhere. -/
theorem leads_walk (h : ∀ s ∈ segs, '/' ∉ s) (place : List Segment) :
    Leads place segs (walk place (segs.filter isSaying)) := by
  induction segs generalizing place with
  | nil => exact .done place
  | cons s rest ih =>
    obtain ⟨hs, hrest⟩ := List.forall_mem_cons.1 h
    by_cases hsaying : isSaying s
    · obtain ⟨hnil, hdot⟩ := isSaying_iff.1 hsaying
      rw [List.filter_cons_of_pos hsaying, walk]
      by_cases hdots : s = ['.', '.']
      · subst hdots
        rw [if_pos rfl]
        rcases List.eq_nil_or_concat place with rfl | ⟨before, name, rfl⟩
        · exact .root (ih hrest [])
        · rw [List.concat_eq_append, List.dropLast_concat]
          exact .back (ih hrest before)
      · rw [if_neg hdots]
        exact .into ⟨hnil, hdot, hdots, hs⟩ (ih hrest _)
    · rw [List.filter_cons_of_neg hsaying]
      rw [isSaying_iff] at hsaying
      exact .here (by tauto) (ih hrest place)

/-- Segments lead from names to names. -/
theorem Leads.names (h : Leads place segs last) (names : ∀ s ∈ place, IsName s) :
    ∀ s ∈ last, IsName s := by
  induction h with
  | done place => exact names
  | here _ _ ih => exact ih names
  | root _ ih => exact ih names
  | back _ ih => exact ih fun s hs => names s (List.mem_append_left _ hs)
  | into name _ ih =>
    refine ih fun s hs => ?_
    rcases List.mem_append.1 hs with hs | hs
    · exact names s hs
    · exact List.mem_singleton.1 hs ▸ name

/-! ## Where texts lead -/

theorem leads_segments (text : List Char) :
    Leads [] (Text.splitAt '/' text) (normalize (segments text)) :=
  leads_walk (fun _ hs => Text.sep_notMem_of_mem_splitAt hs) []

/-- A text leads to one path. -/
theorem isResolved_iff : IsResolved text path ↔ path = render (normalize (segments text)) := by
  constructor
  · rintro ⟨place, h, rfl⟩
    rw [h.eq_walk]
    rfl
  · rintro rfl
    exact ⟨_, leads_segments text, rfl⟩

theorem IsResolved.normal (h : IsResolved text path) : IsNormal path := by
  obtain ⟨place, h, rfl⟩ := h
  exact ⟨place, h.names (by simp), rfl⟩

/-! ## Names on the way -/

theorem mem_of_mem_walk (h : s ∈ walk place segs) : s ∈ place ∨ s ∈ segs := by
  induction segs generalizing place with
  | nil => exact .inl h
  | cons first rest ih =>
    rw [walk] at h
    rcases ih h with h | h
    · split at h
      · exact .inl (List.dropLast_subset _ h)
      · rcases List.mem_append.1 h with h | h
        · exact .inl h
        · exact .inr (List.mem_singleton.1 h ▸ List.mem_cons_self)
    · exact .inr (List.mem_cons_of_mem _ h)

/-- A path leads through no character that its segments do not have. -/
theorem notMem_render_normalize (hc : c ≠ '/') (h : ∀ s ∈ segs, c ∉ s) :
    c ∉ render (normalize segs) := by
  intro hmem
  rcases List.mem_cons.1 hmem with hmem | hmem
  · exact hc hmem
  · rcases Text.mem_of_mem_joinWith hmem with hmem | ⟨s, hs, hmem⟩
    · exact hc hmem
    · rcases mem_of_mem_walk hs with hs | hs
      · cases hs
      · exact h s hs hmem

/-! ## The directory of a path -/

/-- The path of the directory that holds a path. -/
def directory (path : List Char) : List Char := render (parent path)

theorem segments_saying (path : List Char) :
    ∀ s ∈ segments path, s ≠ [] ∧ s ≠ ['.'] ∧ '/' ∉ s := by
  intro s hs
  obtain ⟨hs, hsaying⟩ := List.mem_filter.1 hs
  obtain ⟨hnil, hdot⟩ := isSaying_iff.1 hsaying
  exact ⟨hnil, hdot, Text.sep_notMem_of_mem_splitAt hs⟩

theorem segments_slash (first second : List Char) :
    segments (first ++ '/' :: second) = segments first ++ segments second := by
  have hsplit : Text.splitAt '/' (first ++ '/' :: second) =
      Text.splitAt '/' first ++ Text.splitAt '/' second := by
    induction first with
    | nil => simp [Text.splitAt]
    | cons c first ih =>
      rw [List.cons_append, Text.splitAt, Text.splitAt, ih]
      split
      · rfl
      · obtain ⟨part, parts, hparts⟩ := List.exists_cons_of_ne_nil (Text.splitAt_ne_nil '/' first)
        rw [hparts]
        rfl
  rw [segments, hsplit, List.filter_append]
  rfl

/-- A path that ends in a name is held by the directory before the last slash. -/
theorem parent_slash {dir name : List Char} (hname : isSaying name = true) (hslash : '/' ∉ name) :
    parent (dir ++ '/' :: name) = segments dir := by
  have hsegments : segments name = [name] := by
    rw [segments, Text.splitAt_of_notMem hslash]
    exact List.filter_cons_of_pos hname
  rw [parent, segments_slash, hsegments, List.dropLast_concat]

/-- The segments of a path in a directory. -/
theorem segments_directory (path rest : List Char) :
    segments (directory path ++ '/' :: rest) = parent path ++ segments rest := by
  have hparent : segments (directory path) = parent path :=
    segments_render_of_saying fun s hs => segments_saying path s (List.dropLast_subset _ hs)
  rw [segments_slash, hparent]

end Path

/-! ## Ids -/

/-- A specifier that is a path which does not start at the root. -/
structure IsRelative (specifier : String) : Prop where
  no_file : ∀ url, Url.parse specifier = .ok url → url.scheme ≠ "file"
  no_slash : Path.isAbsolute specifier.toList = false

/-- What makes the id of a module one that can be compared: it is in normal form, that of a relative
specifier is where its path leads from the directory of the referrer, and it names itself. -/
structure IsCanonical (specifier referrer id : String) : Prop where
  normal : Path.IsNormal id.toList
  leads : IsRelative specifier →
    Path.IsResolved (Path.directory referrer.toList ++ '/' :: specifier.toList) id.toList
  /-- The directory of a file is what stands before its name. -/
  beside : ∀ dir name, referrer.toList = dir ++ '/' :: name → Path.isSaying name = true →
    '/' ∉ name → IsRelative specifier →
      Path.IsResolved (dir ++ '/' :: specifier.toList) id.toList
  stable : (∀ c ∈ id.toList, c ≠ '\t' ∧ c ≠ '\r' ∧ c ≠ '\n') →
    ∀ other, resolveSpecifier id other = .ok id

theorem nul_notMem_of_idOfSegments {segs : List Path.Segment} {id : String}
    (h : idOfSegments .lexical segs = .ok id) : Char.ofNat 0 ∉ id.toList := by
  rw [toList_of_idOfSegments h]
  unfold idOfSegments at h
  split at h
  · cases h
  · rename_i hnone
    exact Path.notMem_render_normalize (by decide) (by simpa using hnone)

/-- An id is where a text without a NUL leads; that of a relative specifier is the text of the
specifier behind the directory of the referrer. -/
theorem resolve_ok {specifier referrer id : String}
    (h : resolveSpecifier specifier referrer = .ok id) :
    ∃ text, Path.IsResolved text id.toList ∧ Char.ofNat 0 ∉ id.toList ∧
      (IsRelative specifier →
        text = Path.directory referrer.toList ++ '/' :: specifier.toList) := by
  unfold resolveSpecifier resolveSpecifierBy at h
  split at h
  · cases h
  · split at h
    · cases h
    · rename_i url hurl
      split at h
      · rename_i hfile
        refine ⟨_, Path.isResolved_iff.2 (toList_of_idOfSegments h), nul_notMem_of_idOfSegments h, ?_⟩
        exact fun hrelative => absurd hfile (hrelative.no_file url hurl)
      · split at h
        · cases h
        · have hid := toList_of_idOfSegments h
          have hnul := nul_notMem_of_idOfSegments h
          unfold specifierSegments at hid
          split at hid
          · rename_i hslash
            refine ⟨_, Path.isResolved_iff.2 hid, hnul, fun hrelative => ?_⟩
            rw [hrelative.no_slash] at hslash
            cases hslash
          · rw [← Path.segments_directory] at hid
            exact ⟨_, Path.isResolved_iff.2 hid, hnul, fun _ => rfl⟩

theorem isResolved_beside {path text rest dir name : List Char}
    (h : Path.IsResolved (Path.directory path ++ '/' :: rest) text)
    (hpath : path = dir ++ '/' :: name) (hname : Path.isSaying name = true) (hslash : '/' ∉ name) :
    Path.IsResolved (dir ++ '/' :: rest) text := by
  rw [Path.isResolved_iff, Path.segments_directory, hpath, Path.parent_slash hname hslash,
    ← Path.segments_slash] at h
  exact Path.isResolved_iff.2 h

/-- Every id is canonical. Two relative specifiers, each in a module of its own, have the same id
exactly if their paths lead to the same place. -/
theorem resolve_isCanonical {specifier referrer id : String}
    (h : resolveSpecifier specifier referrer = .ok id) :
    IsCanonical specifier referrer id ∧
      ∀ specifier' referrer' id', resolveSpecifier specifier' referrer' = .ok id' →
        IsRelative specifier → IsRelative specifier' →
        (id = id' ↔ ∃ path,
          Path.IsResolved (Path.directory referrer.toList ++ '/' :: specifier.toList) path ∧
          Path.IsResolved (Path.directory referrer'.toList ++ '/' :: specifier'.toList) path) := by
  obtain ⟨text, hresolved, hnul, htext⟩ := resolve_ok h
  refine ⟨⟨hresolved.normal, fun hrelative => htext hrelative ▸ hresolved,
    fun dir name hreferrer hname hslash hrelative =>
      isResolved_beside (htext hrelative ▸ hresolved) hreferrer hname hslash,
    fun visible other => resolve_of_normal hresolved.normal hnul visible other⟩, ?_⟩
  intro specifier' referrer' id' h' hrelative hrelative'
  obtain ⟨text', hresolved', -, htext'⟩ := resolve_ok h'
  rw [← htext hrelative, ← htext' hrelative']
  constructor
  · rintro rfl
    exact ⟨_, hresolved, hresolved'⟩
  · rintro ⟨path, hpath, hpath'⟩
    refine String.toList_inj.1 ?_
    rw [Path.isResolved_iff.1 hresolved, Path.isResolved_iff.1 hresolved',
      ← Path.isResolved_iff.1 hpath, ← Path.isResolved_iff.1 hpath']

theorem isRelative_of_parse {specifier : String} {url : Url}
    (hparse : Url.parse specifier = .ok url) (hscheme : url.scheme ≠ "file")
    (hslash : Path.isAbsolute specifier.toList = false) : IsRelative specifier :=
  ⟨fun other hother => by rw [hparse] at hother; cases hother; exact hscheme, hslash⟩

/-- Two spellings of one path, in modules of two directories. -/
theorem resolve_isCanonical_spellings :
    IsCanonical "../lib//./util.js" "/w/pkg/main.js" "/w/lib/util.js" ∧
      ∃ path, Path.IsResolved "/w/pkg/../lib//./util.js".toList path ∧
        Path.IsResolved "/w/lib/util.js".toList path := by
  have hid : resolveSpecifier "../lib//./util.js" "/w/pkg/main.js" = .ok "/w/lib/util.js" := rfl
  obtain ⟨canonical, same⟩ := resolve_isCanonical hid
  refine ⟨canonical, ?_⟩
  have first : IsRelative "../lib//./util.js" := isRelative_of_parse rfl (by decide) rfl
  have second : IsRelative "util.js" := isRelative_of_parse rfl (by decide) rfl
  exact (same "util.js" "/w/lib/other.js" "/w/lib/util.js" rfl first second).1 rfl

end ScriptLint

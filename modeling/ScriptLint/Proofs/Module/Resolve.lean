/-
Which module the URL of a file names. A specifier that is a `file` URL leads where the path in it
leads after its percent escapes have been decoded twice, so that it leads to the path that was
written as the URL exactly if this path does not hold the text of an escape (`resolve_ofPath_iff`).
-/
import ScriptLint.Module.Resolve
import ScriptLint.Proofs.Module.Path
import ScriptLint.Proofs.Module.Url

namespace ScriptLint

/-! ## Following a path -/

theorem idOfSegments_lexical {segs : List Path.Segment} (h : ∀ s ∈ segs, Char.ofNat 0 ∉ s) :
    idOfSegments .lexical segs = .ok (String.ofList (Path.render (Path.normalize segs))) := by
  have hnone : ¬(segs.any fun s => s.contains (Char.ofNat 0)) = true := by
    simpa using h
  rw [idOfSegments, if_neg hnone]
  rfl

theorem toList_of_idOfSegments {segs : List Path.Segment} {id : String}
    (h : idOfSegments .lexical segs = .ok id) : id.toList = Path.render (Path.normalize segs) := by
  unfold idOfSegments at h
  split at h
  · cases h
  · obtain rfl := Except.ok.inj h
    rw [String.toList_ofList]

/-- A normal path leads to itself. -/
theorem idOfSegments_of_normal {path : String} (normal : Path.IsNormal path.toList)
    (text : Char.ofNat 0 ∉ path.toList) :
    idOfSegments .lexical (Path.segments path.toList) = .ok path := by
  rw [idOfSegments_lexical fun s => Path.notMem_of_mem_segments text, normal.resolves,
    String.ofList_toList]

theorem isEmpty_of_toList {s : String} {c : Char} {rest : List Char} (h : s.toList = c :: rest) :
    s.isEmpty = false := by
  rw [String.isEmpty_eq_false_iff]
  rintro rfl
  cases h

/-! ## Specifiers that are paths -/

theorem Url.splitScheme_slash (cs : List Char) : splitScheme ('/' :: cs) = ([], '/' :: cs) := by
  have htake : ('/' :: cs).takeWhile (· ≠ ':') = '/' :: cs.takeWhile (· ≠ ':') := rfl
  unfold splitScheme
  simp only [htake]
  split
  · rw [if_neg]
    simp [isAsciiLetter]
  · rfl

theorem Url.splitHost_of_ne {cs : List Char} (h : cs.head? ≠ some '/') :
    splitHost ('/' :: cs) = ([], '/' :: cs) := by
  unfold splitHost
  split
  · rename_i rest heq
    obtain rfl := (List.cons.inj heq).2
    exact absurd rfl h
  · rfl

/-- A normal path without tabs and line ends is a specifier of itself. -/
theorem resolve_of_normal {path : String} (normal : Path.IsNormal path.toList)
    (text : Char.ofNat 0 ∉ path.toList)
    (visible : ∀ c ∈ path.toList, c ≠ '\t' ∧ c ≠ '\r' ∧ c ≠ '\n') (referrer : String) :
    resolveSpecifier path referrer = .ok path := by
  have hid := idOfSegments_of_normal normal text
  obtain ⟨rest, hpath, hrest⟩ := normal.exists_cons
  have hclean : Url.clean path.toList = '/' :: rest := by
    rw [Url.clean_eq_self (fun c hc => ?_) visible, hpath]
    rw [hpath] at hc
    obtain rfl : '/' = c := Option.some.inj hc
    decide
  -- the path does not start with two slashes, so there is no host
  have hscheme : Url.splitScheme (Url.clean path.toList) = ([], '/' :: rest) := by
    rw [hclean, Url.splitScheme_slash]
  have hparse := Url.parse_of_splits hscheme (Url.splitHost_of_ne hrest) Url.checkHost_nil
  have habsolute : Path.isAbsolute path.toList = true := by
    rw [hpath]
    rfl
  unfold resolveSpecifier resolveSpecifierBy
  rw [isEmpty_of_toList hpath, if_neg (by decide), hparse]
  dsimp only
  rw [if_neg (by decide), if_neg (by decide), specifierSegments, if_pos habsolute, hid]

/-! ## Specifiers that are URLs -/

/-- The URL of a path from the root leads where this path leads after its escapes have been decoded
once more. -/
theorem resolve_ofPath (locate : Locate) (path : List Char) (referrer : String) :
    resolveSpecifierBy locate (Url.ofPath ('/' :: path)) referrer =
      idOfSegments locate (Path.segments (Url.unescape ('/' :: path))) := by
  have hempty : (Url.ofPath ('/' :: path)).isEmpty = false :=
    isEmpty_of_toList String.toList_ofList
  unfold resolveSpecifierBy
  rw [hempty, if_neg (by decide), Url.parse_ofPath]
  dsimp only
  rw [if_pos rfl, Url.unescape_escape]

/-- The URL of a normal path leads where the path leads after its escapes have been decoded once
more. It names the path, as the path itself does, exactly if the path holds no text of an escape. -/
theorem resolve_ofPath_iff {path : String} (normal : Path.IsNormal path.toList)
    (text : Char.ofNat 0 ∉ path.toList) (referrer : String) :
    (∀ locate, resolveSpecifierBy locate (Url.ofPath path.toList) referrer =
        idOfSegments locate (Path.segments (Url.unescape path.toList))) ∧
      (resolveSpecifier (Url.ofPath path.toList) referrer = .ok path ↔
        ¬Url.HasEscape path.toList) ∧
      ((∀ c ∈ path.toList, c ≠ '\t' ∧ c ≠ '\r' ∧ c ≠ '\n') →
        resolveSpecifier path referrer = .ok path) := by
  obtain ⟨rest, hpath, -⟩ := normal.exists_cons
  have hurl : ∀ locate, resolveSpecifierBy locate (Url.ofPath path.toList) referrer =
      idOfSegments locate (Path.segments (Url.unescape path.toList)) := fun locate => by
    rw [hpath]
    exact resolve_ofPath locate rest referrer
  refine ⟨hurl, ⟨fun h hescape => ?_, fun h => ?_⟩,
    fun visible => resolve_of_normal normal text visible referrer⟩
  · -- each decoded escape takes away two characters, and following a path adds one at most
    rw [resolveSpecifier, hurl] at h
    have hlength := Path.length_render_normalize_le (Url.unescape path.toList)
    rw [← toList_of_idOfSegments h] at hlength
    have := Url.length_unescape_lt hescape
    omega
  · rw [resolveSpecifier, hurl, Url.unescape_eq_self h]
    exact idOfSegments_of_normal normal text

/-- A percent sign with two hexadecimal digits after it is part of the name of a file. -/
theorem resolve_ofPath_iff_percent :
    Url.ofPath "/a%41".toList = "file:///a%2541" ∧
      resolveSpecifier (Url.ofPath "/a%41".toList) "/x.js" ≠ .ok "/a%41" ∧
      resolveSpecifier "/a%41" "/x.js" = .ok "/a%41" := by
  have hname : ∀ s ∈ [['a', '%', '4', '1']], Path.IsName s := by
    intro s hs
    obtain rfl := List.mem_singleton.1 hs
    exact ⟨by decide, by decide, by decide, by decide⟩
  have hnormal : Path.IsNormal "/a%41".toList := ⟨_, hname, rfl⟩
  obtain ⟨-, hiff, hpath⟩ := resolve_ofPath_iff hnormal (by decide) "/x.js"
  exact ⟨by decide, fun h => hiff.1 h ⟨'4', '1', rfl, rfl, by decide⟩, hpath (by simp)⟩

end ScriptLint

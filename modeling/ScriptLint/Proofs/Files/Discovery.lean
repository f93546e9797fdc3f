/-
What a search without links finds below a directory: every file whose name is that of a script and
that is wanted, unless a directory on the way has an ignored name (`find_iff`). The name of the
directory itself does not count. Each path is found once, and the paths are in the order of their
components.
-/
import ScriptLint.Proofs.Files.Script
import ScriptLint.Proofs.Files.Tree
import Mathlib.Data.List.Lex
import Mathlib.Data.String.Basic

namespace ScriptLint

namespace Discovery

variable {α : Type} {s : Search} {shown names : List String} {name : String} {t : FileTree α}
  {entries rest : List (String × FileTree α)}

/-! ## What is to be found -/

/-- Whether a search admits a file at names below a directory that is shown under a path: the
directories on the way have no ignored names, the name of the file is that of a script, and its name
and its path are wanted. -/
structure Admits (s : Search) (shown names : List String) : Prop where
  entered : ∀ name ∈ names.dropLast, name ∉ s.ignored
  script : ∃ name, names.getLast? = some name ∧ HasSuffix name ∧ s.wanted name
  accepted : s.accepts (shown ++ names)

/-- Whether a search finds what stands at names below a tree: it is a file, reached through
directories only, and admitted. -/
structure Finds (s : Search) (shown : List String) (t : FileTree α) (names : List String) :
    Prop where
  file : ∃ content, t.at? names = some (.file content)
  admitted : Admits s shown names

theorem collects_iff (h : Path.IsName name.toList) :
    s.collects shown name ↔ Admits s shown [name] := by
  unfold Search.collects
  rw [Bool.and_eq_true, Bool.and_eq_true, isScript_iff h]
  constructor
  · rintro ⟨⟨hsuffix, hwanted⟩, haccepts⟩
    exact ⟨by simp, ⟨name, rfl, hsuffix, hwanted⟩, haccepts⟩
  · rintro ⟨-, ⟨last, hlast, hsuffix, hwanted⟩, haccepts⟩
    cases hlast
    exact ⟨⟨hsuffix, hwanted⟩, haccepts⟩

theorem admits_cons_iff (hne : names ≠ []) : Admits s shown (name :: names) ↔
    name ∉ s.ignored ∧ Admits s (shown ++ [name]) names := by
  have hinit : (name :: names).dropLast = name :: names.dropLast := List.dropLast_cons_of_ne_nil hne
  have hlast : (name :: names).getLast? = names.getLast? := by
    rw [List.getLast?_cons_of_ne_nil hne]
  have hpath : shown ++ [name] ++ names = shown ++ name :: names := by simp
  constructor
  · rintro ⟨hentered, hscript, haccepts⟩
    rw [hinit] at hentered
    rw [hlast] at hscript
    obtain ⟨hname, hrest⟩ := List.forall_mem_cons.1 hentered
    exact ⟨hname, hrest, hscript, by rwa [hpath]⟩
  · rintro ⟨hname, hrest, hscript, haccepts⟩
    rw [hpath] at haccepts
    exact ⟨by rw [hinit]; exact List.forall_mem_cons.2 ⟨hname, hrest⟩, by rwa [hlast], haccepts⟩

/-! ## One entry after the other -/

theorem isProper_nil : (FileTree.directory ([] : List (String × FileTree α))).IsProper :=
  .directory .nil (fun _ h => nomatch h) fun _ h => nomatch h

theorem isProper_cons_iff : (FileTree.directory ((name, t) :: rest)).IsProper ↔
    Path.IsName name.toList ∧ t.IsProper ∧ name ∉ rest.map (·.1) ∧
      (FileTree.directory rest).IsProper := by
  constructor
  · rintro ⟨⟩
    next distinct names below =>
    rw [List.map_cons, List.nodup_cons] at distinct
    obtain ⟨hname, hnames⟩ := List.forall_mem_cons.1 names
    obtain ⟨ht, hbelow⟩ := List.forall_mem_cons.1 below
    exact ⟨hname, ht, distinct.1, .directory distinct.2 hnames hbelow⟩
  · rintro ⟨hname, ht, hnew, ⟨⟩⟩
    next distinct names below =>
    refine .directory ?_ (List.forall_mem_cons.2 ⟨hname, names⟩)
      (List.forall_mem_cons.2 ⟨ht, below⟩)
    rw [List.map_cons, List.nodup_cons]
    exact ⟨hnew, distinct⟩

theorem finds_nil : ¬ Finds s shown (.directory ([] : List (String × FileTree α))) names := by
  rintro ⟨⟨content, hfile⟩, -⟩
  cases names with
  | nil => cases hfile
  | cons name rest => cases hfile

/-- What is found has the name of an entry. -/
theorem Finds.exists_cons (h : Finds s shown (.directory entries) names) :
    ∃ name below, names = name :: below ∧ name ∈ entries.map (·.1) := by
  obtain ⟨⟨content, hfile⟩, -⟩ := h
  cases names with
  | nil => cases hfile
  | cons name below =>
    obtain ⟨inner, t, heq, hmember, -⟩ := FileTree.exists_entries_of_at? hfile
    cases heq
    exact ⟨name, below, rfl, List.mem_map_of_mem (Json.mem_of_member? hmember)⟩

/-- What is found in a directory is found in one of its entries. -/
theorem finds_cons_iff (hnew : name ∉ rest.map (·.1)) :
    Finds s shown (.directory ((name, t) :: rest)) names ↔
      Finds s shown (.directory [(name, t)]) names ∨ Finds s shown (.directory rest) names := by
  have hat : ∀ found, (FileTree.directory ((name, t) :: rest)).at? names = some (.file found) ↔
      (FileTree.directory [(name, t)]).at? names = some (.file found) ∨
        (FileTree.directory rest).at? names = some (.file found) := by
    intro found
    cases names with
    | nil => simp [FileTree.at?]
    | cons other below =>
      by_cases hother : name = other
      · subst hother
        have hnone : Json.member? rest name = none := Json.member?_eq_none_iff.2 hnew
        simp [FileTree.at?, FileTree.entries, Json.member?_cons, hnone]
      · simp [FileTree.at?, FileTree.entries, hother, Json.member?]
  constructor
  · rintro ⟨⟨content, hfile⟩, hadmitted⟩
    rcases (hat content).1 hfile with hfirst | hrest
    · exact .inl ⟨⟨content, hfirst⟩, hadmitted⟩
    · exact .inr ⟨⟨content, hrest⟩, hadmitted⟩
  · rintro (⟨⟨content, hfile⟩, hadmitted⟩ | ⟨⟨content, hfile⟩, hadmitted⟩)
    · exact ⟨⟨content, (hat content).2 (.inl hfile)⟩, hadmitted⟩
    · exact ⟨⟨content, (hat content).2 (.inr hfile)⟩, hadmitted⟩

theorem finds_single_iff : Finds s shown (.directory [(name, t)]) names ↔
    ∃ below, names = name :: below ∧ (∃ content, t.at? below = some (.file content)) ∧
      Admits s shown (name :: below) := by
  constructor
  · rintro ⟨⟨content, hfile⟩, hadmitted⟩
    cases names with
    | nil => cases hfile
    | cons other below =>
      obtain ⟨inner, found, heq, hmember, hbelow⟩ := FileTree.exists_entries_of_at? hfile
      cases heq
      obtain ⟨rfl, rfl⟩ : name = other ∧ t = found := by
        simpa [eq_comm] using List.mem_singleton.1 (Json.mem_of_member? hmember)
      exact ⟨below, rfl, ⟨content, hbelow⟩, hadmitted⟩
  · rintro ⟨below, rfl, ⟨content, hbelow⟩, hadmitted⟩
    refine ⟨⟨content, ?_⟩, hadmitted⟩
    simpa [FileTree.at?, FileTree.entries, Json.member?_cons] using hbelow

theorem finds_file_iff {content : α} (hname : Path.IsName name.toList) :
    Finds s shown (.directory [(name, .file content)]) names ↔
      names = [name] ∧ s.collects shown name := by
  rw [finds_single_iff, collects_iff hname]
  constructor
  · rintro ⟨below, rfl, ⟨found, hfound⟩, hadmitted⟩
    cases below with
    | nil => exact ⟨rfl, hadmitted⟩
    | cons next below => cases hfound
  · rintro ⟨rfl, hadmitted⟩
    exact ⟨[], rfl, ⟨content, rfl⟩, hadmitted⟩

theorem finds_directory_iff : Finds s shown (.directory [(name, .directory entries)]) names ↔
    name ∉ s.ignored ∧ ∃ below, names = name :: below ∧
      Finds s (shown ++ [name]) (.directory entries) below := by
  rw [finds_single_iff]
  constructor
  · rintro ⟨below, rfl, ⟨content, hfile⟩, hadmitted⟩
    have hne : below ≠ [] := by
      rintro rfl
      cases hfile
    obtain ⟨hname, hbelow⟩ := (admits_cons_iff hne).1 hadmitted
    exact ⟨hname, below, rfl, ⟨content, hfile⟩, hbelow⟩
  · rintro ⟨hname, below, rfl, ⟨content, hfile⟩, hadmitted⟩
    have hne : below ≠ [] := by
      rintro rfl
      cases hfile
    exact ⟨below, rfl, ⟨content, hfile⟩, (admits_cons_iff hne).2 ⟨hname, hadmitted⟩⟩

theorem not_finds_link {target : String} :
    ¬ Finds s shown (.directory [(name, (.link target : FileTree α))]) names := by
  rw [finds_single_iff]
  rintro ⟨below, rfl, ⟨content, hfile⟩, -⟩
  cases below with
  | nil => cases hfile
  | cons next below => cases hfile

/-! ## Collecting -/

/-- What links contribute when they are not followed. -/
def noLinks (_ _ : List String) (_ : String) : List (List String) := []

mutual

/-- The paths that are collected at an entry are those of the files to be found there. -/
theorem mem_collectAt_iff (s : Search) (dir shown : List String) (path : List String)
    {name : String} (hname : Path.IsName name.toList) :
    (t : FileTree α) → t.IsProper → (path ∈ collectAt s noLinks dir shown name t ↔
      ∃ names, path = shown ++ names ∧ Finds s shown (.directory [(name, t)]) names)
  | .file content, _ => by
    rw [collectAt]
    simp only [finds_file_iff hname]
    constructor
    · intro hmem
      split at hmem
      · next hcollects => exact ⟨[name], List.mem_singleton.1 hmem, rfl, hcollects⟩
      · cases hmem
    · rintro ⟨names, rfl, rfl, hcollects⟩
      rw [if_pos hcollects]
      exact List.mem_singleton_self _
  | .link target, _ => by
    rw [collectAt]
    simp [noLinks, not_finds_link]
  | .directory entries, h => by
    rw [collectAt]
    simp only [finds_directory_iff]
    by_cases hignored : name ∈ s.ignored
    · rw [if_pos (by simpa using hignored)]
      refine iff_of_false (by simp) ?_
      rintro ⟨names, -, hname, -⟩
      exact hname hignored
    · rw [if_neg (by simpa using hignored), mem_collect_iff s _ _ path entries h]
      constructor
      · rintro ⟨names, rfl, hfinds⟩
        exact ⟨name :: names, by simp, hignored, names, rfl, hfinds⟩
      · rintro ⟨names, rfl, -, below, rfl, hfinds⟩
        exact ⟨below, by simp, hfinds⟩

/-- The paths that are collected in a directory are those of the files to be found there. -/
theorem mem_collect_iff (s : Search) (dir shown : List String) (path : List String) :
    (entries : List (String × FileTree α)) → (FileTree.directory entries).IsProper →
      (path ∈ collect s noLinks dir shown entries ↔
        ∃ names, path = shown ++ names ∧ Finds s shown (.directory entries) names)
  | [], _ => by
    rw [collect]
    refine iff_of_false (by simp) ?_
    rintro ⟨names, -, hfinds⟩
    exact finds_nil hfinds
  | (name, t) :: rest, h => by
    obtain ⟨hname, ht, hnew, hrest⟩ := isProper_cons_iff.1 h
    rw [collect, List.mem_append, mem_collectAt_iff s dir shown path hname t ht,
      mem_collect_iff s dir shown path rest hrest]
    simp only [finds_cons_iff hnew]
    constructor
    · rintro (⟨names, hpath, hfinds⟩ | ⟨names, hpath, hfinds⟩)
      · exact ⟨names, hpath, .inl hfinds⟩
      · exact ⟨names, hpath, .inr hfinds⟩
    · rintro ⟨names, hpath, hfinds | hfinds⟩
      · exact .inl ⟨names, hpath, hfinds⟩
      · exact .inr ⟨names, hpath, hfinds⟩

end

/-- No path is collected at an entry and at another one. -/
theorem disjoint_collectAt (h : (FileTree.directory ((name, t) :: rest)).IsProper)
    (dir : List String) :
    (collectAt s noLinks dir shown name t).Disjoint (collect s noLinks dir shown rest) := by
  obtain ⟨hname, ht, hnew, hrest⟩ := isProper_cons_iff.1 h
  intro path hfirst hother
  obtain ⟨names, rfl, hfinds⟩ := (mem_collectAt_iff s dir shown path hname t ht).1 hfirst
  obtain ⟨below, rfl, -⟩ := finds_single_iff.1 hfinds
  obtain ⟨names, hpath, hfinds⟩ := (mem_collect_iff s dir shown _ rest hrest).1 hother
  obtain ⟨other, more, rfl, hentry⟩ := hfinds.exists_cons
  rw [List.append_cancel_left_eq, List.cons.injEq] at hpath
  exact hnew (hpath.1 ▸ hentry)

mutual

theorem nodup_collectAt (s : Search) (dir shown : List String) (name : String) :
    (t : FileTree α) → t.IsProper → (collectAt s noLinks dir shown name t).Nodup
  | .file content, _ => by
    rw [collectAt]
    split <;> simp
  | .link target, _ => .nil
  | .directory entries, h => by
    rw [collectAt]
    split
    · exact .nil
    · exact nodup_collect s _ _ entries h

/-- Nothing is collected twice. -/
theorem nodup_collect (s : Search) (dir shown : List String) :
    (entries : List (String × FileTree α)) → (FileTree.directory entries).IsProper →
      (collect s noLinks dir shown entries).Nodup
  | [], _ => .nil
  | (name, t) :: rest, h => by
    obtain ⟨-, ht, -, hrest⟩ := isProper_cons_iff.1 h
    rw [collect]
    exact (nodup_collectAt s dir shown name t ht).append (nodup_collect s dir shown rest hrest)
      (disjoint_collectAt h dir)

end

/-! ## Order -/

theorem componentsLe_iff_not_lt {first second : List String} :
    componentsLe first second = true ↔ ¬ second < first := by
  induction first generalizing second with
  | nil => simp [componentsLe]
  | cons a as ih =>
    cases second with
    | nil => simp [componentsLe]
    | cons b bs =>
      unfold componentsLe
      rw [List.cons_lt_cons_iff]
      rcases lt_trichotomy a b with hlt | rfl | hgt
      · simp [hlt, hlt.not_gt, hlt.ne']
      · simp [ih]
      · simp [hgt, hgt.not_gt]

theorem componentsLe_iff {first second : List String} :
    componentsLe first second = true ↔ first ≤ second :=
  componentsLe_iff_not_lt.trans not_lt

/-- Sorting puts different paths in strictly ascending order. -/
theorem pairwise_mergeSort {paths : List (List String)} (h : paths.Nodup) :
    (paths.mergeSort componentsLe).Pairwise (· < ·) := by
  have hle : (paths.mergeSort componentsLe).Pairwise fun a b => componentsLe a b = true := by
    refine List.pairwise_mergeSort ?_ ?_ paths
    · intro a b c hab hbc
      rw [componentsLe_iff] at *
      exact hab.trans hbc
    · intro a b
      rw [Bool.or_eq_true, componentsLe_iff, componentsLe_iff]
      exact le_total a b
  have hne : (paths.mergeSort componentsLe).Nodup :=
    (List.mergeSort_perm paths componentsLe).nodup_iff.2 h
  refine (hle.and hne).imp ?_
  rintro a b ⟨hab, hne⟩
  exact lt_of_le_of_ne (componentsLe_iff.1 hab) hne

/-- Paths in strictly ascending order are determined by which they are. -/
theorem eq_of_perm {paths paths' : List (List String)} (h : paths.Perm paths')
    (hordered : paths.Pairwise (· < ·)) (hordered' : paths'.Pairwise (· < ·)) : paths = paths' :=
  h.eq_of_pairwise (fun _ _ _ _ hlt hgt => absurd hgt hlt.not_gt) hordered hordered'

/-! ## Paths -/

/-- Different places below a directory have different paths. -/
theorem eq_of_ofNames_eq {first second : List String} (hfirst : first ≠ [])
    (hsecond : second ≠ []) (hnames : ∀ name ∈ first, Path.IsName name.toList)
    (hnames' : ∀ name ∈ second, Path.IsName name.toList)
    (h : Path.ofNames (shown ++ first) = Path.ofNames (shown ++ second)) : first = second := by
  have hjoin : Text.joinWith '/' (first.map String.toList) =
      Text.joinWith '/' (second.map String.toList) := by
    unfold Path.ofNames Path.render at h
    rw [String.ofList_inj, List.cons.injEq, List.map_append, List.map_append,
      Text.joinWith_append (by simpa using hfirst), Text.joinWith_append (by simpa using hsecond),
      List.append_cancel_left_eq] at h
    exact h.2
  have hsegments : first.map String.toList = second.map String.toList := by
    rw [← Path.segments_render (List.forall_mem_map.2 hnames),
      ← Path.segments_render (List.forall_mem_map.2 hnames'), Path.render, Path.render, hjoin]
  exact List.map_injective_iff.2 (fun _ _ => String.toList_inj.1) hsegments

/-! ## Listing -/

/-- A listing of the files that a search finds below a directory: their paths, each of them once,
in the order of the components. -/
structure Lists (s : Search) (shown : List String) (t : FileTree α) (files : List String) :
    Prop where
  ordered : ∃ paths : List (List String), files = paths.map Path.ofNames ∧
    paths.Pairwise (· < ·) ∧
    ∀ path, path ∈ paths ↔ ∃ names, path = shown ++ names ∧ Finds s shown t names
  nodup : files.Nodup

/-- There is only one listing. -/
theorem Lists.unique {files files' : List String} (h : Lists s shown t files)
    (h' : Lists s shown t files') : files = files' := by
  obtain ⟨paths, rfl, hordered, hmem⟩ := h.ordered
  obtain ⟨paths', rfl, hordered', hmem'⟩ := h'.ordered
  have hperm : paths.Perm paths' := (List.perm_ext_iff_of_nodup hordered.nodup hordered'.nodup).2
    fun path => (hmem path).trans (hmem' path).symm
  rw [eq_of_perm hperm hordered hordered']

theorem lists_collect (h : (FileTree.directory entries).IsProper) (dir : List String) :
    Lists s shown (.directory entries)
      (((collect s noLinks dir shown entries).mergeSort componentsLe).map Path.ofNames) := by
  have hmem : ∀ path, path ∈ (collect s noLinks dir shown entries).mergeSort componentsLe ↔
      ∃ names, path = shown ++ names ∧ Finds s shown (.directory entries) names := by
    intro path
    rw [List.mem_mergeSort, mem_collect_iff s dir shown path entries h]
  have hordered := pairwise_mergeSort (nodup_collect s dir shown entries h)
  refine ⟨⟨_, rfl, hordered, hmem⟩, hordered.nodup.map_on ?_⟩
  intro path hpath other hother heq
  obtain ⟨names, rfl, hfinds⟩ := (hmem path).1 hpath
  obtain ⟨names', rfl, hfinds'⟩ := (hmem other).1 hother
  obtain ⟨content, hfile⟩ := hfinds.file
  obtain ⟨content', hfile'⟩ := hfinds'.file
  obtain ⟨first, below, rfl, -⟩ := hfinds.exists_cons
  obtain ⟨first', below', rfl, -⟩ := hfinds'.exists_cons
  rw [eq_of_ofNames_eq (by simp) (by simp) (h.at? hfile).2 (h.at? hfile').2 heq]

/-- A search that follows no links and starts at a path that leads to a directory gives a listing
of what is to be found below. -/
theorem find_of_leadsTo (hs : s.follow = false) {root : FileTree α} (hroot : root.IsProper)
    {start : String} (h : root.LeadsTo start shown entries) :
    ∃ files, find s root start = .ok files ∧ Lists s shown (.directory entries) files := by
  have hproper := h.isProper hroot
  obtain ⟨hshown, place, hlocate⟩ := h
  refine ⟨_, ?_, lists_collect hproper place⟩
  unfold find
  rw [hshown]
  dsimp only
  rw [hlocate]
  simp only [hs, Bool.false_eq_true, if_false]
  rfl

/-- What a search finds that follows no links. It gives an answer if the path leads to a directory,
and the answer lists every file below it, each once and in the order of the components, whose name
is that of a script and that is wanted, with no ignored name among the directories on the way. -/
theorem find_iff (hs : s.follow = false) {root : FileTree α} (hroot : root.IsProper)
    (start : String) (files : List String) : find s root start = .ok files ↔
      ∃ shown entries, root.LeadsTo start shown entries ∧
        Lists s shown (.directory entries) files := by
  constructor
  · intro h
    have hleads : ∃ shown entries, root.LeadsTo start shown entries := by
      unfold find at h
      split at h
      · cases h
      · next shown hshown =>
        split at h
        · cases h
        · next place entries hlocate => exact ⟨shown, entries, hshown, place, hlocate⟩
        · cases h
    obtain ⟨shown, entries, hleads⟩ := hleads
    obtain ⟨found, hfound, hlists⟩ := find_of_leadsTo hs hroot hleads
    rw [h, Except.ok.injEq] at hfound
    exact ⟨shown, entries, hleads, hfound ▸ hlists⟩
  · rintro ⟨shown, entries, hleads, hlists⟩
    obtain ⟨found, hfound, hlists'⟩ := find_of_leadsTo hs hroot hleads
    rw [hfound, hlists'.unique hlists]

/-- Files and a link below a directory, not in order. -/
def packages : List (String × FileTree Unit) :=
  [("src-x.js", .file ()), ("src", .directory [("loop.js", .link "."), ("b.JS", .file ())]),
   ("notes.txt", .file ()), ("dist", .directory [("c.js", .file ())])]

/-- That directory under a name that is ignored. -/
def workspace : FileTree Unit := .directory [("node_modules", .directory packages)]

theorem isProper_workspace : workspace.IsProper := by
  unfold workspace packages
  simp only [isProper_cons_iff, isProper_nil, FileTree.IsProper.file, FileTree.IsProper.link,
    and_true, true_and]
  decide

theorem lists_packages : Lists Search.default ["node_modules"] (.directory packages)
    ["/node_modules/src/b.JS", "/node_modules/src-x.js"] := by
  have hproper : (FileTree.directory packages).IsProper :=
    (isProper_cons_iff.1 isProper_workspace).2.1
  have hpaths : collect Search.default noLinks [] ["node_modules"] packages =
      [["node_modules", "src-x.js"], ["node_modules", "src", "b.JS"]] := by decide
  have h : Lists Search.default ["node_modules"] (.directory packages)
      (((collect Search.default noLinks [] ["node_modules"] packages).mergeSort componentsLe).map
        Path.ofNames) := lists_collect hproper []
  rw [hpaths, eq_of_perm ((List.mergeSort_perm _ _).trans (.swap _ _ []))
    (pairwise_mergeSort (by decide)) (by decide)] at h
  exact h

theorem find_iff_workspace : workspace.IsProper ∧
    find Search.default workspace "/node_modules" =
      .ok ["/node_modules/src/b.JS", "/node_modules/src-x.js"] := by
  have hleads : workspace.LeadsTo "/node_modules" ["node_modules"] packages :=
    FileTree.leadsTo_of_at? isProper_workspace rfl
  exact ⟨isProper_workspace,
    (find_iff rfl isProper_workspace _ _).2 ⟨_, _, hleads, lists_packages⟩⟩

end Discovery

end ScriptLint

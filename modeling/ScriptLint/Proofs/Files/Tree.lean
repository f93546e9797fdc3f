/-
Directory trees as they are on disk. The entries of a directory have different names, and each name
can stand in a path (`FileTree.IsProper`). In such a tree a directory is found at its own path, no
link being on the way (`leadsTo_of_at?`).
-/
import ScriptLint.Files.Tree
import ScriptLint.Proofs.Module.Path
import Mathlib.Data.List.Nodup

namespace ScriptLint

namespace FileTree

variable {α : Type}

/-- Whether a tree is one of directories: in each the names are different and can stand in a
path. -/
inductive IsProper : FileTree α → Prop where
  | file (content : α) : IsProper (.file content)
  | link (target : String) : IsProper (.link target)
  | directory {entries : List (String × FileTree α)} (distinct : (entries.map (·.1)).Nodup)
      (names : ∀ e ∈ entries, Path.IsName e.1.toList) (below : ∀ e ∈ entries, IsProper e.2) :
      IsProper (.directory entries)

instance (s : Path.Segment) : Decidable (Path.IsName s) :=
  decidable_of_iff (s ≠ [] ∧ s ≠ ['.'] ∧ s ≠ ['.', '.'] ∧ '/' ∉ s)
    ⟨fun ⟨hnil, hdot, hdots, hslash⟩ => ⟨hnil, hdot, hdots, hslash⟩,
      fun ⟨hnil, hdot, hdots, hslash⟩ => ⟨hnil, hdot, hdots, hslash⟩⟩

/-! ## Entries -/

theorem at?_append (t : FileTree α) (first second : List String) :
    t.at? (first ++ second) = (t.at? first).bind fun below => below.at? second := by
  induction first generalizing t with
  | nil => rfl
  | cons name rest ih =>
    rw [List.cons_append, at?, at?]
    cases Json.member? t.entries name with
    | none => rfl
    | some below => exact ih below

/-- What has anything below it is a directory. -/
theorem exists_entries_of_at? {t : FileTree α} {name : String} {rest : List String}
    {found : FileTree α} (h : t.at? (name :: rest) = some found) :
    ∃ entries below, t = .directory entries ∧ Json.member? entries name = some below ∧
      below.at? rest = some found := by
  rw [at?] at h
  obtain ⟨below, hbelow, hrest⟩ := Option.bind_eq_some_iff.1 h
  cases t with
  | directory entries => exact ⟨entries, below, rfl, hbelow, hrest⟩
  | file content => simp [entries, Json.member?] at hbelow
  | link target => simp [entries, Json.member?] at hbelow

theorem IsProper.at? {t found : FileTree α} (h : t.IsProper) {path : List String}
    (hfound : t.at? path = some found) :
    found.IsProper ∧ ∀ name ∈ path, Path.IsName name.toList := by
  induction path generalizing t with
  | nil =>
    cases hfound
    exact ⟨h, fun _ hname => nomatch hname⟩
  | cons name rest ih =>
    obtain ⟨entries, below, rfl, hmember, hrest⟩ := exists_entries_of_at? hfound
    cases h with
    | directory distinct names inner =>
      have hmem := Json.mem_of_member? hmember
      obtain ⟨hproper, hnames⟩ := ih (inner _ hmem) hrest
      exact ⟨hproper, List.forall_mem_cons.2 ⟨names _ hmem, hnames⟩⟩

/-! ## Following paths without links -/

theorem not_dots {name : String} (h : Path.IsName name.toList) : name ≠ ".." := by
  rintro rfl
  exact h.ne_dots rfl

/-- What stands on the way to a directory is a directory. -/
theorem exists_directory_of_at? {root : FileTree α} {dir rest : List String} {name : String}
    {entries : List (String × FileTree α)}
    (h : root.at? (dir ++ name :: rest) = some (.directory entries)) :
    ∃ more, root.at? (dir ++ [name]) = some (.directory more) := by
  have happend : dir ++ name :: rest = (dir ++ [name]) ++ rest := by simp
  rw [happend, at?_append] at h
  obtain ⟨t, ht, hrest⟩ := Option.bind_eq_some_iff.1 h
  cases rest with
  | nil =>
    cases hrest
    exact ⟨entries, ht⟩
  | cons next rest =>
    obtain ⟨more, -, rfl, -⟩ := exists_entries_of_at? hrest
    exact ⟨more, ht⟩

/-- Opening the path of a directory leads through no link. -/
theorem follow_of_at? {root : FileTree α} {dir names : List String}
    {entries : List (String × FileTree α)}
    (h : root.at? (dir ++ names) = some (.directory entries))
    (hnames : ∀ name ∈ names, Path.IsName name.toList) (links : Nat) :
    root.follow links dir names = .ok (dir ++ names, links) := by
  induction names generalizing dir with
  | nil => rw [follow, List.append_nil]
  | cons name rest ih =>
    obtain ⟨hname, hrest⟩ := List.forall_mem_cons.1 hnames
    obtain ⟨more, hhere⟩ := exists_directory_of_at? h
    rw [at?_append] at hhere
    obtain ⟨t, hdir, ht⟩ := Option.bind_eq_some_iff.1 hhere
    obtain ⟨inner, below, rfl, hmember, hbelow⟩ := exists_entries_of_at? ht
    cases hbelow
    rw [List.append_cons] at h
    have hstep := ih h hrest
    rw [← List.append_cons] at hstep
    rw [follow]
    simp only [hdir, not_dots hname, if_false, hmember]
    exact hstep

/-- The place of a directory is where its path says. -/
theorem walk_of_at? {root : FileTree α} {dir names : List String}
    {entries : List (String × FileTree α)}
    (h : root.at? (dir ++ names) = some (.directory entries))
    (hnames : ∀ name ∈ names, Path.IsName name.toList) (depth : Nat)
    (entered : List (List String)) :
    root.walk depth entered dir names = .ok (dir ++ names) := by
  induction names generalizing dir with
  | nil => rw [walk, List.append_nil]
  | cons name rest ih =>
    obtain ⟨hname, hrest⟩ := List.forall_mem_cons.1 hnames
    obtain ⟨more, hhere⟩ := exists_directory_of_at? h
    rw [List.append_cons] at h
    have hstep := ih h hrest
    rw [← List.append_cons] at hstep
    rw [walk]
    simp only [not_dots hname, if_false, hhere]
    exact hstep

/-- Whether a path leads to a directory, which is then shown under names from the root on. -/
def LeadsTo (root : FileTree α) (path : String) (shown : List String)
    (entries : List (String × FileTree α)) : Prop :=
  root.realPath (Path.names path) = .ok shown ∧
    ∃ place, root.locate shown = .ok (place, .directory entries)

theorem locate_of_follow {root : FileTree α} {names place : List String} {links : Nat}
    (h : root.follow maxLinks [] names = .ok (place, links)) :
    root.locate names = (root.at? place).elim (.error .missing) fun t => .ok (place, t) := by
  unfold locate
  rw [h]
  cases hplace : root.at? place <;> simp [bind, Except.bind, hplace]

theorem at?_of_locate {root t : FileTree α} {names place : List String}
    (h : root.locate names = .ok (place, t)) : root.at? place = some t := by
  cases hfollow : root.follow maxLinks [] names with
  | error fault =>
    unfold locate at h
    rw [hfollow] at h
    cases h
  | ok led =>
    rw [locate_of_follow hfollow] at h
    cases hthere : root.at? led.1 with
    | none =>
      rw [hthere] at h
      cases h
    | some found =>
      rw [hthere] at h
      cases h
      exact hthere

/-- What a path leads to in a proper tree is proper. -/
theorem LeadsTo.isProper {root : FileTree α} (hroot : root.IsProper) {path : String}
    {shown : List String} {entries : List (String × FileTree α)}
    (h : root.LeadsTo path shown entries) : (FileTree.directory entries).IsProper := by
  obtain ⟨-, place, hlocate⟩ := h
  exact (hroot.at? (at?_of_locate hlocate)).1

/-- A directory is shown under its own path. -/
theorem leadsTo_of_at? {root : FileTree α} (hroot : root.IsProper) {path : String}
    {entries : List (String × FileTree α)}
    (h : root.at? (Path.names path) = some (.directory entries)) :
    root.LeadsTo path (Path.names path) entries := by
  obtain ⟨-, hnames⟩ := hroot.at? h
  unfold LeadsTo
  generalize Path.names path = names at h hnames
  have hroot : root.at? ([] ++ names) = some (.directory entries) := h
  have hfollow := follow_of_at? hroot hnames maxLinks
  have hwalk := walk_of_at? hroot hnames (linkCount root.entries + 1) []
  rw [List.nil_append] at hfollow hwalk
  constructor
  · unfold realPath
    rw [hwalk]
  · refine ⟨names, ?_⟩
    rw [locate_of_follow hfollow, h]
    rfl

end FileTree

end ScriptLint

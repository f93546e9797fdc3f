/-
How loading modules fails. Where the engine refuses something it fails with an error of its own, one
for loading or one for scripts; where something breaks it, with an error of another kind, which no
handler of its own errors covers. Linking fails on a module that is needed, and as this module does
(`loading_fails`).
-/
import ScriptLint.Lint.Load
import ScriptLint.Proofs.Module.Canonical
import ScriptLint.Proofs.Module.Causes

namespace ScriptLint

/-! ## Kinds of errors -/

/-- How an action fails: with an error of the engine for loading or for scripts, or with another
one, that no handler of such errors covers. -/
structure FailsBy (fails own other : ModuleFault → Prop) : Prop where
  iff : ∀ fault, fails fault ↔ own fault ∨ other fault
  own : ∀ fault, own fault → fault.kind = "PluginIOError" ∨ fault.kind = "ScriptFault"
  other : ∀ fault, other fault → Failure.isEngineFault (.module fault) = false

section Kinds

variable {locate : Locate} {specifier referrer : String} {fault : ModuleFault}

theorem Refused.kind (h : Refused specifier referrer fault) : fault.kind = "PluginIOError" := by
  cases h <;> rfl

theorem Lost.not_isEngineFault
    (loops : ∀ segs fault, locate segs = .error fault → ∃ path, fault = .linkLoop path)
    (h : Lost locate specifier referrer fault) :
    Failure.isEngineFault (.module fault) = false := by
  cases h with
  | host _ => rfl
  | nul _ _ => rfl
  | place _ _ none =>
    obtain ⟨path, rfl⟩ := loops _ _ none
    rfl

theorem lexical_loops (segs : List Path.Segment) (fault : ModuleFault)
    (h : Locate.lexical segs = .error fault) : ∃ path, fault = .linkLoop path := by
  cases h

theorem resolve_failsBy
    (loops : ∀ segs fault, locate segs = .error fault → ∃ path, fault = .linkLoop path) :
    FailsBy (fun fault => resolveSpecifierBy locate specifier referrer = .error fault)
      (Refused specifier referrer) (Lost locate specifier referrer) :=
  ⟨fun _ => resolve_error_iff, fun _ h => .inl h.kind, fun _ h => h.not_isEngineFault loops⟩

theorem Factory.Refuses.kind {source : Bytes} {moduleId : String} {n : Node}
    (h : Refuses source moduleId n fault) :
    fault.kind = "PluginIOError" ∨ fault.kind = "ScriptFault" := by
  cases h with
  | specifier _ refused => exact .inl refused.kind
  | binding _ _ _ _ _ => exact .inr rfl
  | form _ _ => exact .inr rfl

theorem Factory.Breaks.not_isEngineFault {source : Bytes} {moduleId : String} {n : Node}
    (h : Breaks source moduleId n fault) : Failure.isEngineFault (.module fault) = false := by
  cases h with
  | specifier _ lost => exact lost.not_isEngineFault lexical_loops
  | nameless _ _ _ _ _ => rfl

theorem toFactory_failsBy {m : ModuleText} (complete : m.IsComplete) (moduleId : String) :
    FailsBy (fun fault => m.toFactory moduleId = .error fault) (Factory.RefusesModule m moduleId)
      (Factory.BreaksModule m moduleId) where
  iff _ := Factory.toFactory_error_iff complete
  own fault h := by
    cases h with
    | unparsable _ => exact .inr rfl
    | statement _ refuses => exact refuses.kind
  other fault h := by
    cases h with
    | statement _ breaks => exact breaks.not_isEngineFault

end Kinds

/-! ## Reading -/

section Reading

variable {fault : ModuleFault}

/-- A module cannot be read, or is no text. -/
inductive Unreadable (root : FileTree StoredFile) (path : String) : ModuleFault → Prop where
  | closed {why : OpenFault} (visible : Char.ofNat 0 ∉ path.toList)
      (read : root.read path = .error why) : Unreadable root path (.unreadable path (.closed why path))
  | badText {file : StoredFile} {why : Utf8.Fault} (visible : Char.ofNat 0 ∉ path.toList)
      (read : root.read path = .ok file) (decoded : Utf8.decode file.text.source = .error why) :
      Unreadable root path (.unreadable path (.badText why))

theorem loadSource_error_iff {root : FileTree StoredFile} {path : String} :
    loadSource root path = .error fault ↔
      Unreadable root path fault ∨ Char.ofNat 0 ∈ path.toList ∧ fault = .nulInPath := by
  unfold loadSource
  rw [String.contains_char_eq]
  by_cases hnul : Char.ofNat 0 ∈ path.toList
  · rw [if_pos (by simpa using hnul)]
    constructor
    · rintro ⟨⟩
      exact .inr ⟨hnul, rfl⟩
    · rintro (h | ⟨-, rfl⟩)
      · cases h with
        | closed visible _ => exact absurd hnul visible
        | badText visible _ _ => exact absurd hnul visible
      · rfl
  · rw [if_neg (by simpa using hnul)]
    constructor
    · intro h
      split at h
      · next why hread =>
        cases h
        exact .inl (.closed hnul hread)
      · next file hread =>
        split at h
        · next why hdecode =>
          cases h
          exact .inl (.badText hnul hread hdecode)
        · cases h
    · rintro (h | ⟨h, -⟩)
      · cases h with
        | closed _ read => simp only [read]
        | badText _ read decoded => simp only [read, decoded]
      · exact absurd h hnul

theorem loadSource_failsBy (root : FileTree StoredFile) (path : String) :
    FailsBy (fun fault => loadSource root path = .error fault) (Unreadable root path)
      (fun fault => Char.ofNat 0 ∈ path.toList ∧ fault = .nulInPath) where
  iff _ := loadSource_error_iff
  own fault h := by
    cases h <;> exact .inl rfl
  other fault h := by
    obtain ⟨-, rfl⟩ := h
    rfl

end Reading

/-! ## Linking -/

namespace Link

/-- The engine refuses a module: it cannot be read, or it is not as a module should be. -/
inductive Refuses (lib : Library ModuleText) (entryId : String) (entry : ModuleText) (id : String) :
    ModuleFault → Prop where
  | unreadable (missing : moduleOf? lib entryId entry id = none) :
      Refuses lib entryId entry id (.unreadable id (lib.missing id))
  | module {m : ModuleText} {fault : ModuleFault} (found : moduleOf? lib entryId entry id = some m)
      (refuses : Factory.RefusesModule m id fault) : Refuses lib entryId entry id fault

/-- A module breaks the engine. -/
inductive Breaks (lib : Library ModuleText) (entryId : String) (entry : ModuleText) (id : String) :
    ModuleFault → Prop where
  | module {m : ModuleText} {fault : ModuleFault} (found : moduleOf? lib entryId entry id = some m)
      (breaks : Factory.BreaksModule m id fault) : Breaks lib entryId entry id fault

variable {lib : Library ModuleText} {entryId id : String} {entry : ModuleText}

theorem moduleOf?_isComplete (hentry : entry.IsComplete)
    (hlib : ∀ p ∈ lib.modules, p.2.IsComplete) {m : ModuleText}
    (found : moduleOf? lib entryId entry id = some m) : m.IsComplete := by
  unfold moduleOf? at found
  split at found
  · cases found
    exact hentry
  · unfold Library.find? at found
    obtain ⟨p, hp, rfl⟩ := Option.map_eq_some_iff.1 found
    exact hlib p (List.mem_of_find?_eq_some hp)

theorem rewritten_error_iff {m : ModuleText} {fault : ModuleFault} :
    rewritten id m = .error fault ↔ m.toFactory id = .error fault := by
  unfold rewritten
  cases m.toFactory id <;> simp [Except.map]

theorem failsOn_failsBy (hentry : entry.IsComplete) (hlib : ∀ p ∈ lib.modules, p.2.IsComplete)
    (entryId id : String) : FailsBy (FailsOn lib rewritten entryId entry id)
      (Refuses lib entryId entry id) (Breaks lib entryId entry id) where
  iff fault := by
    constructor
    · rintro (⟨missing, rfl⟩ | ⟨m, found, h⟩)
      · exact .inl (.unreadable missing)
      · have complete := moduleOf?_isComplete hentry hlib found
        rcases ((toFactory_failsBy complete id).iff fault).1 (rewritten_error_iff.1 h) with h | h
        · exact .inl (.module found h)
        · exact .inr (.module found h)
    · rintro (h | h)
      · cases h with
        | unreadable missing => exact .inl ⟨missing, rfl⟩
        | @module m _ found refuses =>
          have complete := moduleOf?_isComplete hentry hlib found
          have h := ((toFactory_failsBy complete id).iff fault).2 (.inl refuses)
          exact .inr ⟨m, found, rewritten_error_iff.2 h⟩
      · cases h with
        | @module m _ found breaks =>
          have complete := moduleOf?_isComplete hentry hlib found
          have h := ((toFactory_failsBy complete id).iff fault).2 (.inr breaks)
          exact .inr ⟨m, found, rewritten_error_iff.2 h⟩
  own fault h := by
    cases h with
    | unreadable _ => exact .inl rfl
    | module found refuses =>
      exact (toFactory_failsBy (moduleOf?_isComplete hentry hlib found) id).own fault refuses
  other fault h := by
    cases h with
    | module found breaks =>
      exact (toFactory_failsBy (moduleOf?_isComplete hentry hlib found) id).other fault breaks

/-- Linking fails if something that the entry module needs fails, and only as this does. -/
structure FailsAsNeeded (lib : Library ModuleText) (entryId : String) (entry : ModuleText) :
    Prop where
  failsBy : ∀ id, FailsBy (FailsOn lib rewritten entryId entry id) (Refuses lib entryId entry id)
    (Breaks lib entryId entry id)
  fails_iff : (∃ fault, link lib rewritten entryId entry = .error fault) ↔
    ∃ id, Needs lib rewritten entryId entry entryId id ∧
      ∃ fault, FailsOn lib rewritten entryId entry id fault
  cause : ∀ fault, link lib rewritten entryId entry = .error fault →
    ∃ id, Needs lib rewritten entryId entry entryId id ∧
      FailsOn lib rewritten entryId entry id fault
  /-- Where nothing breaks the engine, it fails with its own errors only. -/
  covered : (∀ id, Needs lib rewritten entryId entry entryId id → ∀ fault,
      ¬Breaks lib entryId entry id fault) →
    ∀ fault, link lib rewritten entryId entry = .error fault →
      fault.kind = "PluginIOError" ∨ fault.kind = "ScriptFault"

theorem link_error {fault : ModuleFault} (h : link lib rewritten entryId entry = .error fault) :
    ∃ id, Needs lib rewritten entryId entry entryId id ∧
      FailsOn lib rewritten entryId entry id fault := by
  refine search_error ?_
  unfold link at h
  cases hsearch : search lib rewritten entryId entry with
  | error fault' =>
    rw [hsearch] at h
    cases h
    rfl
  | ok p =>
    rw [hsearch] at h
    cases h

theorem link_fails {fault : ModuleFault} (hneeds : Needs lib rewritten entryId entry entryId id)
    (h : FailsOn lib rewritten entryId entry id fault) :
    ∃ fault, link lib rewritten entryId entry = .error fault := by
  cases hlink : link lib rewritten entryId entry with
  | error fault' => exact ⟨fault', rfl⟩
  | ok modules =>
    obtain ⟨p, hsearch, rfl⟩ := link_eq_ok_iff.1 hlink
    have hlinking := isLinking_of_search hsearch
    obtain ⟨m, hm, rfl⟩ := List.mem_map.1 ((hlinking.mem_iff id).2 hneeds)
    obtain ⟨needed, hprepares⟩ := hlinking.prepared m hm
    exact absurd hprepares h.not_prepares

theorem failsAsNeeded (hentry : entry.IsComplete) (hlib : ∀ p ∈ lib.modules, p.2.IsComplete) :
    FailsAsNeeded lib entryId entry where
  failsBy := failsOn_failsBy hentry hlib entryId
  fails_iff := by
    constructor
    · rintro ⟨fault, h⟩
      obtain ⟨id, hneeds, hfails⟩ := link_error h
      exact ⟨id, hneeds, fault, hfails⟩
    · rintro ⟨id, hneeds, fault, hfails⟩
      exact link_fails hneeds hfails
  cause _ h := link_error h
  covered none fault h := by
    obtain ⟨id, hneeds, hfails⟩ := link_error h
    have failsBy := failsOn_failsBy hentry hlib entryId id
    rcases (failsBy.iff fault).1 hfails with hrefuses | hbreaks
    · exact failsBy.own fault hrefuses
    · exact absurd hbreaks (none id hneeds fault)

end Link

/-- Naming, reading, rewriting and linking modules fails for reasons that the engine reports as its
own errors, and for others that it does not. Reading a module that a specifier names only fails with
an error of the engine. -/
theorem loading_fails (locate : Locate)
    (loops : ∀ segs fault, locate segs = .error fault → ∃ path, fault = .linkLoop path)
    (specifier referrer : String) (root : FileTree StoredFile) (lib : Library ModuleText)
    (hlib : ∀ p ∈ lib.modules, p.2.IsComplete) (entryId : String) (entry : ModuleText)
    (hentry : entry.IsComplete) :
    FailsBy (fun fault => resolveSpecifierBy locate specifier referrer = .error fault)
      (Refused specifier referrer) (Lost locate specifier referrer) ∧
    (∀ path, FailsBy (fun fault => loadSource root path = .error fault) (Unreadable root path)
      (fun fault => Char.ofNat 0 ∈ path.toList ∧ fault = .nulInPath)) ∧
    (∀ id, resolveSpecifier specifier referrer = .ok id →
      ∀ fault, loadSource root id = .error fault → Unreadable root id fault) ∧
    (∀ m moduleId, m = entry ∨ (∃ id, (id, m) ∈ lib.modules) →
      FailsBy (fun fault => m.toFactory moduleId = .error fault)
        (Factory.RefusesModule m moduleId) (Factory.BreaksModule m moduleId)) ∧
    Link.FailsAsNeeded lib entryId entry := by
  refine ⟨resolve_failsBy loops, loadSource_failsBy root, fun id hid fault hfault => ?_,
    fun m moduleId hm => ?_, Link.failsAsNeeded hentry hlib⟩
  · obtain ⟨-, -, hnul, -⟩ := resolve_ok hid
    rcases loadSource_error_iff.1 hfault with h | ⟨h, -⟩
    · exact h
    · exact absurd h hnul
  · rcases hm with rfl | ⟨id, hm⟩
    · exact toFactory_failsBy hentry moduleId
    · exact toFactory_failsBy (hlib _ hm) moduleId

/-- The module `import '//[';`. -/
def bracketImporter : ModuleText :=
  { source := Utf8.encode "import '//[';"
    root := .mk ⟨"program", ⟨0, 13, by decide⟩, true, none⟩
      [.mk ⟨"import_statement", ⟨0, 13, by decide⟩, true, none⟩
        [.mk ⟨"string", ⟨7, 12, by decide⟩, true, some "source"⟩ []]]
    hasErrors := false }

def noLibrary : Library ModuleText := { modules := [], missing := .closed .missing }

/-- A bracket that is not closed breaks the engine: no error of its own says that the specifier is
wrong. -/
theorem loading_fails_bracket :
    link noLibrary Link.rewritten "/w/m.js" bracketImporter = .error (.badHost .unbalanced) ∧
      Lost .lexical "//[" "/w/m.js" (.badHost .unbalanced) ∧
      Failure.isEngineFault (.module (.badHost .unbalanced)) = false ∧
      ∃ id, Link.Breaks noLibrary "/w/m.js" bracketImporter id (.badHost .unbalanced) := by
  have complete : bracketImporter.IsComplete := by
    intro n hn
    obtain rfl := List.mem_singleton.1 hn
    exact ⟨by decide, by decide, by decide⟩
  obtain ⟨hresolve, -, -, -, hlink⟩ := loading_fails .lexical lexical_loops "//[" "/w/m.js"
    (.directory []) noLibrary nofun "/w/m.js" bracketImporter complete
  have herror : link noLibrary Link.rewritten "/w/m.js" bracketImporter =
      .error (.badHost .unbalanced) := rfl
  obtain ⟨id, -, hcause⟩ := hlink.cause _ herror
  -- its kind is that of no error of the engine
  have hkind : ¬((ModuleFault.badHost .unbalanced).kind = "PluginIOError" ∨
      (ModuleFault.badHost .unbalanced).kind = "ScriptFault") := by decide
  refine ⟨herror, ?_, rfl, id, ?_⟩
  · exact ((hresolve.iff _).1 rfl).resolve_left fun h => hkind (hresolve.own _ h)
  · exact (((hlink.failsBy id).iff _).1 hcause).resolve_left
      fun h => hkind ((hlink.failsBy id).own _ h)

end ScriptLint

/-
Collecting the modules that an entry module needs. The graph is searched depth first; a module
comes after the modules it requires, as far as cycles allow, and the entry comes last. Every
module is read and prepared once.
-/
import ScriptLint.Module.Resolve

namespace ScriptLint

/-- The modules that can be read, by id, and why any other id cannot. -/
structure Library (μ : Type) where
  modules : List (String × μ)
  missing : String → ReadFault
  /-- How the places of modules are found. -/
  locate : Locate := .lexical

/-- The module with an id. -/
def Library.find? {μ : Type} (lib : Library μ) (id : String) : Option μ :=
  (lib.modules.find? fun m => m.1 == id).map (·.2)

/-- A module whose body is ready to be defined. -/
structure Linked (β : Type) where
  id : String
  body : β
  deriving Repr

namespace Link

/-- The modules met so far, the ids that the library was asked for in order, and the finished
modules in order. -/
structure Progress (β : Type) where
  seen : List String
  asked : List String := []
  finished : List (Linked β)

/-- Before the search for the modules that an entry module needs. -/
def Progress.start {β : Type} (entryId : String) : Progress β := { seen := [entryId], finished := [] }

/-- A module has been read and is being prepared. -/
def Progress.meet {β : Type} (p : Progress β) (id : String) : Progress β :=
  { p with seen := id :: p.seen, asked := p.asked ++ [id] }

/-- All that a module needs is finished as far as cycles allow, and so is the module. -/
def Progress.finish {β : Type} (p : Progress β) (m : Linked β) : Progress β :=
  { p with finished := p.finished ++ [m] }

/-- How many modules of the library have not been met. -/
def unseen {μ : Type} (lib : Library μ) (seen : List String) : Nat :=
  lib.modules.countP fun m => !seen.contains m.1

theorem unseen_cons_le {μ : Type} (lib : Library μ) (id : String) (seen : List String) :
    unseen lib (id :: seen) ≤ unseen lib seen := by
  apply List.countP_mono_left
  intro m _
  simp

theorem unseen_cons_lt {μ : Type} {lib : Library μ} {id : String} {seen : List String} {m : μ}
    (found : lib.find? id = some m) (fresh : id ∉ seen) :
    unseen lib (id :: seen) < unseen lib seen := by
  unfold Library.find? at found
  obtain ⟨entry, hfind, -⟩ := Option.map_eq_some_iff.1 found
  have hmem := List.mem_of_find?_eq_some hfind
  have hid : entry.1 = id := by simpa using List.find?_some hfind
  unfold unseen
  generalize lib.modules = ms at hmem
  induction ms with
  | nil => simp at hmem
  | cons x rest ih =>
    have mono : rest.countP (fun m => !(id :: seen).contains m.1)
        ≤ rest.countP (fun m => !seen.contains m.1) := by
      apply List.countP_mono_left
      intro m _
      simp
    rcases List.mem_cons.1 hmem with rfl | hrest
    · simp only [List.countP_cons]
      simp [hid, fresh] at mono ⊢
      omega
    · have := ih hrest
      simp only [List.countP_cons]
      by_cases hx : x.1 = id
      · simp [hx, fresh] at this ⊢
        omega
      · by_cases hs : x.1 ∈ seen <;> simp [hx, hs] at this ⊢ <;> omega

/-- Meets the modules of a list of ids and all they need. -/
def visitAll {μ β : Type} (lib : Library μ)
    (prepare : String → μ → Except ModuleFault (β × List String)) (ids : List String)
    (p : Progress β) :
    Except ModuleFault { q : Progress β // unseen lib q.seen ≤ unseen lib p.seen } :=
  match ids with
  | [] => .ok ⟨p, Nat.le_refl _⟩
  | id :: rest =>
    if _fresh : id ∈ p.seen then visitAll lib prepare rest p
    else
      match _found : lib.find? id with
      | none => .error (.unreadable id (lib.missing id))
      | some m =>
        match prepare id m with
        | .error fault => .error fault
        | .ok (body, needed) =>
          match visitAll lib prepare needed (p.meet id) with
          | .error fault => .error fault
          | .ok ⟨q, below⟩ =>
            match visitAll lib prepare rest (q.finish ⟨id, body⟩) with
            | .error fault => .error fault
            | .ok ⟨r, le⟩ =>
              .ok ⟨r, Nat.le_trans le (Nat.le_trans below (unseen_cons_le lib id p.seen))⟩
termination_by (unseen lib p.seen, ids.length)
decreasing_by
  · exact .right _ (by simp)
  · exact .left _ _ (unseen_cons_lt _found _fresh)
  · have : unseen lib q.seen < unseen lib p.seen :=
      Nat.lt_of_le_of_lt below (unseen_cons_lt _found _fresh)
    exact .left _ _ this

/-- The search from an entry module, which is not read from the library. -/
def search {μ β : Type} (lib : Library μ)
    (prepare : String → μ → Except ModuleFault (β × List String)) (entryId : String) (entry : μ) :
    Except ModuleFault (Progress β) := do
  let (body, needed) ← prepare entryId entry
  let ⟨p, _⟩ ← visitAll lib prepare needed (.start entryId)
  return p.finish ⟨entryId, body⟩

end Link

/-- The modules reachable from an entry module, each after those it requires. -/
def link {μ β : Type} (lib : Library μ)
    (prepare : String → μ → Except ModuleFault (β × List String)) (entryId : String) (entry : μ) :
    Except ModuleFault (List (Linked β)) :=
  (Link.search lib prepare entryId entry).map (·.finished)

end ScriptLint

/-
Import and export statements form by form: what each form is replaced from, and the lists of names
in braces, whose pairs are the texts of their specifiers (`pairs_eq`).
-/
import ScriptLint.Proofs.Module.Requires

namespace ScriptLint.Factory

/-! ## Steps for every item -/

section Steps

variable {ε α β : Type} {f : α → Except ε β} {items : List α} {e : ε}

theorem bind_error_iff {x : Except ε α} {g : α → Except ε β} :
    (x >>= g) = .error e ↔ x = .error e ∨ ∃ a, x = .ok a ∧ g a = .error e := by
  cases x with
  | error e' => simp [bind, Except.bind]
  | ok a => simp [bind, Except.bind]

theorem bind_pure_error_iff {x : Except ε α} {g : α → β} :
    (x >>= fun a => pure (g a)) = .error e ↔ x = .error e := by
  rw [bind_error_iff]
  simp [pure, Except.pure]

/-- A list of steps fails where the first of them fails. -/
theorem mapM_error_iff : items.mapM f = .error e ↔
    ∃ before a after, items = before ++ a :: after ∧ (∀ b ∈ before, ∃ r, f b = .ok r) ∧
      f a = .error e := by
  induction items with
  | nil =>
    constructor
    · intro h
      cases h
    · rintro ⟨before, a, after, h, -⟩
      exact absurd h.symm (by simp)
  | cons first rest ih =>
    rw [List.mapM_cons, bind_error_iff]
    constructor
    · rintro (h | ⟨r, hr, h⟩)
      · exact ⟨[], first, rest, rfl, by simp, h⟩
      · rcases bind_error_iff.1 h with h | ⟨_, -, h⟩
        · obtain ⟨before, a, after, rfl, hbefore, ha⟩ := ih.1 h
          exact ⟨first :: before, a, after, rfl, List.forall_mem_cons.2 ⟨⟨r, hr⟩, hbefore⟩, ha⟩
        · cases h
    · rintro ⟨before, a, after, hitems, hbefore, ha⟩
      cases before with
      | nil =>
        cases hitems
        exact .inl ha
      | cons b before =>
        cases hitems
        obtain ⟨⟨r, hr⟩, hbefore⟩ := List.forall_mem_cons.1 hbefore
        exact .inr ⟨r, hr, bind_error_iff.2 (.inl (ih.2 ⟨before, a, after, rfl, hbefore, ha⟩))⟩

theorem mapM_succeeds (h : ∀ a ∈ items, ∃ r, f a = .ok r) : ∃ rs, items.mapM f = .ok rs := by
  cases hresult : items.mapM f with
  | ok rs => exact ⟨rs, rfl⟩
  | error e =>
    obtain ⟨before, a, after, rfl, -, ha⟩ := mapM_error_iff.1 hresult
    obtain ⟨r, hr⟩ := h a (by simp)
    rw [hr] at ha
    cases ha

end Steps

variable {source : Bytes} {moduleId kind : String} {n list declaration value specifier : Node}

/-! ## Forms of statements -/

/-- What an export statement has under the fields that decide its form. -/
structure IsExport (n : Node) (declaration value specifier : Option Node) : Prop where
  kind : n.kind = "export_statement"
  declaration : n.child? "declaration" = declaration
  value : n.child? "value" = value
  specifier : n.child? "source" = specifier

theorem statement_import (h : n.kind = "import_statement") :
    statement source moduleId n = (do
      let specifier ← part n "source"
      let id ← specifierId source moduleId specifier
      let text ← importText source n id
      return some (text, some id)) := by
  unfold statement
  rw [if_pos (by simp [h])]

theorem statement_declaration {value? specifier? : Option Node}
    (h : IsExport n (some declaration) value? specifier?) :
    statement source moduleId n = (do
      let text ← declarationText source (n.children.any fun c => c.kind == "default") declaration
      return some (text, none)) := by
  unfold statement
  rw [if_neg (by simp [h.kind]), if_pos (by simp [h.kind]), h.declaration]

theorem statement_value {specifier? : Option Node} (h : IsExport n none (some value) specifier?) :
    statement source moduleId n =
      .ok (some (exportsName ++ ".default = (" ++ value.text source ++ ");", none)) := by
  unfold statement
  rw [if_neg (by simp [h.kind]), if_pos (by simp [h.kind]), h.declaration, h.value]
  rfl

theorem statement_reexport (h : IsExport n none none (some specifier)) :
    statement source moduleId n = (do
      let id ← specifierId source moduleId specifier
      let text ← reexportText source n id
      return some (text, some id)) := by
  unfold statement
  rw [if_neg (by simp [h.kind]), if_pos (by simp [h.kind]), h.declaration, h.value, h.specifier]

theorem statement_list (h : IsExport n none none none) :
    statement source moduleId n = (do
      let text ← exportText source n
      return some (text, none)) := by
  unfold statement
  rw [if_neg (by simp [h.kind]), if_pos (by simp [h.kind]), h.declaration, h.value, h.specifier]

theorem statement_of_not_linkage (h : isLinkage n = false) : statement source moduleId n = .ok none := by
  rw [isLinkage, Bool.or_eq_false_iff] at h
  unfold statement
  simp only [h.1, h.2]
  rfl

/-! ## Lists of names -/

/-- A specifier of a list in braces: a name, and the one behind `as` if there is one. -/
structure Specifier where
  name : Node
  newName : Option Node

/-- The specifier at a node. -/
def Specifier.of? (n : Node) : Option Specifier :=
  (n.child? "name").map fun name => ⟨name, n.child? "alias"⟩

/-- The specifiers of a list. -/
def specifiers (list : Node) (kind : String) : List Specifier :=
  (list.namedChildren.filter fun c => c.kind == kind).filterMap Specifier.of?

/-- The text of a name, between the quotes if it has some. -/
def nameText (source : Bytes) (name : Node) : String :=
  if name.kind == "string" then unquote (name.text source) else name.text source

/-- The text of the name on the other side: what stands behind `as`, as it is written. -/
def Specifier.otherText (source : Bytes) (s : Specifier) : String :=
  (s.newName.map (Node.text source)).getD (nameText source s.name)

/-- The pairs of a list are the texts of its specifiers. -/
theorem pairs_eq {names : List (String × String)} (h : pairs source list kind = .ok names) :
    names = (specifiers list kind).map fun s => (nameText source s.name, s.otherText source) := by
  unfold pairs at h
  unfold specifiers
  generalize list.namedChildren.filter (fun c => c.kind == kind) = specs at h ⊢
  induction specs generalizing names with
  | nil =>
    cases h
    rfl
  | cons spec rest ih =>
    rw [List.mapM_cons] at h
    obtain ⟨pair, hpair, h⟩ := bind_ok h
    obtain ⟨others, hothers, h⟩ := bind_ok h
    obtain ⟨name, hname, hpair⟩ := bind_ok hpair
    cases h
    cases hpair
    have hspec : Specifier.of? spec = some ⟨name, spec.child? "alias"⟩ := by
      rw [Specifier.of?, part_ok hname]
      rfl
    rw [List.filterMap_cons_some hspec, List.map_cons, ih hothers]
    rfl

/-- A list whose specifiers all have a name can be read. -/
theorem pairs_succeeds
    (h : ∀ c ∈ list.namedChildren, c.kind = kind → (c.child? "name").isSome = true) :
    ∃ names, pairs source list kind = .ok names := by
  refine mapM_succeeds fun spec hspec => ?_
  obtain ⟨hmem, hkind⟩ := List.mem_filter.1 hspec
  obtain ⟨name, hname⟩ := Option.isSome_iff_exists.1 (h spec hmem (eq_of_beq hkind))
  have hpart : part spec "name" = .ok name := by rw [part, hname]
  exact ⟨_, by rw [hpart]; rfl⟩

end ScriptLint.Factory

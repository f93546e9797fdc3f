/-
Which modules the replacements of import and export statements require. A replacement is put
together from calls, quoted names, texts of the statement and fixed words (`Composed`), so it can be
said which calls it holds without reading it again. The calls are for the module that the statement
names, and the listed modules are those that statements name, so that whatever is called is listed
and linked; but a statement that exports an empty list of names from a module has an empty
replacement, and the module is listed and not called (`toFactory_requires`).
-/
import ScriptLint.Proofs.Flow.Bodies
import ScriptLint.Proofs.Module.Order

namespace ScriptLint.Factory

/-! ## Steps that can fail -/

section Steps

variable {ε α β : Type}

theorem bind_ok {x : Except ε α} {f : α → Except ε β} {b : β} (h : (x >>= f) = .ok b) :
    ∃ a, x = .ok a ∧ f a = .ok b := by
  cases x with
  | error e => cases h
  | ok a => exact ⟨a, rfl, h⟩

/-- Where a step is taken for every item of a list, each result is that of an item and each item has
a result. -/
theorem mapM_ok {f : α → Except ε β} {items : List α} {results : List β}
    (h : items.mapM f = .ok results) :
    (∀ b ∈ results, ∃ a ∈ items, f a = .ok b) ∧ ∀ a ∈ items, ∃ b ∈ results, f a = .ok b := by
  induction items generalizing results with
  | nil =>
    cases h
    simp
  | cons a rest ih =>
    rw [List.mapM_cons] at h
    obtain ⟨b, hb, h⟩ := bind_ok h
    obtain ⟨others, hrest, h⟩ := bind_ok h
    cases h
    obtain ⟨hresults, hitems⟩ := ih hrest
    constructor
    · rintro c (_ | ⟨_, hc⟩)
      · exact ⟨a, List.mem_cons_self, hb⟩
      · obtain ⟨d, hd, hfd⟩ := hresults c hc
        exact ⟨d, List.mem_cons_of_mem _ hd, hfd⟩
    · rintro c (_ | ⟨_, hc⟩)
      · exact ⟨b, List.mem_cons_self, hb⟩
      · obtain ⟨d, hd, hfd⟩ := hitems c hc
        exact ⟨d, List.mem_cons_of_mem _ hd, hfd⟩

end Steps

/-! ## What replacements are made of -/

/-- Whether a text is that of a node inside a node, perhaps without its quotes. -/
def IsCopied (source : Bytes) (n : Node) (text : String) : Prop :=
  ∃ x ∈ n.preorder, text = x.text source ∨ text = unquote (x.text source)

/-- The words between calls, names and copied texts. -/
def fixedWords : List String :=
  [" ", "\n", ";", ", ", ": ", ".", " = ", "[", "]", "] = ", ");", "const ", "const \x7b ",
   " \x7d = ", exportsName, ".default;", ".default = ", ".default = (",
   "(function (m) \x7b for (const k of Object.keys(m)) \x7b if (k !== \"default\") ",
   "[k] = m[k]; \x7d \x7d)("]

/-- A text that is put together for a statement, and the modules that the calls in it require, in
their order. -/
inductive Composed (source : Bytes) (n : Node) : String → List String → Prop where
  | nothing : Composed source n "" []
  | call (id : String) : Composed source n (requireCall id) [id]
  | quoted (name : String) : Composed source n (Json.quote name) []
  | copied {text : String} (h : IsCopied source n text) : Composed source n text []
  | words {text : String} (h : text ∈ fixedWords) : Composed source n text []
  | append {t t' : String} {ids ids' : List String} (h : Composed source n t ids)
      (h' : Composed source n t' ids') : Composed source n (t ++ t') (ids ++ ids')

/-- Whether a statement imports or exports. -/
def isLinkage (n : Node) : Bool := n.kind == "import_statement" || n.kind == "export_statement"

/-- A statement names a module, from which it imports or exports again. -/
def NamesModule (source : Bytes) (moduleId : String) (n : Node) (id : String) : Prop :=
  (n.kind = "import_statement" ∨ n.kind = "export_statement" ∧ n.child? "declaration" = none ∧
    n.child? "value" = none) ∧
  ∃ specifier, n.child? "source" = some specifier ∧ specifierId source moduleId specifier = .ok id

/-- The kinds of parts of an import clause that bind names; a list in braces may be empty. -/
def bindingKinds : List String := ["identifier", "namespace_import", "named_imports"]

/-- Whether a statement has a clause with nothing in it that stands for a name: an export of an
empty list, or an import clause without any binding, which the grammar does not have. -/
def isSilent (n : Node) : Bool :=
  if n.kind == "import_statement" then
    (namedOfKind? n "import_clause").any fun clause =>
      clause.namedChildren.all fun c => !bindingKinds.contains c.kind
  else
    (namedOfKind? n "export_clause").any fun clause =>
      clause.namedChildren.all fun c => c.kind != "export_specifier"

variable {source : Bytes} {moduleId id : String} {n c clause : Node} {t t' text : String}
  {ids calls ts : List String}

theorem IsCopied.mono (h : IsCopied source c text) (hc : c ∈ n.preorder) :
    IsCopied source n text := by
  obtain ⟨x, hx, htext⟩ := h
  exact ⟨x, Node.mem_preorder_trans hx hc, htext⟩

theorem isCopied_text (hc : c ∈ n.preorder) : IsCopied source n (c.text source) :=
  ⟨c, hc, .inl rfl⟩

namespace Composed

theorem before (h : Composed source n t []) (h' : Composed source n t' ids) :
    Composed source n (t ++ t') ids := h.append h'

theorem after (h : Composed source n t ids) (h' : Composed source n t' []) :
    Composed source n (t ++ t') ids := by
  simpa using h.append h'

theorem word (h : Composed source n t ids) (hw : text ∈ fixedWords) :
    Composed source n (t ++ text) ids := h.after (.words hw)

/-- Texts that each require the same modules, with a word between them. -/
theorem intercalate (hsep : text ∈ fixedWords) (h : ∀ t ∈ ts, Composed source n t ids) :
    Composed source n (text.intercalate ts) (ts.flatMap fun _ => ids) := by
  induction ts with
  | nil => exact .nothing
  | cons t rest ih =>
    obtain ⟨ht, hrest⟩ := List.forall_mem_cons.1 h
    cases rest with
    | nil => simpa using ht
    | cons u rest =>
      rw [String.intercalate_cons_cons, List.flatMap_cons]
      exact (ht.word hsep).append (ih hrest)

theorem plainList (hsep : text ∈ fixedWords) (h : ∀ t ∈ ts, Composed source n t []) :
    Composed source n (text.intercalate ts) [] := by
  have hlist := intercalate hsep h
  rwa [List.flatMap_eq_nil_iff.2 fun _ _ => rfl] at hlist

/-- A declaration whose value comes from a call. -/
theorem declare {opening middle ending : String} (hopening : opening ∈ fixedWords)
    (h : Composed source n t []) (hmiddle : middle ∈ fixedWords) (hending : ending ∈ fixedWords) :
    Composed source n (opening ++ t ++ middle ++ requireCall id ++ ending) [id] :=
  ((((words hopening).before h).word hmiddle).before (.call id)).word hending

theorem assign (name : String) (h : Composed source n t ids) :
    Composed source n (assignExport name t) ids :=
  ((((Composed.words (by decide)).word (by decide)).after (.quoted name)).word (by decide)).before h
    |>.word (by decide)

end Composed

/-! ## Names -/

theorem part_ok {field : String} (h : part n field = .ok c) : n.child? field = some c := by
  unfold part at h
  split at h
  · next hchild =>
    cases h
    exact hchild
  · cases h

theorem pairs_ok {kind : String} {names : List (String × String)}
    (h : pairs source clause kind = .ok names) :
    (∀ p ∈ names, IsCopied source clause p.1 ∧ IsCopied source clause p.2) ∧
      (names = [] ↔ ∀ c ∈ clause.namedChildren, c.kind ≠ kind) := by
  obtain ⟨hnames, hspecs⟩ := mapM_ok h
  constructor
  · intro p hp
    obtain ⟨spec, hspec, hpair⟩ := hnames p hp
    have hmem : spec ∈ clause.preorder :=
      Node.mem_preorder_child (Node.mem_children_of_mem_namedChildren (List.mem_filter.1 hspec).1)
    obtain ⟨name, hname, hpair⟩ := bind_ok hpair
    have hpart : name ∈ clause.preorder := Node.mem_preorder_trans
      (Node.mem_preorder_child (Node.mem_children_of_child? (part_ok hname))) hmem
    have hfirst : IsCopied source clause
        (if name.kind == "string" then unquote (name.text source) else name.text source) := by
      split
      · exact ⟨name, hpart, .inr rfl⟩
      · exact isCopied_text hpart
    cases hpair
    refine ⟨hfirst, ?_⟩
    cases halias : spec.child? "alias" with
    | none => exact hfirst
    | some other =>
      have hother := Node.mem_preorder_child (Node.mem_children_of_child? halias)
      exact isCopied_text (Node.mem_preorder_trans hother hmem)
  · constructor
    · rintro rfl c hc hkind
      obtain ⟨b, hb, -⟩ := hspecs c (List.mem_filter.2 ⟨hc, by simp [hkind]⟩)
      cases hb
    · intro hnone
      rw [List.eq_nil_iff_forall_not_mem]
      intro p hp
      obtain ⟨spec, hspec, -⟩ := hnames p hp
      obtain ⟨hc, hkind⟩ := List.mem_filter.1 hspec
      exact hnone spec hc (eq_of_beq hkind)

theorem declaredNames_ok {names : List String} (h : declaredNames source c = .ok names) :
    ∀ name ∈ names, IsCopied source c name := by
  unfold declaredNames at h
  split at h
  · intro name hname
    obtain ⟨declarator, hdeclarator, hbound⟩ := (mapM_ok h).1 name hname
    have hmem := Node.mem_preorder_child
      (Node.mem_children_of_mem_namedChildren (List.mem_filter.1 hdeclarator).1)
    split at hbound
    · next x hx =>
      cases hbound
      have hchild := Node.mem_children_of_child? (Option.filter_eq_some_iff.1 hx).1
      exact isCopied_text (Node.mem_preorder_trans (Node.mem_preorder_child hchild) hmem)
    · cases hbound
  · cases h
    intro name hname
    obtain ⟨x, hx, rfl⟩ := Option.map_eq_some_iff.1 (Option.mem_toList.1 hname)
    exact isCopied_text (Node.mem_preorder_child (Node.mem_children_of_child? hx))

/-! ## Statements that name a module -/

/-- The replacement of a statement that names a module calls this module alone, at least once unless
the statement is silent, and is empty if it is. -/
structure CallsOnly (source : Bytes) (n : Node) (id : String) (silent : Bool) (text : String)
    (calls : List String) : Prop where
  composed : Composed source n text calls
  only : ∀ c ∈ calls, c = id
  emits : silent = false → id ∈ calls
  empty : silent = true → text = "" ∧ calls = []

theorem callsOnly_single (h : Composed source n text [id]) :
    CallsOnly source n id false text [id] :=
  ⟨h, fun _ hc => List.mem_singleton.1 hc, fun _ => List.mem_singleton_self _, nofun⟩

/-- A line of texts that each call a module once; it is silent if there are none. -/
theorem callsOnly_inLine {silent : Bool} (h : ∀ t ∈ ts, Composed source n t [id])
    (hsilent : silent = true ↔ ts = []) :
    CallsOnly source n id silent (inLine ts) (ts.flatMap fun _ => [id]) := by
  refine ⟨.intercalate (by decide) h, ?_, fun hs => ?_, fun hs => ?_⟩
  · simp
  · cases ts with
    | nil => simp [hsilent.2 rfl] at hs
    | cons t rest => simp
  · obtain rfl := hsilent.1 hs
    exact ⟨rfl, rfl⟩

theorem namedOfKind?_mem {kind : String} (h : namedOfKind? n kind = some c) : c ∈ n.preorder :=
  Node.mem_preorder_child (Node.mem_children_of_mem_namedChildren (List.mem_of_find?_eq_some h))

/-- Every part of an import clause that binds names calls the module, whether there are names or
not. -/
theorem importBinding_ok (hc : c ∈ n.preorder)
    (h : importBinding source (requireCall id) c = .ok ts) :
    (∀ t ∈ ts, Composed source n t [id]) ∧ (ts = [] ↔ bindingKinds.contains c.kind = false) := by
  unfold importBinding at h
  split at h
  · next hkind =>
    cases h
    refine ⟨fun t ht => ?_, by simp [eq_of_beq hkind, bindingKinds]⟩
    obtain rfl := List.mem_singleton.1 ht
    exact .declare (by decide) (.copied (isCopied_text hc)) (by decide) (by decide)
  · split at h
    · next hkind =>
      split at h
      · next name hname =>
        cases h
        refine ⟨fun t ht => ?_, by simp [eq_of_beq hkind, bindingKinds]⟩
        obtain rfl := List.mem_singleton.1 ht
        have hname : Composed source n (name.text source) [] :=
          .copied (isCopied_text (Node.mem_preorder_trans (namedOfKind?_mem hname) hc))
        exact .declare (by decide) hname (by decide) (by decide)
      · cases h
    · split at h
      · next hkind =>
        obtain ⟨names, hnames, h⟩ := bind_ok h
        cases h
        refine ⟨fun t ht => ?_, by simp [eq_of_beq hkind, bindingKinds]⟩
        obtain rfl := List.mem_singleton.1 ht
        have hpairs : ∀ t ∈ names.map fun p => Json.quote p.1 ++ ": " ++ p.2,
            Composed source n t [] := by
          intro t ht
          obtain ⟨p, hp, rfl⟩ := List.mem_map.1 ht
          have hsecond := ((pairs_ok hnames).1 p hp).2.mono hc
          exact ((Composed.quoted p.1).word (by decide)).before (.copied hsecond)
        exact .declare (by decide) (.plainList (by decide) hpairs) (by decide) (by decide)
      · next hidentifier hnamespace hnamed =>
        cases h
        simp_all [bindingKinds]

theorem importText_ok (hkind : n.kind = "import_statement")
    (h : importText source n id = .ok text) :
    ∃ calls, CallsOnly source n id (isSilent n) text calls := by
  have hsilent : isSilent n = (namedOfKind? n "import_clause").any fun clause =>
      clause.namedChildren.all fun c => !bindingKinds.contains c.kind := by
    rw [isSilent, if_pos (by simp [hkind])]
  unfold importText at h
  cases hclause : namedOfKind? n "import_clause" with
  | none =>
    rw [hclause] at h hsilent
    cases h
    rw [hsilent]
    exact ⟨_, callsOnly_single ((Composed.call id).word (by decide))⟩
  | some clause =>
    rw [hclause] at h hsilent
    obtain ⟨bindings, hbindings, h⟩ := bind_ok h
    cases h
    obtain ⟨hresults, hparts⟩ := mapM_ok hbindings
    have hinner : ∀ c ∈ clause.namedChildren, c ∈ n.preorder := fun c hc =>
      Node.mem_preorder_named hc (namedOfKind?_mem hclause)
    refine ⟨_, callsOnly_inLine (fun t ht => ?_) ?_⟩
    · obtain ⟨ts, hts, ht⟩ := List.mem_flatten.1 ht
      obtain ⟨c, hc, hbinding⟩ := hresults ts hts
      exact (importBinding_ok (hinner c hc) hbinding).1 t ht
    · rw [hsilent, Option.any_some, List.all_eq_true, List.flatten_eq_nil_iff]
      constructor
      · intro hnone ts hts
        obtain ⟨c, hc, hbinding⟩ := hresults ts hts
        exact (importBinding_ok (hinner c hc) hbinding).2.2 (by simpa using hnone c hc)
      · intro hempty c hc
        obtain ⟨ts, hts, hbinding⟩ := hparts c hc
        rw [(importBinding_ok (hinner c hc) hbinding).2.1 (hempty ts hts)]
        rfl

theorem reexportText_ok (hkind : n.kind = "export_statement")
    (h : reexportText source n id = .ok text) :
    ∃ calls, CallsOnly source n id (isSilent n) text calls := by
  have hsilent : isSilent n = (namedOfKind? n "export_clause").any fun clause =>
      clause.namedChildren.all fun c => c.kind != "export_specifier" := by
    rw [isSilent, if_neg (by simp [hkind])]
  unfold reexportText at h
  cases hclause : namedOfKind? n "export_clause" with
  | some clause =>
    rw [hclause] at h hsilent
    obtain ⟨names, hnames, h⟩ := bind_ok h
    cases h
    refine ⟨_, callsOnly_inLine (fun t ht => ?_) ?_⟩
    · obtain ⟨p, hp, rfl⟩ := List.mem_map.1 ht
      have hmember : Composed source n (requireCall id ++ "[" ++ Json.quote p.1 ++ "]") [id] :=
        (((Composed.call id).word (by decide)).after (.quoted p.1)).word (by decide)
      exact hmember.assign p.2
    · rw [hsilent, Option.any_some, List.all_eq_true, List.map_eq_nil_iff, (pairs_ok hnames).2]
      simp
  | none =>
    rw [hclause] at h hsilent
    rw [hsilent, Option.any_none]
    cases hnamespace : namedOfKind? n "namespace_export" with
    | some namespaceNode =>
      rw [hnamespace] at h
      obtain ⟨name, -, h⟩ := bind_ok h
      cases h
      exact ⟨_, callsOnly_single ((Composed.call id).assign name)⟩
    | none =>
      rw [hnamespace] at h
      cases h
      have hcopy : Composed source n (copyAll (requireCall id)) [id] :=
        ((((Composed.words (by decide)).word (by decide)).word (by decide)).before (.call id)).word
          (by decide)
      exact ⟨_, callsOnly_single hcopy⟩

/-! ## Statements that name none -/

theorem declarationText_ok {isDefault : Bool} (hc : c ∈ n.preorder)
    (h : declarationText source isDefault c = .ok text) : Composed source n text [] := by
  obtain ⟨names, hnames, h⟩ := bind_ok h
  have hcopied : ∀ name ∈ names, Composed source n name [] := fun name hname =>
    .copied ((declaredNames_ok hnames name hname).mono hc)
  have htext : Composed source n (c.text source) [] := .copied (isCopied_text hc)
  have hexports : Composed source n exportsName [] := .words (by decide)
  cases isDefault with
  | true =>
    cases names with
    | nil =>
      cases h
      exact ((hexports.word (by decide)).before htext).word (by decide)
    | cons name rest =>
      cases h
      exact ((((htext.word (by decide)).before hexports).word (by decide)).before
        (hcopied name List.mem_cons_self)).word (by decide)
  | false =>
    cases h
    have hline : ∀ t ∈ names.map fun name => exportsName ++ "." ++ name ++ " = " ++ name ++ ";",
        Composed source n t [] := by
      intro t ht
      obtain ⟨name, hname, rfl⟩ := List.mem_map.1 ht
      have hname := hcopied name hname
      exact ((((hexports.word (by decide)).before hname).word (by decide)).before hname).word
        (by decide)
    exact (htext.word (by decide)).before (.plainList (by decide) hline)

theorem exportText_ok (h : exportText source n = .ok text) : Composed source n text [] := by
  unfold exportText at h
  split at h
  · next clause hclause =>
    obtain ⟨names, hnames, h⟩ := bind_ok h
    cases h
    refine .plainList (by decide) fun t ht => ?_
    obtain ⟨p, hp, rfl⟩ := List.mem_map.1 ht
    have hname := ((pairs_ok hnames).1 p hp).1.mono (namedOfKind?_mem hclause)
    exact (Composed.copied hname).assign p.2
  · cases h

/-! ## A statement -/

/-- What the replacement of a statement requires: only modules that the statement names, and these
unless the statement is silent; then it has no text. -/
structure Replaces (source : Bytes) (moduleId : String) (n : Node) (text : String)
    (calls : List String) : Prop where
  composed : Composed source n text calls
  named : ∀ id ∈ calls, NamesModule source moduleId n id
  emits : ∀ id, NamesModule source moduleId n id → isSilent n = false → id ∈ calls
  silent : ∀ id, NamesModule source moduleId n id → isSilent n = true → text = "" ∧ calls = []

theorem NamesModule.unique {id' : String} (h : NamesModule source moduleId n id)
    (h' : NamesModule source moduleId n id') : id = id' := by
  obtain ⟨-, specifier, hsource, hid⟩ := h
  obtain ⟨-, specifier', hsource', hid'⟩ := h'
  obtain rfl : specifier = specifier' := Option.some.inj (hsource.symm.trans hsource')
  exact Except.ok.inj (hid.symm.trans hid')

/-- What it means that a statement is replaced by a text and requires a module, if any. -/
structure IsOutcome (source : Bytes) (moduleId : String) (n : Node) (text : String)
    (required : Option String) : Prop where
  linkage : isLinkage n = true
  replaces : ∃ calls, Replaces source moduleId n text calls
  required_iff : ∀ id, required = some id ↔ NamesModule source moduleId n id

theorem isOutcome_some (hlinkage : isLinkage n = true) (hnames : NamesModule source moduleId n id)
    (h : ∃ calls, CallsOnly source n id (isSilent n) text calls) :
    IsOutcome source moduleId n text (some id) := by
  obtain ⟨calls, h⟩ := h
  have hreplaces : Replaces source moduleId n text calls := by
    refine ⟨h.composed, fun c hc => ?_, fun id' hid' hs => ?_, fun _ _ hs => h.empty hs⟩
    · rw [h.only c hc]
      exact hnames
    · rw [hid'.unique hnames]
      exact h.emits hs
  refine ⟨hlinkage, ⟨calls, hreplaces⟩, fun id' => ?_⟩
  rw [Option.some.injEq]
  exact ⟨fun heq => heq ▸ hnames, hnames.unique⟩

theorem isOutcome_none (hlinkage : isLinkage n = true)
    (hnone : ∀ id, ¬NamesModule source moduleId n id) (h : Composed source n text []) :
    IsOutcome source moduleId n text none := by
  have hreplaces : Replaces source moduleId n text [] :=
    ⟨h, nofun, fun id hid => absurd hid (hnone id), fun id hid => absurd hid (hnone id)⟩
  exact ⟨hlinkage, ⟨[], hreplaces⟩, fun id => by simp [hnone id]⟩

/-- A statement that is replaced imports or exports; its replacement requires what it names. -/
theorem statement_ok {required : Option String}
    (h : statement source moduleId n = .ok (some (text, required))) :
    IsOutcome source moduleId n text required := by
  unfold statement at h
  split at h
  · next hkind =>
    have hkind := eq_of_beq hkind
    obtain ⟨specifier, hpart, h⟩ := bind_ok h
    obtain ⟨id, hid, h⟩ := bind_ok h
    obtain ⟨result, htext, h⟩ := bind_ok h
    cases h
    exact isOutcome_some (by simp [isLinkage, hkind]) ⟨.inl hkind, specifier, part_ok hpart, hid⟩
      (importText_ok hkind htext)
  · split at h
    · next himport hkind =>
      have hkind := eq_of_beq hkind
      have hlinkage : isLinkage n = true := by simp [isLinkage, hkind]
      dsimp only at h
      split at h
      · next declaration hdeclaration =>
        obtain ⟨result, htext, h⟩ := bind_ok h
        cases h
        have hpart := Node.mem_preorder_child (Node.mem_children_of_child? hdeclaration)
        refine isOutcome_none hlinkage (fun id hid => ?_) (declarationText_ok hpart htext)
        simp [NamesModule, hkind, hdeclaration] at hid
      · next value hdeclaration hvalue =>
        cases h
        have hcopied : Composed source n (value.text source) [] := .copied
          (isCopied_text (Node.mem_preorder_child (Node.mem_children_of_child? hvalue)))
        refine isOutcome_none hlinkage (fun id hid => ?_) ?_
        · simp [NamesModule, hkind, hvalue] at hid
        · exact (((Composed.words (by decide)).word (by decide)).before hcopied).word (by decide)
      · next specifier hdeclaration hvalue hsource =>
        obtain ⟨id, hid, h⟩ := bind_ok h
        obtain ⟨result, htext, h⟩ := bind_ok h
        cases h
        exact isOutcome_some hlinkage ⟨.inr ⟨hkind, hdeclaration, hvalue⟩, specifier, hsource, hid⟩
          (reexportText_ok hkind htext)
      · next hdeclaration hvalue hsource =>
        obtain ⟨result, htext, h⟩ := bind_ok h
        cases h
        refine isOutcome_none hlinkage (fun id hid => ?_) (exportText_ok htext)
        simp [NamesModule, hsource] at hid
    · cases h

/-- A statement that is not replaced neither imports nor exports. -/
theorem statement_none (h : statement source moduleId n = .ok none) : isLinkage n = false := by
  unfold statement at h
  split at h
  · obtain ⟨specifier, -, h⟩ := bind_ok h
    obtain ⟨id, -, h⟩ := bind_ok h
    obtain ⟨result, -, h⟩ := bind_ok h
    cases h
  · next himport =>
    split at h
    · dsimp only at h
      split at h
      · obtain ⟨result, -, h⟩ := bind_ok h
        cases h
      · cases h
      · obtain ⟨id, -, h⟩ := bind_ok h
        obtain ⟨result, -, h⟩ := bind_ok h
        cases h
      · obtain ⟨result, -, h⟩ := bind_ok h
        cases h
    · next hexport => simp [isLinkage, himport, hexport]

/-! ## A module -/

/-- A statement with the text that replaces it, and the modules that the calls in it require. -/
structure Replacement where
  node : Node
  text : String
  calls : List String

/-- The edit that makes a replacement. -/
def Replacement.edit (r : Replacement) : Edit := ⟨r.node.span, r.text⟩

theorem mem_addId_iff {id' : String} : id' ∈ addId id ids ↔ id' ∈ ids ∨ id' = id := by
  unfold addId
  split
  · next h =>
    have hmem : id ∈ ids := List.contains_iff_mem.1 h
    constructor
    · exact .inl
    · rintro (h' | rfl)
      · exact h'
      · exact hmem
  · simp

/-- Going through a list of statements replaces those that import or export, and adds the modules
that they name to the required ones. -/
theorem statements_ok {ns : List Node} {edits edits' : List Edit} {ids' : List String}
    (h : statements source moduleId ns edits ids = .ok (edits', ids')) :
    ∃ rs : List Replacement, rs.map (·.node) = ns.filter isLinkage ∧
      edits' = edits ++ rs.map Replacement.edit ∧
      (∀ r ∈ rs, Replaces source moduleId r.node r.text r.calls) ∧
      ∀ id, id ∈ ids' ↔ id ∈ ids ∨ ∃ r ∈ rs, NamesModule source moduleId r.node id := by
  induction ns generalizing edits ids with
  | nil =>
    cases h
    exact ⟨[], rfl, by simp, by simp, by simp⟩
  | cons n rest ih =>
    rw [statements] at h
    obtain ⟨outcome, houtcome, h⟩ := bind_ok h
    cases outcome with
    | none =>
      obtain ⟨rs, hnodes, hedits, heach, hids⟩ := ih h
      have hn := statement_none houtcome
      exact ⟨rs, by simpa [hn] using hnodes, hedits, heach, hids⟩
    | some replacement =>
      obtain ⟨text, required⟩ := replacement
      obtain ⟨hlinkage, ⟨calls, hreplaces⟩, hrequired⟩ := statement_ok houtcome
      obtain ⟨rs, hnodes, hedits, heach, hids⟩ := ih h
      refine ⟨⟨n, text, calls⟩ :: rs, by simp [hlinkage, hnodes], ?_, ?_, fun id => ?_⟩
      · rw [hedits, List.append_assoc]
        rfl
      · exact List.forall_mem_cons.2 ⟨hreplaces, heach⟩
      · rw [hids, List.exists_mem_cons_iff, ← or_assoc]
        refine or_congr_left ?_
        rw [← hrequired id]
        cases required with
        | none => simp
        | some required => rw [mem_addId_iff, Option.some.injEq, eq_comm (a := id)]

/-- A linked module has the modules that it lists linked with it. -/
theorem linked_of_listed {lib : Library ModuleText} {entryId : String} {entry m : ModuleText}
    {modules : List (Linked String)} {f : Factory} (h : m.toFactory moduleId = .ok f)
    (hlink : link lib Link.rewritten entryId entry = .ok modules)
    (hmodule : Link.moduleOf? lib entryId entry moduleId = some m)
    (hmem : moduleId ∈ modules.map (·.id)) (hid : id ∈ f.dependencies) :
    id ∈ modules.map (·.id) := by
  obtain ⟨p, hsearch, rfl⟩ := Link.link_eq_ok_iff.1 hlink
  have hlinking := Link.isLinking_of_search hsearch
  have hprepares : Link.Prepares lib Link.rewritten entryId entry moduleId f.body f.dependencies := by
    refine ⟨m, hmodule, ?_⟩
    rw [Link.rewritten, h]
    rfl
  rw [hlinking.mem_iff] at hmem ⊢
  exact hmem.tail ⟨f.body, f.dependencies, hprepares, hid⟩

/-- How the factory of a module comes from the replacements of its import and export statements. -/
structure IsMadeOf (moduleId : String) (m : ModuleText) (f : Factory) (rs : List Replacement) :
    Prop where
  nodes : rs.map (·.node) = m.root.namedChildren.filter isLinkage
  body : f.body = Utf8.decodeLossy (applyEdits m.source (rs.map Replacement.edit))
  replaces : ∀ r ∈ rs, Replaces m.source moduleId r.node r.text r.calls
  /-- The listed modules are those that statements name. -/
  listed : ∀ id, id ∈ f.dependencies ↔ ∃ r ∈ rs, NamesModule m.source moduleId r.node id
  /-- The modules that are called are those that statements name without being silent. -/
  called : ∀ id, (∃ r ∈ rs, id ∈ r.calls) ↔
    ∃ r ∈ rs, NamesModule m.source moduleId r.node id ∧ isSilent r.node = false
  /-- Every module that is called is listed, and it is linked where the module is. -/
  linked : ∀ r ∈ rs, ∀ id ∈ r.calls, id ∈ f.dependencies ∧
    ∀ (lib : Library ModuleText) (entryId : String) (entry : ModuleText)
      (modules : List (Linked String)), link lib Link.rewritten entryId entry = .ok modules →
      Link.moduleOf? lib entryId entry moduleId = some m → moduleId ∈ modules.map (·.id) →
        id ∈ modules.map (·.id)

/-- The replacements in a module call only modules that are listed, and they call all modules that
are listed but those that are named by silent statements alone. -/
theorem toFactory_requires (moduleId : String) (m : ModuleText) (f : Factory)
    (h : m.toFactory moduleId = .ok f) : ∃ rs, IsMadeOf moduleId m f rs := by
  have hsteps := h
  unfold ModuleText.toFactory at hsteps
  split at hsteps
  · cases hsteps
  · obtain ⟨⟨edits, ids⟩, hstatements, hsteps⟩ := bind_ok hsteps
    cases hsteps
    obtain ⟨rs, hnodes, hedits, hreplaces, hids⟩ := statements_ok hstatements
    have hlisted : ∀ id, id ∈ ids ↔ ∃ r ∈ rs, NamesModule m.source moduleId r.node id := by
      simpa using hids
    refine ⟨rs, hnodes, by rw [hedits]; rfl, hreplaces, hlisted, fun id => ?_,
      fun r hr id hid => ?_⟩
    · constructor
      · rintro ⟨r, hr, hid⟩
        have hnames := (hreplaces r hr).named id hid
        refine ⟨r, hr, hnames, ?_⟩
        cases hs : isSilent r.node with
        | false => rfl
        | true =>
          rw [((hreplaces r hr).silent id hnames hs).2] at hid
          cases hid
      · rintro ⟨r, hr, hnames, hs⟩
        exact ⟨r, hr, (hreplaces r hr).emits id hnames hs⟩
    · have hdependency := (hlisted id).2 ⟨r, hr, (hreplaces r hr).named id hid⟩
      exact ⟨hdependency, fun lib entryId entry modules hlink hmodule hmem =>
        linked_of_listed h hlink hmodule hmem hdependency⟩

/-! ## An export of an empty list -/

/-- The statement `export {} from './a.js';`. -/
def emptyExport : Node :=
  .mk ⟨"export_statement", ⟨0, 24, by decide⟩, true, none⟩
    [.mk ⟨"export_clause", ⟨7, 9, by decide⟩, true, none⟩ [],
     .mk ⟨"string", ⟨15, 23, by decide⟩, true, some "source"⟩
      [.mk ⟨"string_fragment", ⟨16, 22, by decide⟩, true, none⟩ []]]

def emptyExporter : ModuleText :=
  { source := Utf8.encode "export {} from './a.js';"
    root := .mk ⟨"program", ⟨0, 24, by decide⟩, true, none⟩ [emptyExport]
    hasErrors := false }

theorem toFactory_emptyExporter :
    emptyExporter.toFactory "/w/m.js" = .ok ⟨"", ["/w/a.js"]⟩ := rfl

/-- The module that it exports from is listed, and nothing calls it. -/
theorem toFactory_requires_emptyExporter :
    emptyExporter.toFactory "/w/m.js" = .ok ⟨"", ["/w/a.js"]⟩ ∧
      ∃ rs, IsMadeOf "/w/m.js" emptyExporter ⟨"", ["/w/a.js"]⟩ rs ∧ ∀ r ∈ rs, r.calls = [] := by
  obtain ⟨rs, hrs⟩ := toFactory_requires "/w/m.js" emptyExporter _ toFactory_emptyExporter
  refine ⟨toFactory_emptyExporter, rs, hrs, fun r hr => ?_⟩
  have hnode : r.node ∈ emptyExporter.root.namedChildren.filter isLinkage := by
    rw [← hrs.nodes]
    exact List.mem_map_of_mem hr
  have hsilent : isSilent r.node = true := by
    have hall : ∀ n ∈ [emptyExport], isSilent n = true := by decide
    exact hall _ hnode
  rw [List.eq_nil_iff_forall_not_mem]
  intro id hid
  have hnames := (hrs.replaces r hr).named id hid
  rw [((hrs.replaces r hr).silent id hnames hsilent).2] at hid
  cases hid

end ScriptLint.Factory

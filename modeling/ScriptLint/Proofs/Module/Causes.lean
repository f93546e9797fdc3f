/-
Why modules cannot be named or rewritten. Of the causes some are refused by the engine: a specifier
that is empty or has a scheme, a module that does not parse, an export that is not supported. Others
break it: a specifier with a malformed host or a NUL in its path, and the export of a whole module
without a name. A step fails exactly for these causes (`resolve_error_iff`, `statement_error_iff`,
`toFactory_error_iff`).
-/
import ScriptLint.Proofs.Module.Statements

namespace ScriptLint

/-! ## Specifiers -/

/-- The engine refuses a specifier. -/
inductive Refused (specifier referrer : String) : ModuleFault → Prop where
  | empty (h : specifier = "") : Refused specifier referrer (.emptySpecifier referrer)
  | scheme {url : Url} (parsed : Url.parse specifier = .ok url) (long : 1 < url.scheme.length)
      (other : url.scheme ≠ "file") :
      Refused specifier referrer (.unsupportedScheme url.scheme specifier)

/-- A specifier names a file by the segments of a path. -/
inductive LeadsThrough (specifier referrer : String) : List Path.Segment → Prop where
  | url {url : Url} (parsed : Url.parse specifier = .ok url) (file : url.scheme = "file") :
      LeadsThrough specifier referrer (Path.segments (Url.unescape (Url.unescape url.path)))
  | path {url : Url} (nonempty : specifier ≠ "") (parsed : Url.parse specifier = .ok url)
      (short : url.scheme.length ≤ 1) :
      LeadsThrough specifier referrer (specifierSegments specifier.toList referrer.toList)

/-- Whether a NUL stands in a path. -/
def HasNul (segs : List Path.Segment) : Prop := ∃ s ∈ segs, Char.ofNat 0 ∈ s

/-- A specifier is neither refused nor leads anywhere. -/
inductive Lost (locate : Locate) (specifier referrer : String) : ModuleFault → Prop where
  | host {fault : HostFault} (malformed : Url.parse specifier = .error fault) :
      Lost locate specifier referrer (.badHost fault)
  | nul {segs : List Path.Segment} (leads : LeadsThrough specifier referrer segs)
      (nul : HasNul segs) : Lost locate specifier referrer .nulInPath
  | place {segs : List Path.Segment} {fault : ModuleFault}
      (leads : LeadsThrough specifier referrer segs) (visible : ¬HasNul segs)
      (none : locate segs = .error fault) : Lost locate specifier referrer fault

section Specifiers

variable {locate : Locate} {specifier referrer : String} {segs : List Path.Segment}
  {fault : ModuleFault}

theorem idOfSegments_error_iff : idOfSegments locate segs = .error fault ↔
    HasNul segs ∧ fault = .nulInPath ∨ ¬HasNul segs ∧ locate segs = .error fault := by
  have hnul : (segs.any fun s => s.contains (Char.ofNat 0)) = true ↔ HasNul segs := by
    simp [HasNul]
  unfold idOfSegments
  by_cases h : HasNul segs
  · rw [if_pos (hnul.2 h)]
    simp [h, eq_comm]
  · rw [if_neg (mt hnul.1 h), Factory.bind_error_iff]
    simp [h, pure, Except.pure]

theorem resolve_of_parse {url : Url} (nonempty : specifier ≠ "")
    (parsed : Url.parse specifier = .ok url) :
    resolveSpecifierBy locate specifier referrer =
      if url.scheme = "file" then
        idOfSegments locate (Path.segments (Url.unescape (Url.unescape url.path)))
      else if 1 < url.scheme.length then .error (.unsupportedScheme url.scheme specifier)
      else idOfSegments locate (specifierSegments specifier.toList referrer.toList) := by
  unfold resolveSpecifierBy
  rw [if_neg (by simpa using nonempty)]
  simp only [parsed]

/-- The empty text has no scheme and no host. -/
theorem nonempty_of_parse {url : Url} (parsed : Url.parse specifier = .ok url)
    (scheme : url.scheme ≠ "") : specifier ≠ "" := by
  rintro rfl
  cases parsed
  exact scheme rfl

theorem resolve_of_malformed {host : HostFault} (malformed : Url.parse specifier = .error host) :
    resolveSpecifierBy locate specifier referrer = .error (.badHost host) := by
  have nonempty : specifier ≠ "" := by
    rintro rfl
    cases malformed
  unfold resolveSpecifierBy
  rw [if_neg (by simpa using nonempty)]
  simp only [malformed]

theorem LeadsThrough.resolve (h : LeadsThrough specifier referrer segs) :
    resolveSpecifierBy locate specifier referrer = idOfSegments locate segs := by
  cases h with
  | @url url parsed file =>
    have nonempty := nonempty_of_parse parsed (by rw [file]; decide)
    rw [resolve_of_parse nonempty parsed, if_pos file]
  | @path url nonempty parsed short =>
    have hfile : url.scheme ≠ "file" := by
      intro h
      rw [h] at short
      exact absurd short (by decide)
    rw [resolve_of_parse nonempty parsed, if_neg hfile, if_neg (by omega)]

theorem Refused.resolve (h : Refused specifier referrer fault) :
    resolveSpecifierBy locate specifier referrer = .error fault := by
  cases h with
  | empty h =>
    unfold resolveSpecifierBy
    rw [if_pos (by simpa using h)]
  | @scheme url parsed long other =>
    have nonempty := nonempty_of_parse parsed (by rintro h; rw [h] at long; cases long)
    rw [resolve_of_parse nonempty parsed, if_neg other, if_pos long]

theorem refused_or_leads {url : Url} (nonempty : specifier ≠ "")
    (parsed : Url.parse specifier = .ok url) :
    Refused specifier referrer (.unsupportedScheme url.scheme specifier) ∨
      ∃ segs, LeadsThrough specifier referrer segs := by
  by_cases hfile : url.scheme = "file"
  · exact .inr ⟨_, .url parsed hfile⟩
  · by_cases hlong : 1 < url.scheme.length
    · exact .inl (.scheme parsed hlong hfile)
    · exact .inr ⟨_, .path nonempty parsed (Nat.le_of_not_lt hlong)⟩

/-- A specifier names no module if it is refused, or lost. -/
theorem resolve_error_iff : resolveSpecifierBy locate specifier referrer = .error fault ↔
    Refused specifier referrer fault ∨ Lost locate specifier referrer fault := by
  constructor
  · intro h
    by_cases hempty : specifier = ""
    · have hrefused : Refused specifier referrer (.emptySpecifier referrer) := .empty hempty
      obtain rfl := Except.error.inj (hrefused.resolve.symm.trans h)
      exact .inl hrefused
    · cases hparse : Url.parse specifier with
      | error host =>
        rw [resolve_of_malformed hparse] at h
        cases h
        exact .inr (.host hparse)
      | ok url =>
        rcases refused_or_leads hempty hparse with hrefused | ⟨segs, hleads⟩
        · obtain rfl := Except.error.inj (hrefused.resolve.symm.trans h)
          exact .inl hrefused
        · rw [hleads.resolve, idOfSegments_error_iff] at h
          rcases h with ⟨hnul, rfl⟩ | ⟨hnul, hfault⟩
          · exact .inr (.nul hleads hnul)
          · exact .inr (.place hleads hnul hfault)
  · rintro (hrefused | hlost)
    · exact hrefused.resolve
    · cases hlost with
      | host malformed => exact resolve_of_malformed malformed
      | nul leads nul =>
        rw [leads.resolve]
        exact idOfSegments_error_iff.2 (.inl ⟨nul, rfl⟩)
      | place leads visible none =>
        rw [leads.resolve]
        exact idOfSegments_error_iff.2 (.inr ⟨visible, none⟩)

end Specifiers

namespace Factory

/-! ## Statements -/

/-- A tree has the parts that the grammar promises of imports and exports. -/
structure IsComplete (n : Node) : Prop where
  source : ∀ x ∈ n.preorder, x.kind = "import_statement" → (x.child? "source").isSome = true
  name : ∀ x ∈ n.preorder, x.kind = "import_specifier" ∨ x.kind = "export_specifier" →
    (x.child? "name").isSome = true
  identifier : ∀ x ∈ n.preorder, x.kind = "namespace_import" →
    (namedOfKind? x "identifier").isSome = true

/-- A statement has a specifier from which it imports or exports again. -/
inductive HasSpecifier (n : Node) : Node → Prop where
  | imports {specifier : Node} (kind : n.kind = "import_statement")
      (source : n.child? "source" = some specifier) : HasSpecifier n specifier
  | exports {specifier : Node} (form : IsExport n none none (some specifier)) :
      HasSpecifier n specifier

/-- A declarator binds a plain name. -/
def IsPlain (declarator : Node) : Prop :=
  ∃ name, declarator.child? "name" = some name ∧ name.kind = "identifier"

/-- The declarators of a declaration of variables. -/
def declarators (declaration : Node) : List Node :=
  declaration.namedChildren.filter fun c => c.kind == "variable_declarator"

/-- The engine refuses a statement. -/
inductive Refuses (source : Bytes) (moduleId : String) (n : Node) : ModuleFault → Prop where
  | specifier {specifier : Node} {fault : ModuleFault} (has : HasSpecifier n specifier)
      (refused : Refused (unquote (specifier.text source)) moduleId fault) :
      Refuses source moduleId n fault
  /-- The first declarator of an exported declaration that binds no plain name. -/
  | binding {declaration x : Node} {value? specifier? : Option Node} {before after : List Node}
      (form : IsExport n (some declaration) value? specifier?)
      (declares : declaration.kind = "lexical_declaration" ∨
        declaration.kind = "variable_declaration")
      (declarators : declarators declaration = before ++ x :: after)
      (plain : ∀ b ∈ before, IsPlain b) (pattern : ¬IsPlain x) :
      Refuses source moduleId n (.unsupportedBinding (x.text source))
  | form (form : IsExport n none none none) (none : namedOfKind? n "export_clause" = none) :
      Refuses source moduleId n (.unsupportedExport (n.text source))

/-- A statement breaks the engine. -/
inductive Breaks (source : Bytes) (moduleId : String) (n : Node) : ModuleFault → Prop where
  | specifier {specifier : Node} {fault : ModuleFault} (has : HasSpecifier n specifier)
      (lost : Lost .lexical (unquote (specifier.text source)) moduleId fault) :
      Breaks source moduleId n fault
  | nameless {specifier whole : Node} {id : String} (form : IsExport n none none (some specifier))
      (resolved : specifierId source moduleId specifier = .ok id)
      (none : namedOfKind? n "export_clause" = none)
      (found : namedOfKind? n "namespace_export" = some whole)
      (nameless : whole.namedChildren = []) : Breaks source moduleId n .emptyNames

section Statements

variable {source : Bytes} {moduleId id : String} {n specifier declaration list : Node}
  {fault : ModuleFault}

theorem HasSpecifier.statement_error (has : HasSpecifier n specifier)
    (h : specifierId source moduleId specifier = .error fault) :
    statement source moduleId n = .error fault := by
  cases has with
  | imports kind hsource =>
    have hpart : part n "source" = .ok specifier := by rw [part, hsource]
    rw [statement_import kind]
    exact bind_error_iff.2 (.inr ⟨specifier, hpart, bind_error_iff.2 (.inl h)⟩)
  | exports form =>
    rw [statement_reexport form]
    exact bind_error_iff.2 (.inl h)

theorem specifierId_error_iff : specifierId source moduleId specifier = .error fault ↔
    Refused (unquote (specifier.text source)) moduleId fault ∨
      Lost .lexical (unquote (specifier.text source)) moduleId fault := by
  rw [specifierId, resolveSpecifier, resolve_error_iff]

/-- A complete list of names can be read. -/
theorem IsComplete.pairs {kind : String} (complete : IsComplete n) (source : Bytes)
    (hlist : list ∈ n.preorder) (hkind : kind = "import_specifier" ∨ kind = "export_specifier") :
    ∃ names, pairs source list kind = .ok names := by
  refine pairs_succeeds fun c hc hc' => ?_
  exact complete.name c (Node.mem_preorder_named hc hlist) (hc' ▸ hkind)

theorem IsComplete.importBinding (complete : IsComplete n) {call : String} {c : Node}
    (hc : c ∈ n.preorder) : ∃ lines, importBinding source call c = .ok lines := by
  unfold Factory.importBinding
  split
  · exact ⟨_, rfl⟩
  · split
    · next hkind =>
      obtain ⟨name, hname⟩ :=
        Option.isSome_iff_exists.1 (complete.identifier c hc (eq_of_beq hkind))
      rw [hname]
      exact ⟨_, rfl⟩
    · split
      · obtain ⟨names, hnames⟩ := complete.pairs source hc (.inl rfl)
        rw [hnames]
        exact ⟨_, rfl⟩
      · exact ⟨_, rfl⟩

theorem IsComplete.importText (complete : IsComplete n) (source : Bytes) (id : String) :
    ∃ text, importText source n id = .ok text := by
  unfold Factory.importText
  split
  · exact ⟨_, rfl⟩
  · next clause hclause =>
    obtain ⟨bindings, hbindings⟩ : ∃ bindings, clause.namedChildren.mapM
        (Factory.importBinding source (requireCall id)) = .ok bindings :=
      mapM_succeeds fun c hc =>
        complete.importBinding (Node.mem_preorder_named hc (namedOfKind?_mem hclause))
    exact ⟨inLine bindings.flatten, by simp only [hbindings]; rfl⟩

theorem namespaceAlias_error_iff : namespaceAlias source n = .error fault ↔
    n.namedChildren = [] ∧ fault = .emptyNames := by
  unfold namespaceAlias
  split
  · next h => simp [List.getLast?_eq_none_iff.1 h, eq_comm]
  · next h =>
    have hne : n.namedChildren ≠ [] := by
      intro hnil
      rw [hnil] at h
      cases h
    simp [hne]

theorem IsComplete.reexportText_error_iff (complete : IsComplete n) :
    reexportText source n id = .error fault ↔ fault = .emptyNames ∧
      namedOfKind? n "export_clause" = none ∧
        ∃ whole, namedOfKind? n "namespace_export" = some whole ∧ whole.namedChildren = [] := by
  unfold reexportText
  dsimp only
  split
  · next clause hclause =>
    obtain ⟨names, hnames⟩ :=
      complete.pairs source (namedOfKind?_mem hclause) (.inr rfl)
    simp [hclause, hnames, bind_error_iff, pure, Except.pure]
  · next whole hclause hwhole =>
    rw [bind_error_iff, namespaceAlias_error_iff]
    simp [hclause, hwhole, pure, Except.pure, and_comm]
  · next hclause hwhole => simp [hwhole, pure, Except.pure]

/-- The name that an exported declarator binds. -/
def declaratorName (source : Bytes) (declarator : Node) : Except ModuleFault String :=
  match (declarator.child? "name").filter fun n => n.kind == "identifier" with
  | some name => .ok (name.text source)
  | none => .error (.unsupportedBinding (declarator.text source))

theorem declaratorName_ok_iff {x : Node} :
    (∃ name, declaratorName source x = .ok name) ↔ IsPlain x := by
  unfold declaratorName IsPlain
  cases hname : x.child? "name" with
  | none => simp
  | some name => by_cases hkind : name.kind = "identifier" <;> simp [Option.filter, hkind]

theorem declaratorName_error_iff {x : Node} : declaratorName source x = .error fault ↔
    ¬IsPlain x ∧ fault = .unsupportedBinding (x.text source) := by
  unfold declaratorName IsPlain
  cases hname : x.child? "name" with
  | none => simp [eq_comm]
  | some name =>
    by_cases hkind : name.kind = "identifier" <;>
      simp [Option.filter, hkind, eq_comm (a := fault)]

theorem declaredNames_error_iff : declaredNames source declaration = .error fault ↔
    (declaration.kind = "lexical_declaration" ∨ declaration.kind = "variable_declaration") ∧
      ∃ before x after, declarators declaration = before ++ x :: after ∧
        (∀ b ∈ before, IsPlain b) ∧ ¬IsPlain x ∧ fault = .unsupportedBinding (x.text source) := by
  unfold declaredNames
  split
  · next hkind =>
    have hkind : declaration.kind = "lexical_declaration" ∨
        declaration.kind = "variable_declaration" := by simpa using hkind
    rw [mapM_error_iff, and_iff_right hkind]
    refine exists_congr fun before => exists_congr fun x => exists_congr fun after =>
      and_congr_right fun _ => and_congr (forall₂_congr fun b _ => ?_) ?_
    · exact declaratorName_ok_iff
    · exact declaratorName_error_iff
  · next hkind =>
    have hkind : ¬(declaration.kind = "lexical_declaration" ∨
        declaration.kind = "variable_declaration") := by simpa using hkind
    simp [hkind]

theorem declarationText_error_iff {isDefault : Bool} :
    declarationText source isDefault declaration = .error fault ↔
      declaredNames source declaration = .error fault := by
  unfold declarationText
  rw [bind_error_iff, or_iff_left]
  rintro ⟨names, -, h⟩
  cases isDefault <;> cases names <;> cases h

theorem IsComplete.exportText_error_iff (complete : IsComplete n) :
    exportText source n = .error fault ↔
      namedOfKind? n "export_clause" = none ∧ fault = .unsupportedExport (n.text source) := by
  unfold exportText
  split
  · next clause hclause =>
    obtain ⟨names, hnames⟩ :=
      complete.pairs source (namedOfKind?_mem hclause) (.inr rfl)
    simp [hclause, hnames, bind_error_iff, pure, Except.pure]
  · next hclause => simp [hclause, eq_comm]

/-- An import fails on its specifier. -/
theorem IsComplete.import_error (complete : IsComplete n) (hkind : n.kind = "import_statement")
    (h : statement source moduleId n = .error fault) :
    ∃ specifier, HasSpecifier n specifier ∧ specifierId source moduleId specifier = .error fault := by
  obtain ⟨specifier, hsource⟩ :=
    Option.isSome_iff_exists.1 (complete.source n (Node.mem_preorder_self n) hkind)
  have hpart : part n "source" = .ok specifier := by rw [part, hsource]
  rw [statement_import hkind, hpart] at h
  rcases bind_error_iff.1 h with h | ⟨_, hfound, h⟩
  · cases h
  · cases hfound
    rcases bind_error_iff.1 h with h | ⟨id, -, h⟩
    · exact ⟨specifier, .imports hkind hsource, h⟩
    · obtain ⟨text, htext⟩ := complete.importText source id
      rw [bind_pure_error_iff, htext] at h
      cases h

theorem refuses_or_breaks_of_specifier (has : HasSpecifier n specifier)
    (h : specifierId source moduleId specifier = .error fault) :
    Refuses source moduleId n fault ∨ Breaks source moduleId n fault := by
  rcases specifierId_error_iff.1 h with hrefused | hlost
  · exact .inl (.specifier has hrefused)
  · exact .inr (.specifier has hlost)

/-- An export fails on its specifier, its declaration, its form or a name that is not there. -/
theorem IsComplete.export_error (complete : IsComplete n) (hkind : n.kind = "export_statement")
    (h : statement source moduleId n = .error fault) :
    Refuses source moduleId n fault ∨ Breaks source moduleId n fault := by
  cases hdeclaration : n.child? "declaration" with
  | some declaration =>
    have form : IsExport n (some declaration) _ _ := ⟨hkind, hdeclaration, rfl, rfl⟩
    rw [statement_declaration form, bind_pure_error_iff, declarationText_error_iff,
      declaredNames_error_iff] at h
    obtain ⟨declares, before, x, after, hdeclarators, plain, pattern, rfl⟩ := h
    exact .inl (.binding form declares hdeclarators plain pattern)
  | none =>
    cases hvalue : n.child? "value" with
    | some value =>
      have form : IsExport n none (some value) _ := ⟨hkind, hdeclaration, hvalue, rfl⟩
      rw [statement_value form] at h
      cases h
    | none =>
      cases hsource : n.child? "source" with
      | some specifier =>
        have form : IsExport n none none (some specifier) := ⟨hkind, hdeclaration, hvalue, hsource⟩
        rw [statement_reexport form] at h
        rcases bind_error_iff.1 h with h | ⟨id, hid, h⟩
        · exact refuses_or_breaks_of_specifier (.exports form) h
        · rw [bind_pure_error_iff, complete.reexportText_error_iff] at h
          obtain ⟨rfl, hnone, whole, hwhole, hnameless⟩ := h
          exact .inr (.nameless form hid hnone hwhole hnameless)
      | none =>
        have form : IsExport n none none none := ⟨hkind, hdeclaration, hvalue, hsource⟩
        rw [statement_list form, bind_pure_error_iff, complete.exportText_error_iff] at h
        obtain ⟨hnone, rfl⟩ := h
        exact .inl (.form form hnone)

theorem IsComplete.error_of_refuses (complete : IsComplete n)
    (h : Refuses source moduleId n fault) : statement source moduleId n = .error fault := by
  cases h with
  | specifier has refused => exact has.statement_error (specifierId_error_iff.2 (.inl refused))
  | binding form declares hdeclarators plain pattern =>
    rw [statement_declaration form, bind_pure_error_iff, declarationText_error_iff,
      declaredNames_error_iff]
    exact ⟨declares, _, _, _, hdeclarators, plain, pattern, rfl⟩
  | form form none =>
    rw [statement_list form, bind_pure_error_iff, complete.exportText_error_iff]
    exact ⟨none, rfl⟩

theorem IsComplete.error_of_breaks (complete : IsComplete n)
    (h : Breaks source moduleId n fault) : statement source moduleId n = .error fault := by
  cases h with
  | specifier has lost => exact has.statement_error (specifierId_error_iff.2 (.inr lost))
  | nameless form resolved none found nameless =>
    rw [statement_reexport form]
    refine bind_error_iff.2 (.inr ⟨_, resolved, ?_⟩)
    rw [bind_pure_error_iff, complete.reexportText_error_iff]
    exact ⟨rfl, none, _, found, nameless⟩

/-- A statement cannot be replaced if it is refused, or breaks the engine. -/
theorem statement_error_iff (complete : IsComplete n) :
    statement source moduleId n = .error fault ↔
      Refuses source moduleId n fault ∨ Breaks source moduleId n fault := by
  constructor
  · intro h
    by_cases himport : n.kind = "import_statement"
    · obtain ⟨specifier, has, hspecifier⟩ := complete.import_error himport h
      exact refuses_or_breaks_of_specifier has hspecifier
    · by_cases hexport : n.kind = "export_statement"
      · exact complete.export_error hexport h
      · rw [statement_of_not_linkage (by simp [isLinkage, himport, hexport])] at h
        cases h
  · rintro (h | h)
    · exact complete.error_of_refuses h
    · exact complete.error_of_breaks h

/-- Going through a list of statements fails where the first of them does. -/
theorem statements_error_iff {ns : List Node} {edits : List Edit} {ids : List String} :
    statements source moduleId ns edits ids = .error fault ↔
      ns.mapM (statement source moduleId) = .error fault := by
  induction ns generalizing edits ids with
  | nil => constructor <;> rintro ⟨⟩
  | cons n rest ih =>
    rw [statements, List.mapM_cons, bind_error_iff, bind_error_iff]
    refine or_congr_right (exists_congr fun outcome => and_congr_right fun _ => ?_)
    rw [bind_pure_error_iff]
    cases outcome with
    | none => exact ih
    | some replacement => exact ih

end Statements

/-! ## Modules -/

/-- All statements before this one can be replaced. -/
def IsReached (m : ModuleText) (moduleId : String) (n : Node) : Prop :=
  m.hasErrors = false ∧ ∃ before after, m.root.namedChildren = before ++ n :: after ∧
    ∀ b ∈ before, ∃ outcome, statement m.source moduleId b = .ok outcome

/-- The engine refuses a module. -/
inductive RefusesModule (m : ModuleText) (moduleId : String) : ModuleFault → Prop where
  | unparsable (h : m.hasErrors = true) : RefusesModule m moduleId (.unparsable moduleId)
  | statement {n : Node} {fault : ModuleFault} (reached : IsReached m moduleId n)
      (refuses : Refuses m.source moduleId n fault) : RefusesModule m moduleId fault

/-- A module breaks the engine. -/
inductive BreaksModule (m : ModuleText) (moduleId : String) : ModuleFault → Prop where
  | statement {n : Node} {fault : ModuleFault} (reached : IsReached m moduleId n)
      (breaks : Breaks m.source moduleId n fault) : BreaksModule m moduleId fault

end Factory

/-- The statements of a module have the parts that the grammar promises. -/
def ModuleText.IsComplete (m : ModuleText) : Prop :=
  ∀ n ∈ m.root.namedChildren, Factory.IsComplete n

namespace Factory

variable {m : ModuleText} {moduleId : String} {n : Node} {fault : ModuleFault}

theorem IsReached.toFactory_error (reached : IsReached m moduleId n)
    (h : statement m.source moduleId n = .error fault) : m.toFactory moduleId = .error fault := by
  obtain ⟨hparsed, before, after, hnodes, hbefore⟩ := reached
  unfold ModuleText.toFactory
  rw [hparsed, if_neg (by decide), bind_error_iff, statements_error_iff, mapM_error_iff]
  exact .inl ⟨before, n, after, hnodes, hbefore, h⟩

theorem IsReached.mem (reached : IsReached m moduleId n) : n ∈ m.root.namedChildren := by
  obtain ⟨-, before, after, hnodes, -⟩ := reached
  simp [hnodes]

/-- A module cannot be rewritten if it is refused, or breaks the engine. -/
theorem toFactory_error_iff (complete : m.IsComplete) : m.toFactory moduleId = .error fault ↔
    RefusesModule m moduleId fault ∨ BreaksModule m moduleId fault := by
  constructor
  · intro h
    unfold ModuleText.toFactory at h
    split at h
    · next herrors =>
      cases h
      exact .inl (.unparsable herrors)
    · next herrors =>
      rw [bind_error_iff, or_iff_left, statements_error_iff, mapM_error_iff] at h
      · obtain ⟨before, n, after, hnodes, hbefore, hn⟩ := h
        have reached : IsReached m moduleId n :=
          ⟨by simpa using herrors, before, after, hnodes, hbefore⟩
        rcases (statement_error_iff (complete n (by simp [hnodes]))).1 hn with hn | hn
        · exact .inl (.statement reached hn)
        · exact .inr (.statement reached hn)
      · rintro ⟨_, -, ⟨⟩⟩
  · rintro (h | h)
    · cases h with
      | unparsable herrors =>
        unfold ModuleText.toFactory
        rw [if_pos herrors]
      | statement reached refuses =>
        exact reached.toFactory_error ((complete _ reached.mem).error_of_refuses refuses)
    · cases h with
      | statement reached breaks =>
        exact reached.toFactory_error ((complete _ reached.mem).error_of_breaks breaks)

end Factory

end ScriptLint

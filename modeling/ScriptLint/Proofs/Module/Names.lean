/-
The keys under which exports are stored and imports are read. What stands in a list as it is has the
key of its name, quoted or not. A name behind `as` keeps its quotes, and the name of a whole module
loses all quotes at its ends; so these are found under their names exactly if no quotes are in the
way (`exports_meet_imports`).
-/
import ScriptLint.Proofs.Module.Statements
import ScriptLint.Proofs.Text.Trim

namespace ScriptLint.Factory

/-! ## Names -/

/-- The characters that quote names. -/
def isQuote (c : Char) : Bool := c = '\'' || c = '"'

/-- A node is the spelling of a name: an identifier, or a text between two quotes. -/
inductive Denotes (source : Bytes) (x : Node) (name : String) : Prop where
  | identifier (kind : x.kind ≠ "string") (text : x.text source = name)
      (plain : ∀ c ∈ name.toList, isQuote c = false)
  | literal (quote : Char) (kind : x.kind = "string") (isQuote : isQuote quote = true)
      (text : (x.text source).toList = quote :: (name.toList ++ [quote]))

/-- A name that an export gives: in a list as it is, in a list behind `as`, or to a whole module. -/
inductive Given where
  | kept (name : Node)
  | renamed (name : Node)
  | whole (name : Node)

namespace Given

def node : Given → Node
  | .kept x => x
  | .renamed x => x
  | .whole x => x

/-- The key under which a value is stored that is exported under a name. -/
def key (source : Bytes) : Given → String
  | .kept x => nameText source x
  | .renamed x => x.text source
  | .whole x => String.ofList (Text.trimBy isQuote (x.text source).toList)

/-- Whether the key of a given name is this name. -/
def Keeps (name : String) : Given → Prop
  | .kept _ => True
  | .renamed x => x.kind ≠ "string"
  | .whole _ => (∀ c, name.toList.head? = some c → isQuote c = false) ∧
      ∀ c, name.toList.getLast? = some c → isQuote c = false

end Given

/-- The name that a specifier of an export gives. -/
def Specifier.given (s : Specifier) : Given :=
  match s.newName with
  | some x => .renamed x
  | none => .kept s.name

section Keys

variable {source : Bytes} {x : Node} {g : Given} {name : String}

theorem Specifier.key_given (s : Specifier) : s.given.key source = s.otherText source := by
  unfold given otherText
  cases s.newName <;> rfl

theorem nameText_of_denotes (h : Denotes source x name) : nameText source x = name := by
  unfold nameText
  cases h with
  | identifier kind text _ => rw [if_neg (by simpa using kind), text]
  | literal _ kind _ text =>
    rw [if_pos (by simpa using kind), unquote, text, List.drop_one, List.tail_cons,
      List.dropLast_concat, String.ofList_toList]

/-- The quotes of a quoted name are more than the name. -/
theorem text_eq_iff_of_denotes (h : Denotes source x name) :
    x.text source = name ↔ x.kind ≠ "string" := by
  cases h with
  | identifier kind text _ => exact ⟨fun _ => kind, fun _ => text⟩
  | literal _ kind _ text =>
    refine ⟨fun heq => ?_, fun hne => absurd kind hne⟩
    have hlength := congrArg List.length text
    rw [heq, List.length_cons, List.length_append, List.length_singleton] at hlength
    omega

theorem trimBy_text_of_denotes (h : Denotes source x name) :
    Text.trimBy isQuote (x.text source).toList = Text.trimBy isQuote name.toList := by
  cases h with
  | identifier _ text _ => rw [text]
  | literal _ _ isQuote text => rw [text, Text.trimBy_between isQuote]

/-- A value is stored under the name it is exported under exactly if the name is kept. -/
theorem Given.key_eq_iff (h : Denotes source g.node name) : g.key source = name ↔ g.Keeps name := by
  cases g with
  | kept x => exact iff_of_true (nameText_of_denotes h) trivial
  | renamed x => exact text_eq_iff_of_denotes h
  | whole x =>
    show String.ofList (Text.trimBy isQuote (x.text source).toList) = name ↔ _
    rw [trimBy_text_of_denotes (x := x) h, ← String.toList_inj, String.toList_ofList]
    exact Text.trimBy_eq_self_iff

end Keys

/-! ## Exports -/

/-- The names that an export statement gives to what it lists, or to a whole module. -/
def givenNames (n : Node) : List Given :=
  match namedOfKind? n "export_clause", namedOfKind? n "namespace_export" with
  | some clause, _ => (specifiers clause "export_specifier").map Specifier.given
  | none, some whole => (whole.namedChildren.getLast?.map Given.whole).toList
  | none, none => []

/-- An export statement gives names: it has a list of them, or one for a whole module. -/
structure GivesNames (n : Node) : Prop where
  form : ∃ specifier, IsExport n none none specifier
  names : (namedOfKind? n "export_clause").isSome = true ∨
    (namedOfKind? n "namespace_export").isSome = true

/-- A text that stores a value for each given name. -/
inductive Stores (source : Bytes) (names : List Given) : String → Prop where
  | line (stored : List (Given × String)) (given : stored.map (·.1) = names) :
      Stores source names (inLine (stored.map fun p => assignExport (p.1.key source) p.2))

section Exports

variable {source : Bytes} {moduleId id text : String} {required : Option String} {n : Node}

theorem stores_specifiers (specs : List Specifier) (value : Specifier → String) :
    Stores source (specs.map Specifier.given)
      (inLine (specs.map fun s => assignExport (s.otherText source) (value s))) := by
  have hgiven : (specs.map fun s => (s.given, value s)).map (·.1) = specs.map Specifier.given := by
    rw [List.map_map]
    rfl
  have hline : Stores source (specs.map Specifier.given) _ := .line _ hgiven
  simpa only [List.map_map, Function.comp_def, Specifier.key_given] using hline

theorem givenNames_list {clause : Node} (h : namedOfKind? n "export_clause" = some clause) :
    givenNames n = (specifiers clause "export_specifier").map Specifier.given := by
  rw [givenNames, h]

theorem givenNames_whole {whole : Node} (hlist : namedOfKind? n "export_clause" = none)
    (h : namedOfKind? n "namespace_export" = some whole) :
    givenNames n = (whole.namedChildren.getLast?.map Given.whole).toList := by
  rw [givenNames, hlist, h]

theorem exportText_stores (h : exportText source n = .ok text) :
    Stores source (givenNames n) text := by
  unfold exportText at h
  split at h
  · next clause hclause =>
    obtain ⟨names, hnames, h⟩ := bind_ok h
    cases h
    rw [givenNames_list hclause, pairs_eq hnames, List.map_map]
    exact stores_specifiers _ fun s => nameText source s.name
  · cases h

theorem namespaceAlias_ok {name : String} (h : namespaceAlias source n = .ok name) :
    ∃ x, n.namedChildren.getLast? = some x ∧ (Given.whole x).key source = name := by
  unfold namespaceAlias at h
  split at h
  · cases h
  · next x hx => exact ⟨x, hx, Except.ok.inj h⟩

theorem reexportText_stores (hnames : (namedOfKind? n "export_clause").isSome = true ∨
      (namedOfKind? n "namespace_export").isSome = true)
    (h : reexportText source n id = .ok text) : Stores source (givenNames n) text := by
  unfold reexportText at h
  cases hclause : namedOfKind? n "export_clause" with
  | some clause =>
    rw [hclause] at h
    obtain ⟨names, hpairs, h⟩ := bind_ok h
    cases h
    rw [givenNames_list hclause, pairs_eq hpairs, List.map_map]
    exact stores_specifiers _ fun s =>
      requireCall id ++ "[" ++ Json.quote (nameText source s.name) ++ "]"
  | none =>
    cases hwhole : namedOfKind? n "namespace_export" with
    | some whole =>
      rw [hclause, hwhole] at h
      obtain ⟨name, hname, h⟩ := bind_ok h
      cases h
      obtain ⟨x, hx, rfl⟩ := namespaceAlias_ok hname
      rw [givenNames_whole hclause hwhole, hx]
      exact .line [(.whole x, requireCall id)] rfl
    | none => simp [hclause, hwhole] at hnames

theorem statement_stores (h : statement source moduleId n = .ok (some (text, required)))
    (gives : GivesNames n) : Stores source (givenNames n) text := by
  obtain ⟨⟨specifier, hform⟩, hnames⟩ := gives
  cases specifier with
  | none =>
    rw [statement_list hform] at h
    obtain ⟨result, hresult, h⟩ := bind_ok h
    cases h
    exact exportText_stores hresult
  | some specifier =>
    rw [statement_reexport hform] at h
    obtain ⟨id, -, h⟩ := bind_ok h
    obtain ⟨result, hresult, h⟩ := bind_ok h
    cases h
    exact reexportText_stores hnames hresult

end Exports

/-! ## Imports -/

/-- A statement takes the names of a list from another module, to bind them or to export them
again. -/
inductive TakesNames (n : Node) : Node → String → Prop where
  | binding {clause list : Node} (statement : n.kind = "import_statement")
      (found : namedOfKind? n "import_clause" = some clause) (inside : list ∈ clause.namedChildren)
      (kind : list.kind = "named_imports") : TakesNames n list "import_specifier"
  | again {list specifier : Node} (statement : IsExport n none none (some specifier))
      (found : namedOfKind? n "export_clause" = some list) : TakesNames n list "export_specifier"

/-- A text that reads the keys of names from a module: in a pattern, or one by one. -/
inductive Reads (source : Bytes) (id : String) (specs : List Specifier) : String → Prop where
  | pattern {lines : List String}
      (line : "const \x7b " ++ ", ".intercalate (specs.map fun s =>
        Json.quote (nameText source s.name) ++ ": " ++ s.otherText source) ++ " \x7d = " ++
          requireCall id ++ ";" ∈ lines) : Reads source id specs (inLine lines)
  | members : Reads source id specs (inLine (specs.map fun s =>
      assignExport (s.otherText source)
        (requireCall id ++ "[" ++ Json.quote (nameText source s.name) ++ "]")))

section Imports

variable {source : Bytes} {moduleId id text kind : String} {required : Option String}
  {n list clause : Node}

theorem importBinding_named {lines : List String} (hkind : list.kind = "named_imports")
    (h : importBinding source (requireCall id) list = .ok lines) :
    "const \x7b " ++ ", ".intercalate ((specifiers list "import_specifier").map fun s =>
        Json.quote (nameText source s.name) ++ ": " ++ s.otherText source) ++ " \x7d = " ++
      requireCall id ++ ";" ∈ lines := by
  unfold importBinding at h
  rw [if_neg (by simp [hkind]), if_neg (by simp [hkind]), if_pos (by simp [hkind])] at h
  obtain ⟨names, hnames, h⟩ := bind_ok h
  cases h
  rw [pairs_eq hnames, List.map_map]
  exact List.mem_singleton_self _

theorem importText_reads (hclause : namedOfKind? n "import_clause" = some clause)
    (hlist : list ∈ clause.namedChildren) (hkind : list.kind = "named_imports")
    (h : importText source n id = .ok text) :
    Reads source id (specifiers list "import_specifier") text := by
  unfold importText at h
  rw [hclause] at h
  obtain ⟨bindings, hbindings, h⟩ := bind_ok h
  cases h
  obtain ⟨lines, hlines, hbinding⟩ := (mapM_ok hbindings).2 list hlist
  exact .pattern (List.mem_flatten.2 ⟨lines, hlines, importBinding_named hkind hbinding⟩)

theorem reexportText_reads (hlist : namedOfKind? n "export_clause" = some list)
    (h : reexportText source n id = .ok text) :
    Reads source id (specifiers list "export_specifier") text := by
  unfold reexportText at h
  rw [hlist] at h
  obtain ⟨names, hnames, h⟩ := bind_ok h
  cases h
  rw [pairs_eq hnames, List.map_map]
  exact .members

theorem statement_reads (h : statement source moduleId n = .ok (some (text, required)))
    (takes : TakesNames n list kind) :
    ∃ id, required = some id ∧ Reads source id (specifiers list kind) text := by
  cases takes with
  | binding hstatement hclause hlist hkind =>
    rw [statement_import hstatement] at h
    obtain ⟨specifier, -, h⟩ := bind_ok h
    obtain ⟨id, -, h⟩ := bind_ok h
    obtain ⟨result, hresult, h⟩ := bind_ok h
    cases h
    exact ⟨id, rfl, importText_reads hclause hlist hkind hresult⟩
  | again hstatement hlist =>
    rw [statement_reexport hstatement] at h
    obtain ⟨id, -, h⟩ := bind_ok h
    obtain ⟨result, hresult, h⟩ := bind_ok h
    cases h
    exact ⟨id, rfl, reexportText_reads hlist hresult⟩

end Imports

/-! ## Meeting -/

/-- Of two statements of which one exports and one imports, the first stores a value for each name
that it gives, and the second reads the key of each name that it takes. The key that is read is the
name itself; so a value that is exported under a name is found under it exactly if the name is
kept. -/
theorem exports_meet_imports {source source' : Bytes} {moduleId moduleId' text text' kind : String}
    {required required' : Option String} {n n' list : Node}
    (hexport : statement source moduleId n = .ok (some (text, required))) (gives : GivesNames n)
    (himport : statement source' moduleId' n' = .ok (some (text', required')))
    (takes : TakesNames n' list kind) :
    Stores source (givenNames n) text ∧
      (∃ id, required' = some id ∧ Reads source' id (specifiers list kind) text') ∧
      ∀ g ∈ givenNames n, ∀ s ∈ specifiers list kind, ∀ name,
        Denotes source g.node name → Denotes source' s.name name →
          nameText source' s.name = name ∧
            (g.key source = nameText source' s.name ↔ g.Keeps name) := by
  refine ⟨statement_stores hexport gives, statement_reads himport takes, ?_⟩
  intro g _ s _ name hgiven htaken
  have hread := nameText_of_denotes htaken
  rw [hread]
  exact ⟨rfl, Given.key_eq_iff hgiven⟩

/-- The name `"b"` at some place of a source. -/
def quoted (lo : Nat) (field : String) : Node :=
  .mk ⟨"string", ⟨lo, lo + 3, Nat.le_add_right lo 3⟩, true, some field⟩ []

def quotedExportSource : Bytes := Utf8.encode "export \x7b a as \"b\" \x7d;"

def quotedExport : Node :=
  .mk ⟨"export_statement", ⟨0, 20, by decide⟩, true, none⟩
    [.mk ⟨"export_clause", ⟨7, 19, by decide⟩, true, none⟩
      [.mk ⟨"export_specifier", ⟨9, 17, by decide⟩, true, none⟩
        [.mk ⟨"identifier", ⟨9, 10, by decide⟩, true, some "name"⟩ [], quoted 14 "alias"]]]

def quotedImportSource : Bytes := Utf8.encode "import \x7b \"b\" as c \x7d from './m';"

def quotedImport : Node :=
  .mk ⟨"import_statement", ⟨0, 31, by decide⟩, true, none⟩
    [.mk ⟨"import_clause", ⟨7, 19, by decide⟩, true, none⟩
      [.mk ⟨"named_imports", ⟨7, 19, by decide⟩, true, none⟩
        [.mk ⟨"import_specifier", ⟨9, 17, by decide⟩, true, none⟩
          [quoted 9 "name", .mk ⟨"identifier", ⟨16, 17, by decide⟩, true, some "alias"⟩ []]]],
     .mk ⟨"string", ⟨25, 30, by decide⟩, true, some "source"⟩ []]

/-- What is exported as `"b"` is not found where `"b"` is imported: its key has the quotes. -/
theorem exports_meet_imports_quoted :
    statement quotedExportSource "/w/m" quotedExport =
        .ok (some ("__exports[\"\\\"b\\\"\"] = a;", none)) ∧
      statement quotedImportSource "/w/e" quotedImport =
        .ok (some ("const \x7b \"b\": c \x7d = __require(\"/w/m\");", some "/w/m")) ∧
      (Given.renamed (quoted 14 "alias")).key quotedExportSource ≠
        nameText quotedImportSource (quoted 9 "name") := by
  have hexport : statement quotedExportSource "/w/m" quotedExport =
      .ok (some ("__exports[\"\\\"b\\\"\"] = a;", none)) := rfl
  have himport : statement quotedImportSource "/w/e" quotedImport =
      .ok (some ("const \x7b \"b\": c \x7d = __require(\"/w/m\");", some "/w/m")) := rfl
  have gives : GivesNames quotedExport := ⟨⟨none, rfl, rfl, rfl, rfl⟩, .inl rfl⟩
  have takes : TakesNames quotedImport _ "import_specifier" :=
    .binding rfl rfl List.mem_cons_self rfl
  obtain ⟨-, -, hmeet⟩ := exports_meet_imports hexport gives himport takes
  have hgiven : Denotes quotedExportSource (quoted 14 "alias") "b" := .literal '"' rfl rfl rfl
  have htaken : Denotes quotedImportSource (quoted 9 "name") "b" := .literal '"' rfl rfl rfl
  refine ⟨hexport, himport, fun heq => ?_⟩
  have hkeeps := (hmeet _ List.mem_cons_self _ List.mem_cons_self "b" hgiven htaken).2.1 heq
  exact hkeeps rfl

end ScriptLint.Factory

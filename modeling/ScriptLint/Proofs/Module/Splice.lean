/-
What rewriting a module leaves as it is. The edits of a module are made from the last to the first;
if its top-level statements stand in order, that is the same as cutting the source at its import and
export statements and putting their replacements between the pieces (`applyEdits_eq_splice`). So all
other bytes stay, and the required modules are listed where they are first named
(`toFactory_isRewriting`).
-/
import ScriptLint.Proofs.Json.Duplicates
import ScriptLint.Proofs.Module.Statements
import ScriptLint.Proofs.Text.Utf8

namespace ScriptLint.Factory

/-! ## Cutting a source -/

/-- The bytes from an offset on, with others in the place of some ranges. -/
def splice (source : Bytes) (start : Nat) : List (Span × Bytes) → Bytes
  | [] => source.drop start
  | (span, piece) :: rest => source.slice start span.lo ++ piece ++ splice source span.hi rest

/-- Ranges stand one after the other between two offsets. -/
def IsSeries (stop : Nat) : Nat → List Span → Prop
  | start, [] => start ≤ stop
  | start, span :: rest => start ≤ span.lo ∧ IsSeries stop span.hi rest

section Cutting

variable {source : Bytes} {start stop : Nat} {spans : List Span} {edits : List Edit}

theorem IsSeries.le (h : IsSeries stop start spans) : start ≤ stop := by
  induction spans generalizing start with
  | nil => exact h
  | cons span rest ih =>
    obtain ⟨hlo, hrest⟩ := h
    have := span.ordered
    have := ih hrest
    omega

theorem isSeries_of_pairwise (hstart : start ≤ stop) (hlo : ∀ s ∈ spans, start ≤ s.lo)
    (inside : ∀ s ∈ spans, s.hi ≤ stop) (ordered : spans.Pairwise fun a b => a.hi ≤ b.lo) :
    IsSeries stop start spans := by
  induction spans generalizing start with
  | nil => exact hstart
  | cons span rest ih =>
    obtain ⟨hspan, hrest⟩ := List.forall_mem_cons.1 inside
    obtain ⟨hafter, hordered⟩ := List.pairwise_cons.1 ordered
    exact ⟨hlo span List.mem_cons_self, ih hspan hafter hrest hordered⟩

theorem take_append_slice {lo hi : Nat} (h : lo ≤ hi) :
    source.take lo ++ source.slice lo hi = source.take hi := by
  rw [Bytes.slice]
  conv_rhs => rw [← List.take_append_drop lo (source.take hi), List.take_take, Nat.min_eq_left h]

/-- Putting the bytes of the ranges back gives the source. -/
theorem splice_self (h : IsSeries source.length start spans) :
    splice source start (spans.map fun s => (s, source.slice s.lo s.hi)) = source.drop start := by
  induction spans generalizing start with
  | nil => rfl
  | cons span rest ih =>
    obtain ⟨hlo, hrest⟩ := h
    have hstart : source.take start ++ source.drop start =
        source.take start ++ (source.slice start span.lo ++ source.slice span.lo span.hi ++
          source.drop span.hi) := by
      rw [List.append_assoc, ← List.append_assoc, take_append_slice hlo, ← List.append_assoc,
        take_append_slice span.ordered, List.take_append_drop, List.take_append_drop]
    rw [List.map_cons, splice, ih hrest]
    exact (List.append_cancel_left hstart).symm

/-- The edits of a series leave the bytes before it, and put the new texts between the bytes that
stand between them. -/
theorem applyEdits_eq_append (h : IsSeries source.length start (edits.map (·.span))) :
    applyEdits source edits =
      source.take start ++ splice source start (edits.map fun e => (e.span, Utf8.encode e.text)) := by
  induction edits generalizing start with
  | nil => exact (List.take_append_drop start source).symm
  | cons e rest ih =>
    obtain ⟨hlo, hrest⟩ := h
    have hedits : applyEdits source (e :: rest) =
        (applyEdits source rest).take e.span.lo ++ Utf8.encode e.text ++
          (applyEdits source rest).drop e.span.hi := rfl
    -- the later edits have left everything before the end of this one
    have hinside : e.span.hi ≤ source.length := hrest.le
    have hlength : (source.take e.span.hi).length = e.span.hi := List.length_take_of_le hinside
    have hbefore : (applyEdits source rest).take e.span.lo = source.take e.span.lo := by
      rw [ih hrest, List.take_append_of_le_length (by rw [hlength]; exact e.span.ordered),
        List.take_take, Nat.min_eq_left e.span.ordered]
    rw [hedits, hbefore, ih hrest, List.drop_left' hlength, List.map_cons, splice,
      ← take_append_slice hlo]
    simp only [List.append_assoc]

theorem applyEdits_eq_splice (h : IsSeries source.length 0 (edits.map (·.span))) :
    applyEdits source edits =
      splice source 0 (edits.map fun e => (e.span, Utf8.encode e.text)) :=
  applyEdits_eq_append h

/-- Between characters there is room for texts. -/
theorem isText_splice {pieces : List (Span × Bytes)} (hsource : Utf8.IsText source)
    (hstart : Utf8.IsText (source.take start)) (h : IsSeries stop start (pieces.map (·.1)))
    (hpieces : ∀ p ∈ pieces, Utf8.IsText (source.take p.1.lo) ∧ Utf8.IsText (source.take p.1.hi) ∧
      Utf8.IsText p.2) : Utf8.IsText (splice source start pieces) := by
  induction pieces generalizing start with
  | nil => exact hsource.drop hstart
  | cons p rest ih =>
    obtain ⟨⟨hlo, hhi, hpiece⟩, hrest⟩ := List.forall_mem_cons.1 hpieces
    obtain ⟨hle, hseries⟩ := h
    exact ((Utf8.IsText.slice hstart hlo hle).append hpiece).append (ih hhi hseries hrest)

end Cutting

/-! ## Statements one after the other -/

/-- An import or export statement with its own replacement and the module that it requires. -/
structure Rewriting where
  node : Node
  text : String
  required : Option String

/-- The edit that makes a rewriting. -/
def Rewriting.edit (r : Rewriting) : Edit := ⟨r.node.span, r.text⟩

section Statements

variable {source : Bytes} {moduleId : String} {ns : List Node}

/-- Listing ids one after the other keeps their first occurrences. -/
theorem foldl_addId (ids : List String) :
    ids.foldl (fun listed id => addId id listed) [] = ids.eraseDups := by
  induction ids using List.reverseRecOn with
  | nil => rfl
  | append_singleton ids id ih =>
    rw [List.foldl_append, ih, List.foldl_cons, List.foldl_nil, eraseDups_concat, addId]
    simp

/-- Going through a list of statements makes the edit of each that imports or exports, and lists
what they require. -/
theorem statements_rewritings {edits edits' : List Edit} {ids ids' : List String}
    (h : statements source moduleId ns edits ids = .ok (edits', ids')) :
    ∃ rs : List Rewriting, rs.map (·.node) = ns.filter isLinkage ∧
      (∀ r ∈ rs, statement source moduleId r.node = .ok (some (r.text, r.required))) ∧
      edits' = edits ++ rs.map Rewriting.edit ∧
      ids' = (rs.filterMap (·.required)).foldl (fun listed id => addId id listed) ids := by
  induction ns generalizing edits ids with
  | nil =>
    cases h
    exact ⟨[], rfl, by simp, by simp, rfl⟩
  | cons n rest ih =>
    rw [statements] at h
    obtain ⟨outcome, houtcome, h⟩ := bind_ok h
    rcases outcome with _ | ⟨text, required⟩
    · obtain ⟨rs, hnodes, hown, hedits, hids⟩ := ih h
      exact ⟨rs, by simpa [statement_none houtcome] using hnodes, hown, hedits, hids⟩
    · obtain ⟨rs, hnodes, hown, hedits, hids⟩ := ih h
      have hlinkage := (statement_ok houtcome).linkage
      refine ⟨⟨n, text, required⟩ :: rs, by simp [hlinkage, hnodes],
        List.forall_mem_cons.2 ⟨houtcome, hown⟩, ?_, ?_⟩
      · rw [hedits, List.append_assoc]
        rfl
      · rw [hids]
        cases required <;> rfl

theorem statements_of_not_linkage (h : ∀ n ∈ ns, isLinkage n = false) (edits : List Edit)
    (ids : List String) : statements source moduleId ns edits ids = .ok (edits, ids) := by
  induction ns with
  | nil => rfl
  | cons n rest ih =>
    obtain ⟨hn, hrest⟩ := List.forall_mem_cons.1 h
    rw [statements, statement_of_not_linkage hn]
    exact ih hrest

end Statements

/-! ## A module -/

/-- The top-level nodes of a module stand in its source, in order and apart. -/
structure IsOrdered (m : ModuleText) : Prop where
  inside : ∀ n ∈ m.root.namedChildren, n.hi ≤ m.source.length
  apart : m.root.namedChildren.Pairwise fun a b => a.hi ≤ b.lo

/-- The source of a module is a text, and no import or export statement cuts a character. -/
structure IsWhole (m : ModuleText) : Prop where
  source : Utf8.IsText m.source
  between : ∀ n ∈ m.root.namedChildren, isLinkage n = true →
    Utf8.IsText (m.source.take n.lo) ∧ Utf8.IsText (m.source.take n.hi)

/-- How a module is rewritten: cut at its import and export statements, its source has their
replacements in their place. -/
structure IsRewriting (moduleId : String) (m : ModuleText) (f : Factory) (rs : List Rewriting) :
    Prop where
  nodes : rs.map (·.node) = m.root.namedChildren.filter isLinkage
  /-- The replacement of a statement does not depend on the others. -/
  own : ∀ r ∈ rs, statement m.source moduleId r.node = .ok (some (r.text, r.required))
  /-- With the statements themselves in their place the pieces are the source. -/
  cut : splice m.source 0 (rs.map fun r => (r.node.span, r.node.bytes m.source)) = m.source
  body : f.body =
    Utf8.decodeLossy (splice m.source 0 (rs.map fun r => (r.node.span, Utf8.encode r.text)))
  bytes : IsWhole m → Utf8.encode f.body =
    splice m.source 0 (rs.map fun r => (r.node.span, Utf8.encode r.text))
  named : ∀ r ∈ rs, ∀ id, r.required = some id ↔ NamesModule m.source moduleId r.node id
  listed : f.dependencies = (rs.filterMap (·.required)).eraseDups
  distinct : f.dependencies.Nodup

section Modules

variable {m : ModuleText} {moduleId : String} {rs : List Rewriting}

theorem isSeries_rewritings (ordered : IsOrdered m)
    (hnodes : rs.map (·.node) = m.root.namedChildren.filter isLinkage) :
    IsSeries m.source.length 0 (rs.map fun r => r.node.span) := by
  have hspans : (rs.map fun r => r.node.span) =
      (m.root.namedChildren.filter isLinkage).map Node.span := by
    rw [← hnodes, List.map_map]
    rfl
  rw [hspans]
  refine isSeries_of_pairwise (Nat.zero_le _) (fun _ _ => Nat.zero_le _) (fun s hs => ?_) ?_
  · obtain ⟨n, hn, rfl⟩ := List.mem_map.1 hs
    exact ordered.inside n (List.mem_filter.1 hn).1
  · exact List.pairwise_map.2 (ordered.apart.filter isLinkage)

/-- With the replacements in their place a whole module is still a text. -/
theorem isText_rewritings (ordered : IsOrdered m) (whole : IsWhole m)
    (hnodes : rs.map (·.node) = m.root.namedChildren.filter isLinkage) :
    Utf8.IsText (splice m.source 0 (rs.map fun r => (r.node.span, Utf8.encode r.text))) := by
  have hseries := isSeries_rewritings ordered hnodes
  refine isText_splice whole.source ⟨[], rfl⟩ (by rwa [List.map_map]) fun p hp => ?_
  obtain ⟨r, hr, rfl⟩ := List.mem_map.1 hp
  have hnode : r.node ∈ m.root.namedChildren.filter isLinkage := hnodes ▸ List.mem_map_of_mem hr
  obtain ⟨hmem, hlinkage⟩ := List.mem_filter.1 hnode
  obtain ⟨hlo, hhi⟩ := whole.between r.node hmem hlinkage
  exact ⟨hlo, hhi, Utf8.isText_encode r.text⟩

/-- The edits of all statements of a module and the ids they list make its factory. -/
theorem isRewriting_of_statements (ordered : IsOrdered m) {edits : List Edit} {ids : List String}
    (h : statements m.source moduleId m.root.namedChildren [] [] = .ok (edits, ids)) :
    ∃ rs, IsRewriting moduleId m ⟨Utf8.decodeLossy (applyEdits m.source edits), ids⟩ rs := by
  obtain ⟨rs, hnodes, hown, hedits, hids⟩ := statements_rewritings h
  have hseries := isSeries_rewritings ordered hnodes
  have hsplice : applyEdits m.source edits =
      splice m.source 0 (rs.map fun r => (r.node.span, Utf8.encode r.text)) := by
    rw [hedits, List.nil_append, applyEdits_eq_splice (by rwa [List.map_map]), List.map_map]
    rfl
  have hcut : (rs.map fun r => (r.node.span, r.node.bytes m.source)) =
      (rs.map fun r => r.node.span).map fun s => (s, m.source.slice s.lo s.hi) := by
    rw [List.map_map]
    rfl
  rw [foldl_addId] at hids
  refine ⟨rs, ?_⟩
  constructor
  case nodes => exact hnodes
  case own => exact hown
  case cut =>
    rw [hcut]
    exact splice_self hseries
  case body => rw [← hsplice]
  case bytes =>
    intro whole
    rw [← (isText_rewritings ordered whole hnodes).encode_decodeLossy, ← hsplice]
  case named => exact fun r hr => (statement_ok (hown r hr)).required_iff
  case listed => exact hids
  case distinct => exact hids ▸ nodup_eraseDups _

/-- Nothing happens to a module that neither imports nor exports. -/
theorem toFactory_of_not_linkage (hparsed : m.hasErrors = false)
    (hnone : m.root.namedChildren.filter isLinkage = []) {text : String}
    (hsource : m.source = Utf8.encode text) : m.toFactory moduleId = .ok ⟨text, []⟩ := by
  have hstatements : statements m.source moduleId m.root.namedChildren [] [] = .ok ([], []) :=
    statements_of_not_linkage (fun n hn => by simpa using List.filter_eq_nil_iff.1 hnone n hn) [] []
  have htext : Utf8.decodeLossy (Utf8.encode text) = text := by
    rw [Utf8.encode, Utf8.decodeLossy_encodeChars, String.ofList_toList]
  unfold ModuleText.toFactory
  rw [hparsed, if_neg (by decide), hstatements, hsource]
  show Except.ok (Factory.mk (Utf8.decodeLossy (Utf8.encode text)) []) = .ok ⟨text, []⟩
  rw [htext]

end Modules

/-- Rewriting touches nothing but import and export statements. A module without them stays as it
is. -/
theorem toFactory_isRewriting {m : ModuleText} (ordered : IsOrdered m) (moduleId : String) :
    (∀ f, m.toFactory moduleId = .ok f → ∃ rs, IsRewriting moduleId m f rs) ∧
      (m.hasErrors = false → m.root.namedChildren.filter isLinkage = [] → ∀ text,
        m.source = Utf8.encode text → m.toFactory moduleId = .ok ⟨text, []⟩) := by
  refine ⟨fun f h => ?_, fun hparsed hnone _ => toFactory_of_not_linkage hparsed hnone⟩
  unfold ModuleText.toFactory at h
  split at h
  · cases h
  · obtain ⟨⟨edits, ids⟩, hstatements, h⟩ := bind_ok h
    cases h
    exact isRewriting_of_statements ordered hstatements

/-- The module `né;import './a';ü;export * from './a';`. -/
def accented : ModuleText :=
  { source := Utf8.encode "né;import './a';ü;export * from './a';"
    root := .mk ⟨"program", ⟨0, 40, by decide⟩, true, none⟩
      [.mk ⟨"expression_statement", ⟨0, 4, by decide⟩, true, none⟩ [],
       .mk ⟨"import_statement", ⟨4, 17, by decide⟩, true, none⟩
        [.mk ⟨"string", ⟨11, 16, by decide⟩, true, some "source"⟩ []],
       .mk ⟨"expression_statement", ⟨17, 20, by decide⟩, true, none⟩ [],
       .mk ⟨"export_statement", ⟨20, 40, by decide⟩, true, none⟩
        [.mk ⟨"string", ⟨34, 39, by decide⟩, true, some "source"⟩ []]]
    hasErrors := false }

/-- Two statements between characters of two bytes, for one module. -/
theorem toFactory_isRewriting_accented :
    IsOrdered accented ∧ ∃ f rs, accented.toFactory "/w/m.js" = .ok f ∧
      IsRewriting "/w/m.js" accented f rs ∧ f.dependencies = ["/w/a"] ∧
      Utf8.encode f.body =
        splice accented.source 0 (rs.map fun r => (r.node.span, Utf8.encode r.text)) := by
  have ordered : IsOrdered accented := ⟨by decide, by decide⟩
  have whole : IsWhole accented := ⟨Utf8.isText_encode _, by decide⟩
  obtain ⟨f, hfactory, hlisted⟩ : ∃ f, accented.toFactory "/w/m.js" = .ok f ∧
      f.dependencies = ["/w/a"] := ⟨_, rfl, rfl⟩
  obtain ⟨rs, hrs⟩ := (toFactory_isRewriting ordered "/w/m.js").1 f hfactory
  exact ⟨ordered, f, rs, hfactory, hrs, hlisted, hrs.bytes whole⟩

end ScriptLint.Factory

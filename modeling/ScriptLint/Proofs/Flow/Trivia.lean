/-
Comments and first lines for an interpreter among statements. The analysis passes over comments,
but it takes those in the form of HTML and first lines for an interpreter for statements, and the
rule on unreachable code reports them. In a program in which nothing but statements and trivia
stand where statements are expected, this is all that has a fact or is reported without being a
statement (`ofProgram_trivia`).
-/
import ScriptLint.Proofs.Flow.Exactness
import ScriptLint.Proofs.Flow.Once
import ScriptLint.Proofs.Rule.Unreachable

namespace ScriptLint.Flow

/-! ## Statements and trivia -/

/-- The kinds of statements and declarations. -/
def statementKinds : List String :=
  ["export_statement", "import_statement", "debugger_statement", "expression_statement",
   "statement_block", "if_statement", "switch_statement", "for_statement", "for_in_statement",
   "while_statement", "do_statement", "try_statement", "with_statement", "break_statement",
   "continue_statement", "return_statement", "throw_statement", "empty_statement",
   "labeled_statement", "function_declaration", "generator_function_declaration",
   "class_declaration", "lexical_declaration", "variable_declaration", "using_declaration"]

def isStatement (n : Node) : Bool := statementKinds.contains n.kind

/-- Trivia that are taken for statements. -/
def strayKinds : List String := ["html_comment", "hash_bang_line"]

def isStray (n : Node) : Bool := strayKinds.contains n.kind

/-- The nodes of the list that a node holds: of a program, a block, an `else` clause or a case. -/
def items (n : Node) : List Node :=
  if ["program", "statement_block", "else_clause"].contains n.kind then n.namedChildren
  else if caseKinds.contains n.kind then n.childrenAt "body"
  else []

/-- Whether a node may stand in a list of statements. -/
def isListable (n : Node) : Bool := isStatement n || isTrivia n

/-- Whether nothing but statements and, in lists, trivia stand where a node has its statements. -/
def holdsStatements (n : Node) : Bool :=
  (items n).all isListable && (placesOf n.kind).all fun (field, place) =>
    place != .statement || (n.child? field).all isStatement

/-- A program that follows the grammar, with statements and trivia only where statements are
expected, all of which start at different offsets. -/
structure Annotated (root : Node) : Prop extends Grammatical root where
  statements : ∀ n ∈ root.preorder, holdsStatements n = true
  starts : ((root.preorder.filter isListable).map Node.lo).Nodup

/-- Whether a node stands in an entered body after something that stops, in its own list or in that of a
statement around it. -/
def IsCutOff (root s : Node) : Prop :=
  ∃ body earlier around, Entered root body ∧ Stands body s earlier around ∧ Cut earlier around

variable {root n s t : Node} {m : Mark} {mode : Mode}

/-- Trivia are passed over or strays. -/
theorem isStray_iff (h : isTrivia t = true) : isStray t = true ↔ isSkipped t = false := by
  have kinds : ∀ kind ∈ triviaKinds,
      (strayKinds.contains kind = true ↔ skippedKinds.contains kind = false) := by decide
  exact kinds _ (List.contains_iff_mem.1 h)

theorem isTrivia_of_stray (h : isStray t = true) : isTrivia t = true := by
  have kinds : ∀ kind ∈ strayKinds, triviaKinds.contains kind = true := by decide
  exact kinds _ (List.contains_iff_mem.1 h)

theorem not_statement_of_trivia (h : isTrivia t = true) : isStatement t = false := by
  have kinds : ∀ kind ∈ triviaKinds, statementKinds.contains kind = false := by decide
  exact kinds _ (List.contains_iff_mem.1 h)

theorem not_stops_of_stray (h : isStray t = true) : ¬Stops t := by
  have kinds : ∀ kind ∈ strayKinds, kind ∉ terminatorKinds ++
      ["statement_block", "if_statement", "try_statement", "do_statement"] := by decide
  exact not_stops_of_kind (kinds _ (List.contains_iff_mem.1 h))

/-! ## What is visited -/

theorem kind_of_item (h : holdsStatements n = true) (hs : s ∈ items n)
    (hskip : isSkipped s = false) : isStatement s = true ∨ isStray s = true := by
  rw [holdsStatements, Bool.and_eq_true, List.all_eq_true] at h
  obtain hstatement | htrivia := Bool.or_eq_true_iff.1 (h.1 s hs)
  · exact .inl hstatement
  · exact .inr ((isStray_iff htrivia).2 hskip)

theorem kind_of_part {field : String} (h : holdsStatements n = true)
    (hplace : (field, .statement) ∈ placesOf n.kind) (hs : n.child? field = some s) :
    isStatement s = true := by
  rw [holdsStatements, Bool.and_eq_true, List.all_eq_true, List.all_eq_true] at h
  simpa [hs] using h.2 _ hplace

/-- What the analysis visits as a statement, going over a node in a mode that suits it, is a
statement or a stray. -/
theorem kind_of_reads (h : Reads mode n .statement s) (hholds : holdsStatements n = true)
    (hsuits : mode.suits n.kind = true) : isStatement s = true ∨ isStray s = true := by
  have ofList : ["program", "statement_block", "else_clause"].contains n.kind = true →
      s ∈ n.namedChildren → isSkipped s = false → isStatement s = true ∨ isStray s = true := by
    intro hkind hs hskip
    exact kind_of_item hholds (by rw [items, if_pos hkind]; exact hs) hskip
  cases h with
  | item h hskip =>
    have hkinds : ∀ kind ∈ ["program", "statement_block"],
        ["program", "statement_block", "else_clause"].contains kind = true := by decide
    exact ofList (hkinds _ (List.contains_iff_mem.1 hsuits)) h hskip
  | choice h hskip => exact ofList (by rw [eq_of_beq hsuits]; decide) h hskip
  | clauseBody h =>
    have hkinds : ∀ kind ∈ ["catch_clause", "finally_clause"],
        ("body", Place.statement) ∈ placesOf kind := by decide
    exact .inl (kind_of_part hholds (hkinds _ (List.contains_iff_mem.1 hsuits)) h)
  | caseItem h hskip =>
    have hkinds : ∀ kind ∈ caseKinds,
        ["program", "statement_block", "else_clause"].contains kind = false := by decide
    have hitems : items n = n.childrenAt "body" := by
      rw [items, hkinds _ (List.contains_iff_mem.1 hsuits), if_neg Bool.false_ne_true]
      exact if_pos hsuits
    exact kind_of_item hholds (hitems ▸ h) hskip
  | simple kind h => cases h
  | block kind h =>
    cases h with
    | item h hskip => exact ofList (by rw [kind]; decide) h hskip
  | field hfield h =>
    have hplaces : ∀ kind ∈ composedKinds, ∀ entry ∈ followed kind, entry.2 = .statement →
        (entry.1, .statement) ∈ placesOf kind := by decide
    exact .inl (kind_of_part hholds (hplaces _ (composed_of_followed hfield) _ hfield rfl) h)

/-- Marks are made for statements and strays only. -/
theorem kind_of_makes (hfits : ∀ x ∈ n.preorder, fits x = true)
    (hholds : ∀ x ∈ n.preorder, holdsStatements x = true)
    (hsuits : n.isLeaf = false → mode.suits n.kind = true)
    (hstart : mode = .statement → isStatement n = true ∨ isStray n = true)
    (hm : mode.Makes m n) : isStatement m.node = true ∨ isStray m.node = true := by
  induction hs : sizeOf n using Nat.strongRecOn generalizing n mode with
  | ind k ih =>
    obtain ⟨hmode, hown⟩ | ⟨mode', c, hreads, hm'⟩ := hm.reads
    · rw [hown]
      exact hstart hmode
    · have hc := hreads.mem_children
      have hn := hsuits (Node.isLeaf_of_mem hc)
      obtain ⟨-, hsuits'⟩ := hreads.suits (hfits n n.mem_preorder_self) hn
      have hinner : ∀ x ∈ c.preorder, x ∈ n.preorder := fun x hx =>
        Node.mem_preorder_trans hx (Node.mem_preorder_child hc)
      refine ih _ (hs ▸ Node.sizeOf_lt_of_mem hc) (fun x hx => hfits x (hinner x hx))
        (fun x hx => hholds x (hinner x hx)) hsuits' (fun hmode => ?_) hm' rfl
      subst hmode
      exact kind_of_reads hreads (hholds n n.mem_preorder_self) hn

theorem mem_preorder_of_mem_marks (hm : m ∈ marks root) : m.node ∈ root.preorder :=
  (marks_subperm root).subset (List.mem_map_of_mem hm)

namespace Annotated

variable (h : Annotated root)

include h

theorem kind_of_mem_marks (hm : m ∈ marks root) :
    isStatement m.node = true ∨ isStray m.node = true := by
  have hlist : Mode.list.Makes m root := ⟨false, hm⟩
  refine kind_of_makes h.fits h.statements (fun _ => ?_) (fun hmode => ?_) hlist
  · rw [h.program]
    decide
  · cases hmode

theorem isListable_of_mem_marks (hm : m ∈ marks root) : isListable m.node = true := by
  rw [isListable, Bool.or_eq_true]
  exact (h.kind_of_mem_marks hm).imp_right isTrivia_of_stray

theorem distinct : ((marks root).map Mark.offset).Nodup :=
  distinct_of_starts isListable h.starts fun _ hm => h.isListable_of_mem_marks hm

/-- A mark that is filed where one of the trivia starts is a mark of it. -/
theorem node_eq_of_offset (ht : t ∈ root.preorder) (htrivia : isTrivia t = true)
    (hm : m ∈ marks root) (hlo : m.node.lo = t.lo) : m.node = t := by
  have hnode : m.node ∈ root.preorder.filter isListable :=
    List.mem_filter.2 ⟨mem_preorder_of_mem_marks hm, h.isListable_of_mem_marks hm⟩
  have hlisted : t ∈ root.preorder.filter isListable :=
    List.mem_filter.2 ⟨ht, by simp [isListable, htrivia]⟩
  exact List.inj_on_of_nodup_map h.starts hnode hlisted hlo

/-- A fact at the start of one of the trivia is a fact about it. -/
theorem isVisited_of_lookup (ht : t ∈ root.preorder) (htrivia : isTrivia t = true) {fact : Fact}
    (hlookup : (ControlFlow.ofProgram root).lookup t.lo = some fact) :
    IsVisited root t ∧ isStray t = true := by
  obtain ⟨m, hm, hoffset, -⟩ := mark_of_lookup hlookup
  obtain rfl := h.node_eq_of_offset ht htrivia hm (Int.ofNat_inj.1 hoffset)
  refine ⟨isVisited_iff.2 ⟨m, hm, rfl⟩, (h.kind_of_mem_marks hm).resolve_left fun hstatement => ?_⟩
  rw [not_statement_of_trivia htrivia] at hstatement
  cases hstatement

/-- A node that is visited has a fact, by which it is unreachable exactly if it is cut off. -/
theorem fact_of_isVisited (hvisited : IsVisited root s) :
    ∃ unreachable stops, (ControlFlow.ofProgram root).lookup s.lo =
        some (.ofBools unreachable stops) ∧
      (unreachable = true ↔ IsCutOff root s) ∧ (stops = true ↔ Stops s) := by
  obtain ⟨body, earlier, around, outer, hstands⟩ := hvisited
  obtain ⟨u, stops, hlookup, hu, hstops⟩ := fact_of_stands h.distinct outer hstands
  refine ⟨u, stops, hlookup, ⟨fun hdead => ?_, ?_⟩, hstops⟩
  · exact ⟨body, earlier, around, outer, hstands, hu.1 hdead⟩
  · rintro ⟨body', earlier', around', outer', hstands', hcut⟩
    obtain ⟨u', stops', hlookup', hu', -⟩ := fact_of_stands h.distinct outer' hstands'
    have heq : Fact.ofBools u' stops' = .ofBools u stops :=
      Option.some.inj (hlookup'.symm.trans hlookup)
    obtain rfl : u' = u := congrArg Fact.unreachable heq
    exact hu'.2 hcut

theorem fact_of_stray (hvisited : IsVisited root t) (hstray : isStray t = true) :
    ∃ unreachable, (ControlFlow.ofProgram root).lookup t.lo = some (.ofBools unreachable false) ∧
      (unreachable = true ↔ IsCutOff root t) := by
  obtain ⟨u, stops, hlookup, hu, hstops⟩ := h.fact_of_isVisited hvisited
  obtain rfl : stops = false := by
    rw [Bool.eq_false_iff, ne_eq, hstops]
    exact not_stops_of_stray hstray
  exact ⟨u, hlookup, hu⟩

/-- Of the trivia just the strays that are visited have facts, and these say that they do not
stop. -/
theorem lookup_stray_iff (ht : t ∈ root.preorder) (hstray : isStray t = true) {fact : Fact} :
    (ControlFlow.ofProgram root).lookup t.lo = some fact ↔ IsVisited root t ∧ ∃ unreachable,
      fact = .ofBools unreachable false ∧ (unreachable = true ↔ IsCutOff root t) := by
  constructor
  · intro hlookup
    have hvisited := (h.isVisited_of_lookup ht (isTrivia_of_stray hstray) hlookup).1
    obtain ⟨u, hfact, hu⟩ := h.fact_of_stray hvisited hstray
    exact ⟨hvisited, u, Option.some.inj (hlookup.symm.trans hfact), hu⟩
  · rintro ⟨hvisited, u, rfl, hu⟩
    obtain ⟨u', hfact, hu'⟩ := h.fact_of_stray hvisited hstray
    obtain rfl : u' = u := Bool.eq_iff_iff.2 (hu'.trans hu.symm)
    exact hfact

/-- The start of one of the trivia counts as unreachable exactly for strays that are cut off. -/
theorem hit_iff (ht : t ∈ root.preorder) (htrivia : isTrivia t = true) :
    NoUnreachable.Hit (ControlFlow.ofProgram root) t ↔ isStray t = true ∧ IsCutOff root t := by
  constructor
  · rintro ⟨-, fact, hlookup, hdead⟩
    have hstray := (h.isVisited_of_lookup ht htrivia hlookup).2
    obtain ⟨-, u, rfl, hu⟩ := (h.lookup_stray_iff ht hstray).1 hlookup
    exact ⟨hstray, hu.1 hdead⟩
  · rintro ⟨hstray, hcut⟩
    have hkinds : ∀ kind ∈ strayKinds, kind ∉ NoUnreachable.exemptKinds := by decide
    have hvisited : IsVisited root t := by
      obtain ⟨body, earlier, around, outer, hstands, -⟩ := hcut
      exact ⟨body, earlier, around, outer, hstands⟩
    exact ⟨hkinds _ (List.contains_iff_mem.1 hstray), .ofBools true false,
      (h.lookup_stray_iff ht hstray).2 ⟨hvisited, true, rfl, by simp [hcut]⟩, rfl⟩

end Annotated

/-- A stray in a list that is not overlooked is visited. -/
theorem isVisited_of_listed (h : Grammatical root) (hsees : Sees root n) (ht : t ∈ listed n) :
    IsVisited root t := isVisited_iff.2 (mark_of_sees h hsees ht)

/-! ## The report -/

/-- What the facts of a program and a report of the rule on unreachable code that goes by them say
of trivia. -/
structure TakesStrays (root : Node) (report : Report) : Prop where
  /-- Facts are at the starts of statements and of strays that stand as statements. -/
  starts : ∀ offset fact, (ControlFlow.ofProgram root).lookup offset = some fact →
    ∃ s, IsVisited root s ∧ (s.lo : Int) = offset ∧ (isStatement s = true ∨ isStray s = true)
  /-- There is none at the start of any other of the trivia. -/
  comments : ∀ t ∈ root.preorder, isTrivia t = true → isStray t = false →
    (ControlFlow.ofProgram root).lookup t.lo = none
  strays : ∀ t ∈ root.preorder, isStray t = true → ∀ fact,
    (ControlFlow.ofProgram root).lookup t.lo = some fact ↔ IsVisited root t ∧
      ∃ unreachable, fact = .ofBools unreachable false ∧ (unreachable = true ↔ IsCutOff root t)
  /-- Strays stand as statements wherever a list is not overlooked. -/
  listed : ∀ n, Sees root n → ∀ t ∈ listed n, isStray t = true → IsVisited root t
  /-- Of the trivia just the strays that are cut off and do not lie in a reported node are reported,
  each once. -/
  reported : ∃ places, report = .complete (places.map fun place => NoUnreachable.finding place.2) ∧
    NoUnreachable.IsListing (NoUnreachable.IsOutermost (ControlFlow.ofProgram root) root) places ∧
    ∀ path t, root.namedAt? path = some t → isTrivia t = true → ((path, t) ∈ places ↔
      isStray t = true ∧ IsCutOff root t ∧ ∀ p a, p <+: path → p ≠ path →
        root.namedAt? p = some a → ¬NoUnreachable.Hit (ControlFlow.ofProgram root) a)

/-- In a program with nothing but statements and trivia where statements are expected, comments
have no facts and are not reported, but strays are taken for statements. -/
theorem ofProgram_trivia (context : Context) (program : Program) (h : Annotated program.root) :
    TakesStrays program.root (Rule.noUnreachable.check
      { context with flow := some (.ofProgram program.root) } program) := by
  refine ⟨fun offset fact hlookup => ?_, fun t ht htrivia hstray => ?_,
    fun t ht hstray fact => h.lookup_stray_iff ht hstray,
    fun n hsees t ht _ => isVisited_of_listed h.toGrammatical hsees ht, ?_⟩
  · obtain ⟨m, hm, hoffset, -⟩ := mark_of_lookup hlookup
    exact ⟨m.node, isVisited_iff.2 ⟨m, hm, rfl⟩, hoffset, h.kind_of_mem_marks hm⟩
  · rw [Option.eq_none_iff_forall_not_mem]
    intro fact hlookup
    rw [(h.isVisited_of_lookup ht htrivia hlookup).2] at hstray
    cases hstray
  · obtain ⟨places, hplaces, hfound⟩ :=
      NoUnreachable.hits_listing (ControlFlow.ofProgram program.root) program.root
    refine ⟨places, ?_, hplaces, fun path t hat htrivia => ?_⟩
    · change Report.complete ((NoUnreachable.hits _ program.root).map NoUnreachable.finding) = _
      rw [hfound, List.map_map]
      rfl
    · have hhit := h.hit_iff (Node.mem_preorder_of_namedAt? hat) htrivia
      rw [hplaces.complete]
      constructor
      · intro houtermost
        obtain ⟨hstray, hcut⟩ := hhit.1 houtermost.hit
        exact ⟨hstray, hcut, houtermost.above⟩
      · rintro ⟨hstray, hcut, habove⟩
        exact ⟨hat, hhit.2 ⟨hstray, hcut⟩, habove⟩

/-! ## A comment after a `throw` -/

/-- The statement `throw a;`. -/
def throwing : Node :=
  named "throw_statement" none 0 8 [named "identifier" none 6 1 []]

/-- The comment `<!-- x` on the line after it. -/
def htmlComment : Node := named "html_comment" none 9 6 []

def throwThenComment : Node := named "program" none 0 15 [throwing, htmlComment]

theorem annotated_throwThenComment : Annotated throwThenComment := by
  have hfits : throwThenComment.preorder.all fits = true := by decide
  have hholds : throwThenComment.preorder.all holdsStatements = true := by decide
  exact ⟨⟨rfl, List.all_eq_true.1 hfits⟩, List.all_eq_true.1 hholds, by decide⟩

theorem marks_throwThenComment :
    marks throwThenComment = [⟨throwing, false, true⟩, ⟨htmlComment, true, false⟩] := by
  have hsearch : functions throwing = [] := by
    have hleaf : functions (named "identifier" none 6 1 []) = [] := functions_leaf rfl
    rw [functions_children (by decide)]
    exact List.flatMap_eq_nil_iff.2 fun c hc => (List.mem_singleton.1 hc) ▸ hleaf
  rw [marks, show throwThenComment.namedChildren = [throwing, htmlComment] from rfl,
    block_cons (by decide), block_cons (by decide), block_nil, visit_stops, visit_stops,
    visit_marks, visit_marks, statement_terminator (by decide), hsearch, Bool.false_or,
    statement_simple (by decide), functions_leaf rfl]
  rfl

/-- The comment comes after a `throw`, in the list of the program. -/
theorem isCutOff_htmlComment : IsCutOff throwThenComment htmlComment := by
  have hsplit : throwThenComment.namedChildren = [throwing] ++ htmlComment :: [] := rfl
  refine ⟨_, [throwing], [], .program, .top hsplit (by decide), .inl ?_⟩
  exact ⟨throwing, List.mem_singleton_self _, by decide, .jump (by decide)⟩

/-- The comment is reported as unreachable. -/
theorem ofProgram_trivia_throwThenComment :
    Annotated throwThenComment ∧ isTrivia htmlComment = true ∧
      NoUnreachable.finding htmlComment ∈ (Rule.noUnreachable.check
        { Context.start none with flow := some (.ofProgram throwThenComment) }
        ⟨"input.js", [], throwThenComment, false⟩).findings := by
  refine ⟨annotated_throwThenComment, by decide, ?_⟩
  obtain ⟨places, hreport, -, htrivia⟩ := (ofProgram_trivia (Context.start none)
    ⟨"input.js", [], throwThenComment, false⟩ annotated_throwThenComment).reported
  have hplace : ([1], htmlComment) ∈ places := by
    refine (htrivia [1] htmlComment rfl (by decide)).2
      ⟨by decide, isCutOff_htmlComment, fun p a hp hne ha hit => ?_⟩
    -- above the comment is only the program, which starts where the `throw` does
    obtain rfl : p = [] := by
      obtain ⟨rest, hrest⟩ := hp
      cases p with
      | nil => rfl
      | cons i p => simp_all
    obtain rfl : throwThenComment = a := Option.some.inj ha
    obtain ⟨-, fact, hlookup, hdead⟩ := hit
    have hfirst : (ControlFlow.ofProgram throwThenComment).lookup throwThenComment.lo =
        some (.ofBools false true) := by
      rw [ControlFlow.ofProgram, marks_throwThenComment]
      rfl
    obtain rfl := Option.some.inj (hfirst.symm.trans hlookup)
    cases hdead
  rw [hreport]
  exact List.mem_map_of_mem hplace

end ScriptLint.Flow

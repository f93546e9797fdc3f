/-
Which statements the analysis finds. In a tree that follows the grammar it goes over every part that
is not overlooked, in the mode that suits the part, and over no other, so the statements of a list
have marks and facts unless the list lies in a part that is overlooked, and every fact is about a
statement outside of such parts (`ofProgram_covers`).
-/
import ScriptLint.Proofs.Flow.Facts
import ScriptLint.Proofs.Flow.Grammar
import ScriptLint.Proofs.Flow.Reading

namespace ScriptLint.Flow

variable {m : Mark} {n c s : Node} {mode mode' : Mode}

/-! ## Modes and the grammar -/

/-- Whether nodes of a kind may be gone over in a mode, in a tree that follows the grammar. -/
def Mode.suits : Mode → String → Bool
  | .statement, kind => isStatementKind kind
  | .functions, kind => isExpressionKind kind
  | .list, kind => ["program", "statement_block"].contains kind
  | .alternatives, kind => kind == "else_clause"
  | .clause, kind => ["catch_clause", "finally_clause"].contains kind
  | .cases, kind => kind == "switch_body"
  | .case, kind => caseKinds.contains kind

/-- The mode for what stands at a place. -/
def Place.readAs : Place → Mode
  | .statement => .statement
  | .expression => .functions
  | .alternative => .alternatives
  | .handler | .finalizer => .clause
  | .switchBody => .cases

theorem Place.suits_of_holds {place : Place} {kind : String} (h : place.holds kind = true) :
    place.readAs.suits kind = true := by
  cases place with
  | statement | expression | alternative | switchBody => exact h
  | handler | finalizer =>
    obtain rfl := eq_of_beq h
    decide

theorem shape_of_composed : ∀ kind ∈ composedKinds, shape kind = .fields := by decide

/-- The analysis follows all fields of composed statements but those that are overlooked. -/
theorem followed_of_place : ∀ kind ∈ composedKinds, ∀ entry ∈ placesOf kind,
    isOverlooked kind (some entry.1) = false → (entry.1, entry.2.readAs) ∈ followed kind := by decide

theorem mode_of_followed : ∀ kind ∈ composedKinds, ∀ entry ∈ followed kind,
    isOverlooked kind (some entry.1) = false ∧
      ∀ place ∈ placesOf kind, place.1 = entry.1 → place.2.readAs = entry.2 := by decide

theorem entersBody_eq : entersBody n = bodyKinds.contains n.kind := by
  rw [Bool.eq_iff_iff]
  simp [entersBody, Node.isFunction, bodyKinds]

theorem composed_of_places {kind : String} (h : placesOf kind ≠ []) :
    kind ∈ composedKinds ++ ["catch_clause", "finally_clause"] := by
  unfold placesOf at h
  split at h
  case h_12 => exact absurd rfl h
  all_goals decide

/-- Kinds of nodes in which statements stand. -/
def holderKinds : List String :=
  ["program", "statement_block", "else_clause", "switch_body"] ++ caseKinds ++
    (composedKinds ++ ["catch_clause", "finally_clause"])

theorem expression_or_holder (kind : String) :
    isExpressionKind kind = true ∨ kind ∈ holderKinds := by
  unfold isExpressionKind shape
  split_ifs with hbody hlist hswitch hcase hplaces
  · exact .inl rfl
  · simp only [List.contains_iff_mem, List.mem_cons, List.not_mem_nil, or_false] at hlist
    obtain rfl | rfl | rfl := hlist <;> exact .inr (by decide)
  · obtain rfl := eq_of_beq hswitch
    exact .inr (by decide)
  · exact .inr (List.mem_append_left _ (List.mem_append_right _ (List.contains_iff_mem.1 hcase)))
  · exact .inl rfl
  · exact .inr (List.mem_append_right _ (composed_of_places (by simpa using hplaces)))

/-- Statements that are not made of statements are analysed like expressions. -/
theorem expression_of_simple (h : isStatementKind n.kind = true)
    (kind : n.kind ∈ terminatorKinds ∨ isSimple n = true) : isExpressionKind n.kind = true := by
  obtain kind | kind := kind
  · have hall : ∀ kind ∈ terminatorKinds, isExpressionKind kind = true := by decide
    exact hall _ kind
  · obtain hexpression | hholder := expression_or_holder n.kind
    · exact hexpression
    · have hall : ∀ kind ∈ holderKinds, isStatementKind kind = true →
          (terminatorKinds ++ ["statement_block", "if_statement", "try_statement",
            "switch_statement", "do_statement"] ++ openKinds).contains kind = true := by decide
      rw [isSimple, hall _ hholder h] at kind
      cases kind

theorem not_overlooked_body (kind : String) : isOverlooked kind (some "body") = false := by
  simp [isOverlooked]

/-- Only bodies that are entered on their own, `catch` clauses and loops over properties have parts
that are overlooked. -/
theorem not_overlooked {kind : String}
    (h : bodyKinds.contains kind = false ∧ kind ≠ "catch_clause" ∧ kind ≠ "for_in_statement")
    (field : Option String) : isOverlooked kind field = false := by
  rw [isOverlooked, h.1, beq_eq_false_iff_ne.2 h.2.1, beq_eq_false_iff_ne.2 h.2.2]
  rfl

theorem field?_of_child? {field : String} (h : n.child? field = some c) :
    c.field? = some field := by
  simpa using List.find?_some h

theorem shape_of_expression {kind : String} (h : isExpressionKind kind = true)
    (hbody : bodyKinds.contains kind = false) : shape kind = .plain := by
  unfold isExpressionKind at h
  split at h
  · assumption
  · next hshape =>
    rw [shape, hbody, if_neg Bool.false_ne_true] at hshape
    split_ifs at hshape
  · cases h

theorem shape_of_body {kind : String} (h : bodyKinds.contains kind = true) :
    shape kind = .body := by
  rw [shape, if_pos h]

section Suits

variable (hfits : fits n = true)

include hfits

theorem suits_item (hkind : n.kind ∈ ["program", "statement_block", "else_clause"])
    (hs : s ∈ n.namedChildren) :
    isOverlooked n.kind s.field? = false ∧ (s.isLeaf = false → isStatementKind s.kind = true) := by
  have hlist : ∀ kind ∈ ["program", "statement_block", "else_clause"],
      shape kind = .statements ∧ bodyKinds.contains kind = false ∧ kind ≠ "catch_clause" ∧
        kind ≠ "for_in_statement" := by decide
  obtain ⟨hshape, hothers⟩ := hlist _ hkind
  refine ⟨not_overlooked hothers _, fun hleaf => ?_⟩
  have hstand := (part_of_fits hfits (Node.mem_children_of_mem_namedChildren hs) hleaf).2.2
  rwa [mayStand, hshape] at hstand

theorem suits_case {k : Node} (hkind : n.kind = "switch_body") (hk : k ∈ n.namedChildren) :
    isOverlooked n.kind k.field? = false ∧ (k.isLeaf = false → caseKinds.contains k.kind = true) := by
  have hshape : shape n.kind = .cases := by rw [hkind]; decide
  refine ⟨not_overlooked (by rw [hkind]; decide) _, fun hleaf => ?_⟩
  have hstand := (part_of_fits hfits (Node.mem_children_of_mem_namedChildren hk) hleaf).2.2
  rwa [mayStand, hshape] at hstand

theorem suits_casePart (hkind : n.kind ∈ caseKinds) (hc : c ∈ n.children) :
    isOverlooked n.kind c.field? = false ∧ (c.isLeaf = false →
      (c.field? = some "value" ∧ isExpressionKind c.kind = true) ∨
        (c.field? = some "body" ∧ isStatementKind c.kind = true)) := by
  have hcase : ∀ kind ∈ caseKinds, shape kind = .case ∧ bodyKinds.contains kind = false ∧
      kind ≠ "catch_clause" ∧ kind ≠ "for_in_statement" := by decide
  obtain ⟨hshape, hothers⟩ := hcase _ hkind
  refine ⟨not_overlooked hothers _, fun hleaf => ?_⟩
  have hstand := (part_of_fits hfits hc hleaf).2.2
  simpa only [mayStand, hshape, Bool.or_eq_true, Bool.and_eq_true, beq_iff_eq] using hstand

theorem suits_field {places : List (String × Place)} (hshape : shape n.kind = .fields)
    (hplaces : placesOf n.kind = places) (hc : c ∈ n.children) (hleaf : c.isLeaf = false) :
    ∃ place ∈ places, c.field? = some place.1 ∧ place.2.holds c.kind = true := by
  have hstand := (part_of_fits hfits hc hleaf).2.2
  rw [mayStand, hshape, hplaces] at hstand
  obtain ⟨place, hplace, hholds⟩ := List.any_eq_true.1 hstand
  exact ⟨place, hplace, by simpa using hholds⟩

theorem child?_of_fields (hshape : shape n.kind = .fields) (hc : c ∈ n.children)
    (hleaf : c.isLeaf = false) :
    ∃ place ∈ placesOf n.kind, n.child? place.1 = some c ∧ c.field? = some place.1 := by
  obtain ⟨place, hplace, hfield, -⟩ := suits_field hfits hshape rfl hc hleaf
  have hsingle : place.1 ∈ singleFields n.kind := by
    rw [singleFields, hshape]
    exact List.mem_map_of_mem hplace
  exact ⟨place, hplace, child?_of_fits hfits hc hleaf hsingle hfield, hfield⟩

theorem suits_inner (hsuits : isExpressionKind n.kind = true) (enters : entersBody n = false)
    (hc : c ∈ n.children) :
    isOverlooked n.kind c.field? = false ∧ (c.isLeaf = false → isExpressionKind c.kind = true) := by
  have hnot : n.kind ≠ "catch_clause" ∧ n.kind ≠ "for_in_statement" := by
    constructor <;> (intro h; rw [h] at hsuits; revert hsuits; decide)
  have henters : bodyKinds.contains n.kind = false := by rwa [← entersBody_eq]
  refine ⟨not_overlooked ⟨henters, hnot⟩ _, fun hleaf => ?_⟩
  have hstand := (part_of_fits hfits hc hleaf).2.2
  rwa [mayStand, shape_of_expression hsuits henters] at hstand

theorem suits_body (enters : entersBody n = true) (hc : c ∈ n.children) (hleaf : c.isLeaf = false) :
    c.kind = "statement_block" ∨ isExpressionKind c.kind = true := by
  have hstand := (part_of_fits hfits hc hleaf).2.2
  rw [mayStand, shape_of_body (by rwa [← entersBody_eq]), Bool.or_eq_true, Bool.and_eq_true] at hstand
  exact hstand.imp_left fun h => eq_of_beq h.2

end Suits

/-- In a tree that follows the grammar, the analysis goes over no part that is overlooked, and over
the others in modes that suit them. -/
theorem Reads.suits (h : Reads mode n mode' c) (hfits : fits n = true)
    (hsuits : mode.suits n.kind = true) :
    isOverlooked n.kind c.field? = false ∧ (c.isLeaf = false → mode'.suits c.kind = true) := by
  induction h with
  | item h hs =>
    have hkind := List.mem_append_left ["else_clause"] (List.contains_iff_mem.1 hsuits)
    exact suits_item hfits hkind h
  | choice h hs => exact suits_item hfits (by rw [eq_of_beq hsuits]; decide) h
  | @clauseBody n s h =>
    have hkinds : ∀ kind ∈ ["catch_clause", "finally_clause"], shape kind = .fields ∧
        ∀ place ∈ placesOf kind, place.1 = "body" → place.2 = .statement := by decide
    obtain ⟨hshape, hplaces⟩ := hkinds _ (List.contains_iff_mem.1 hsuits)
    have hfield := field?_of_child? h
    refine ⟨hfield ▸ not_overlooked_body _, fun hleaf => ?_⟩
    obtain ⟨⟨field, place⟩, hplace, hfield', hholds⟩ :=
      suits_field hfits hshape rfl (Node.mem_children_of_child? h) hleaf
    rw [hfield, Option.some.injEq] at hfield'
    rwa [hplaces _ hplace hfield'.symm] at hholds
  | case h hk => exact suits_case hfits (eq_of_beq hsuits) h
  | caseValue h =>
    obtain ⟨hover, hpart⟩ := suits_casePart hfits (List.contains_iff_mem.1 hsuits)
      (Node.mem_children_of_child? h)
    refine ⟨hover, fun hleaf => ?_⟩
    obtain ⟨-, hexpression⟩ | ⟨hbody, -⟩ := hpart hleaf
    · exact hexpression
    · simp [field?_of_child? h] at hbody
  | caseItem h hs =>
    obtain ⟨hover, hpart⟩ := suits_casePart hfits (List.contains_iff_mem.1 hsuits)
      (Node.mem_children_of_mem_childrenAt h)
    refine ⟨hover, fun hleaf => ?_⟩
    have hfield := eq_of_beq (List.mem_filter.1 h).2
    obtain ⟨hvalue, -⟩ | ⟨-, hstatement⟩ := hpart hleaf
    · simp [hfield] at hvalue
    · exact hstatement
  | inner enters h => exact suits_inner hfits hsuits enters h
  | bodyList enters h kind =>
    exact ⟨field?_of_child? h ▸ not_overlooked_body _, fun _ => by rw [kind]; decide⟩
  | bodyExpression enters h kind =>
    refine ⟨field?_of_child? h ▸ not_overlooked_body _, fun hleaf => ?_⟩
    exact (suits_body hfits enters (Node.mem_children_of_child? h) hleaf).resolve_left kind
  | simple kind h ih => exact ih hfits (expression_of_simple hsuits kind)
  | block kind h ih => exact ih hfits (by rw [kind]; decide)
  | @field n field mode c hfield h =>
    have hkind := composed_of_followed hfield
    obtain ⟨hover, hmode⟩ := mode_of_followed _ hkind _ hfield
    have hat := field?_of_child? h
    refine ⟨hat ▸ hover, fun hleaf => ?_⟩
    obtain ⟨place, hplace, hat', hholds⟩ :=
      suits_field hfits (shape_of_composed _ hkind) rfl (Node.mem_children_of_child? h) hleaf
    rw [hat, Option.some.injEq] at hat'
    have hread : place.2.readAs = mode := hmode place hplace hat'.symm
    exact hread ▸ Place.suits_of_holds hholds

theorem reads_functions (hfits : fits n = true) (hc : c ∈ n.children) (hleaf : c.isLeaf = false)
    (hover : isOverlooked n.kind c.field? = false) : ∃ mode', Reads .functions n mode' c := by
  cases enters : entersBody n with
  | false => exact ⟨.functions, .inner enters hc⟩
  | true =>
    have hbody : bodyKinds.contains n.kind = true := by rwa [← entersBody_eq]
    have hfield : c.field? = some "body" := by
      simp only [isOverlooked, hbody, Bool.or_eq_false_iff] at hover
      simpa using hover.1.1
    have hchild := child?_of_fits hfits hc hleaf
      (by rw [singleFields, shape_of_body hbody]; exact List.mem_singleton_self _) hfield
    by_cases kind : c.kind = "statement_block"
    · exact ⟨.list, .bodyList enters hchild kind⟩
    · exact ⟨.functions, .bodyExpression enters hchild kind⟩

/-- In a tree that follows the grammar, the analysis goes over every part that is no leaf and not
overlooked. -/
theorem reads_part (hfits : fits n = true) (hsuits : mode.suits n.kind = true)
    (hc : c ∈ n.children) (hleaf : c.isLeaf = false)
    (hover : isOverlooked n.kind c.field? = false) : ∃ mode', Reads mode n mode' c := by
  obtain ⟨hnamed, hskip, -⟩ := part_of_fits hfits hc hleaf
  have hitem : c ∈ n.namedChildren := List.mem_filter.2 ⟨hc, hnamed⟩
  cases mode with
  | list => exact ⟨.statement, .item hitem hskip⟩
  | alternatives => exact ⟨.statement, .choice hitem hskip⟩
  | cases => exact ⟨.case, .case hitem hskip⟩
  | functions => exact reads_functions hfits hc hleaf hover
  | clause =>
    have hkinds : ∀ kind ∈ ["catch_clause", "finally_clause"], shape kind = .fields ∧
        ∀ place ∈ placesOf kind, isOverlooked kind (some place.1) = true ∨ place.1 = "body" := by
      decide
    obtain ⟨hshape, hplaces⟩ := hkinds _ (List.contains_iff_mem.1 hsuits)
    obtain ⟨place, hplace, hchild, hfield⟩ := child?_of_fields hfits hshape hc hleaf
    obtain hover' | hbody := hplaces place hplace
    · rw [← hfield, hover] at hover'
      cases hover'
    · exact ⟨.statement, .clauseBody (hbody ▸ hchild)⟩
  | case =>
    have hsingle : ∀ kind ∈ caseKinds, "value" ∈ singleFields kind := by decide
    have hkind := List.contains_iff_mem.1 hsuits
    obtain ⟨hvalue, -⟩ | ⟨hbody, -⟩ := (suits_casePart hfits hkind hc).2 hleaf
    · exact ⟨.functions, .caseValue (child?_of_fits hfits hc hleaf (hsingle _ hkind) hvalue)⟩
    · exact ⟨.statement, .caseItem (List.mem_filter.2 ⟨hc, by simp [hbody]⟩) hskip⟩
  | statement =>
    have ofFields : n.kind ∈ composedKinds → ∃ mode', Reads .statement n mode' c := by
      intro hkind
      obtain ⟨place, hplace, hchild, hfield⟩ :=
        child?_of_fields hfits (shape_of_composed _ hkind) hc hleaf
      exact ⟨place.2.readAs, .field (followed_of_place _ hkind _ hplace (hfield ▸ hover)) hchild⟩
    have ofFunctions : n.kind ∈ terminatorKinds ∨ isSimple n = true →
        ∃ mode', Reads .statement n mode' c := by
      intro hkind
      obtain ⟨mode', hreads⟩ := reads_functions hfits hc hleaf hover
      exact ⟨mode', .simple hkind hreads⟩
    rcases kind_cases n with kind | kind | kind | kind | kind | kind | kind | kind
    · exact ofFunctions (.inl kind)
    · exact ⟨.statement, .block kind (.item hitem hskip)⟩
    · exact ofFields (by rw [kind]; decide)
    · exact ofFields (by rw [kind]; decide)
    · exact ofFields (by rw [kind]; decide)
    · exact ofFields (by rw [kind]; decide)
    · exact ofFields (List.mem_append_right _ kind)
    · exact ofFunctions (.inr kind)

/-! ## The whole analysis -/

variable {root x : Node}

/-- Whatever is seen in a program has been gone over, in a mode that suits it. -/
theorem done_of_sees (h : Grammatical root) (hsees : Sees root x) (hleaf : x.isLeaf = false) :
    ∃ mode : Mode, mode.suits x.kind = true ∧ mode.Done (marks root) x := by
  induction hsees with
  | refl => exact ⟨.list, by rw [h.program]; decide, false, fun _ hm => hm⟩
  | @tail n c hsees hstep ih =>
    obtain ⟨mode, hsuits, hdone⟩ := ih (Node.isLeaf_of_mem hstep.1)
    have hfits := h.fits n (Sees.mem_preorder hsees)
    obtain ⟨mode', hreads⟩ := reads_part hfits hsuits hstep.1 hleaf hstep.2
    exact ⟨mode', (hreads.suits hfits hsuits).2 hleaf, hreads.done hdone⟩

/-- The statements with marks are seen. -/
theorem sees_of_makes (hfits : ∀ x ∈ n.preorder, fits x = true)
    (hsuits : n.isLeaf = false → mode.suits n.kind = true) (hm : mode.Makes m n) :
    Sees n m.node := by
  induction hs : sizeOf n using Nat.strongRecOn generalizing n mode with
  | ind k ih =>
    obtain ⟨-, hown⟩ | ⟨mode', c, hreads, hm'⟩ := hm.reads
    · rw [hown]
      exact .refl
    · have hc := hreads.mem_children
      obtain ⟨hover, hsuits'⟩ := hreads.suits (hfits n n.mem_preorder_self)
        (hsuits (Node.isLeaf_of_mem hc))
      have hinner : ∀ x ∈ c.preorder, fits x = true := fun x hx =>
        hfits x (Node.mem_preorder_trans hx (Node.mem_preorder_child hc))
      exact .head ⟨hc, hover⟩ (ih _ (hs ▸ Node.sizeOf_lt_of_mem hc) hinner hsuits' hm' rfl)

theorem mode_of_list : ∀ kind ∈ ["program", "statement_block"], ∀ mode : Mode,
    mode.suits kind = true → mode = .list ∨ mode = .statement ∧ kind = "statement_block" := by
  intro kind hkind mode
  revert kind
  cases mode <;> decide

theorem mode_of_case : ∀ kind ∈ caseKinds, ∀ mode : Mode, mode.suits kind = true → mode = .case := by
  intro kind hkind mode
  revert kind
  cases mode <;> decide

/-- Going over a node that holds a statement list, the analysis goes over the statements of the
list. -/
theorem reads_listed (hsuits : mode.suits n.kind = true) (hs : s ∈ listed n) :
    Reads mode n .statement s := by
  obtain ⟨hlist, hskip⟩ := List.mem_filter.1 hs
  have hskip : isSkipped s = false := by simpa using hskip
  split_ifs at hlist with hkind hcase
  · obtain rfl | ⟨rfl, hblock⟩ := mode_of_list _ (List.contains_iff_mem.1 hkind) _ hsuits
    · exact .item hlist hskip
    · exact .block hblock (.item hlist hskip)
  · obtain rfl := mode_of_case _ (List.contains_iff_mem.1 hcase) _ hsuits
    exact .caseItem hlist hskip
  · cases hlist

theorem isLeaf_of_listed (hs : s ∈ listed n) : n.isLeaf = false := by
  obtain ⟨hlist, -⟩ := List.mem_filter.1 hs
  split_ifs at hlist
  · exact Node.isLeaf_of_mem (Node.mem_children_of_mem_namedChildren hlist)
  · exact Node.isLeaf_of_mem (Node.mem_children_of_mem_childrenAt hlist)
  · cases hlist

/-- A statement of a list that is seen has a mark. -/
theorem mark_of_sees (h : Grammatical root) (hsees : Sees root n) (hs : s ∈ listed n) :
    ∃ m ∈ marks root, m.node = s := by
  obtain ⟨mode, hsuits, hdone⟩ := done_of_sees h hsees (isLeaf_of_listed hs)
  obtain ⟨dead, hsub⟩ := (reads_listed hsuits hs).done hdone
  refine ⟨⟨s, dead, (statement dead s).stops⟩, hsub ?_, rfl⟩
  rw [Mode.marks, visit_marks]
  exact List.mem_append_right _ (List.mem_singleton_self _)

theorem lookup_of_mem_marks (hm : m ∈ marks root) :
    ((ControlFlow.ofProgram root).lookup m.offset).isSome = true := by
  rw [ControlFlow.ofProgram, ControlFlow.lookup_ofList, Option.isSome_map, List.find?_isSome]
  exact ⟨((m.offset : Int), m.fact), List.mem_reverse.2 (List.mem_map.2 ⟨m, hm, rfl⟩), by simp⟩

theorem mark_of_lookup {offset : Int} {fact : Fact}
    (h : (ControlFlow.ofProgram root).lookup offset = some fact) :
    ∃ m ∈ marks root, (m.offset : Int) = offset ∧ m.fact = fact := by
  rw [ControlFlow.ofProgram, ControlFlow.lookup_ofList, Option.map_eq_some_iff] at h
  obtain ⟨entry, hfind, rfl⟩ := h
  obtain ⟨m, hm, rfl⟩ := List.mem_map.1 (List.mem_reverse.1 (List.mem_of_find?_eq_some hfind))
  exact ⟨m, hm, by simpa using List.find?_some hfind, rfl⟩

/-- The facts of a program are about all statements in lists but those that are overlooked. -/
structure Covers (root : Node) : Prop where
  /-- Every statement of a statement list has a mark of its own and a fact at its offset, unless the
  list lies in a part that the analysis overlooks. -/
  listed : ∀ n ∈ root.preorder, ∀ s ∈ listed n,
    ((∃ m ∈ marks root, m.node = s) ∧ ((ControlFlow.ofProgram root).lookup s.lo).isSome = true) ∨
      ∃ p ∈ root.preorder, ∃ c ∈ p.children,
        isOverlooked p.kind c.field? = true ∧ n ∈ c.preorder
  /-- Every fact is that of a statement which lies in no such part. -/
  seen : ∀ offset fact, (ControlFlow.ofProgram root).lookup offset = some fact →
    ∃ m ∈ marks root, m.fact = fact ∧ (m.node.lo : Int) = offset ∧ Sees root m.node

/-- In a program that follows the grammar no statement of a list is left without a fact but those in
the parts that are overlooked: the parameters, keys and decorators of functions, the parameters of
`catch` clauses, and the initial values in the heads of loops over properties. -/
theorem ofProgram_covers (root : Node) (h : Grammatical root) : Covers root := by
  refine ⟨fun n hn s hs => ?_, fun offset fact hlookup => ?_⟩
  · obtain hsees | hover := sees_or_overlooked hn
    · obtain ⟨m, hm, rfl⟩ := mark_of_sees h hsees hs
      exact .inl ⟨⟨m, hm, rfl⟩, lookup_of_mem_marks hm⟩
    · exact .inr hover
  · obtain ⟨m, hm, hoffset, hfact⟩ := mark_of_lookup hlookup
    have hlist : Mode.list.Makes m root := ⟨false, hm⟩
    exact ⟨m, hm, hfact, hoffset, sees_of_makes h.fits (fun _ => by rw [h.program]; decide) hlist⟩

/-! ## A function in a parameter -/

/-- A node that is no punctuation. -/
def named (kind : String) (field : Option String) (lo length : Nat) (children : List Node) : Node :=
  .mk ⟨kind, ⟨lo, lo + length, Nat.le_add_right ..⟩, true, field⟩ children

/-- The body of the default in `function f(x = () => { return; a }) { b }`. -/
def defaultBody : Node :=
  named "statement_block" (some "body") 21 13
    [named "return_statement" none 23 7 [],
     named "expression_statement" none 31 1 [named "identifier" none 31 1 []]]

/-- The body of the function in `function f(x = () => { return; a }) { b }`. -/
def ownBody : Node :=
  named "statement_block" (some "body") 36 5
    [named "expression_statement" none 38 1 [named "identifier" none 38 1 []]]

/-- The function `function f(x = () => { return; a }) { b }`. -/
def withDefault : Node :=
  named "function_declaration" none 0 41
    [named "identifier" (some "name") 9 1 [],
     named "formal_parameters" (some "parameters") 10 25
      [named "assignment_pattern" none 11 23
        [named "identifier" (some "left") 11 1 [],
         named "arrow_function" (some "right") 15 19
          [named "formal_parameters" (some "parameters") 15 2 [], defaultBody]]],
     ownBody]

/-- A program of one statement. -/
def programOf (statement : Node) : Node := named "program" none 0 41 [statement]

theorem functions_leaf (h : n.isLeaf = true) : functions n = [] := by
  have hnone : n.children = [] := List.isEmpty_iff.1 h
  cases enters : entersBody n with
  | false => rw [functions_children enters, hnone, List.flatMap_nil]
  | true => rw [functions_noBody enters (by rw [Node.child?, hnone, List.find?_nil])]

theorem marks_withDefault : marks (programOf withDefault) =
    [⟨ownBody.children[0], false, false⟩, ⟨withDefault, false, false⟩] := by
  have hinner : functions ownBody.children[0] = [] := by
    have hleaf : functions (named "identifier" none 38 1 []) = [] := functions_leaf rfl
    rw [functions_children (by decide)]
    exact List.flatMap_eq_nil_iff.2 fun c hc => (List.mem_singleton.1 hc) ▸ hleaf
  have hbody : functions withDefault = [⟨ownBody.children[0], false, false⟩] := by
    rw [functions_body (b := ownBody) (by decide) rfl, if_pos (by decide)]
    rw [show ownBody.namedChildren = [ownBody.children[0]] from rfl, block_cons (by decide),
      visit_stops, visit_marks, statement_simple (by decide), hinner, block_nil]
    rfl
  rw [marks, show (programOf withDefault).namedChildren = [withDefault] from rfl,
    block_cons (by decide), visit_stops, visit_marks, statement_simple (by decide), hbody, block_nil]
  rfl

theorem grammatical_withDefault : Grammatical (programOf withDefault) := by
  have hall : (programOf withDefault).preorder.all fits = true := by decide
  exact ⟨rfl, List.all_eq_true.1 hall⟩

/-- The statement `a` stands in a list, in the default of a parameter, and there is no fact for
it. -/
theorem ofProgram_covers_withDefault :
    Covers (programOf withDefault) ∧ defaultBody ∈ (programOf withDefault).preorder ∧
      ∃ s ∈ listed defaultBody, s.lo = 31 ∧
        (ControlFlow.ofProgram (programOf withDefault)).lookup s.lo = none := by
  refine ⟨ofProgram_covers _ grammatical_withDefault, ?_, defaultBody.children[1], ?_, rfl, ?_⟩
  · exact List.mem_of_getElem? (i := 8) rfl
  · exact List.mem_of_getElem? (i := 1) rfl
  · rw [ControlFlow.ofProgram, marks_withDefault]
    rfl

end ScriptLint.Flow

/-
What the analysis goes over. It goes over a node in one of a few modes, and from there over some of
its parts (`Reads`). Every mark that is made going over a part is one of the node's (`Reads.done`),
and the other way round every mark of a node is its own or made going over a part
(`Mode.Makes.reads`).
-/
import ScriptLint.Proofs.Flow.Bodies

namespace ScriptLint.Flow

/-! ## Modes -/

/-- How the analysis goes over a node. -/
inductive Mode where
  | statement
  /-- For the functions in it. -/
  | functions
  /-- As a list of statements, one after the other. -/
  | list
  /-- As statements of which one is taken. -/
  | alternatives
  /-- For the statement in its body. -/
  | clause
  | cases
  | case
  deriving DecidableEq

/-- The marks that the analysis makes going over a node. -/
def Mode.marks : Mode → Bool → Node → List Mark
  | .statement, dead, n => (visit dead n).marks
  | .functions, _, n => Flow.functions n
  | .list, dead, n => (block dead n.namedChildren).marks
  | .alternatives, dead, n => (Flow.alternatives dead n.namedChildren).marks
  | .clause, dead, n => (partAt dead n "body").marks
  | .cases, dead, n => Flow.cases dead n.namedChildren
  | .case, dead, n => functionsAt n ["value"] ++ (block dead (n.childrenAt "body")).marks

/-- The fields of a statement whose parts the analysis goes over, with the modes. -/
def followed : String → List (String × Mode)
  | "if_statement" =>
    [("condition", .functions), ("consequence", .statement), ("alternative", .alternatives)]
  | "try_statement" => [("body", .statement), ("handler", .clause), ("finalizer", .clause)]
  | "switch_statement" => [("value", .functions), ("body", .cases)]
  | "do_statement" => [("body", .statement), ("condition", .functions)]
  | kind =>
    if openKinds.contains kind then
      headFields.map (·, .functions) ++ [("body", .statement)]
    else []

/-- Statements that are made of parts under fields. -/
def composedKinds : List String :=
  ["if_statement", "try_statement", "switch_statement", "do_statement"] ++ openKinds

theorem composed_of_followed {kind : String} {entry : String × Mode}
    (h : entry ∈ followed kind) : kind ∈ composedKinds := by
  unfold followed at h
  split at h
  · decide
  · decide
  · decide
  · decide
  · split at h
    · next hopen => exact List.mem_append_right _ (List.contains_iff_mem.1 hopen)
    · cases h

/-- Going over a node in a mode, the analysis goes over a part of it in a mode. -/
inductive Reads : Mode → Node → Mode → Node → Prop where
  | item {n s} (h : s ∈ n.namedChildren) (hs : isSkipped s = false) : Reads .list n .statement s
  | choice {n s} (h : s ∈ n.namedChildren) (hs : isSkipped s = false) :
      Reads .alternatives n .statement s
  | clauseBody {n s} (h : n.child? "body" = some s) : Reads .clause n .statement s
  | case {n k} (h : k ∈ n.namedChildren) (hk : isSkipped k = false) : Reads .cases n .case k
  | caseValue {n e} (h : n.child? "value" = some e) : Reads .case n .functions e
  | caseItem {n s} (h : s ∈ n.childrenAt "body") (hs : isSkipped s = false) :
      Reads .case n .statement s
  | inner {n c} (enters : entersBody n = false) (h : c ∈ n.children) : Reads .functions n .functions c
  | bodyList {n b} (enters : entersBody n = true) (h : n.child? "body" = some b)
      (kind : b.kind = "statement_block") : Reads .functions n .list b
  | bodyExpression {n b} (enters : entersBody n = true) (h : n.child? "body" = some b)
      (kind : b.kind ≠ "statement_block") : Reads .functions n .functions b
  | simple {n mode c} (kind : n.kind ∈ terminatorKinds ∨ isSimple n = true)
      (h : Reads .functions n mode c) : Reads .statement n mode c
  | block {n mode c} (kind : n.kind = "statement_block") (h : Reads .list n mode c) :
      Reads .statement n mode c
  | field {n field mode c} (hfield : (field, mode) ∈ followed n.kind)
      (h : n.child? field = some c) : Reads .statement n mode c

variable {m : Mark} {ms : List Mark} {dead : Bool} {n c s : Node} {ns : List Node}
  {mode mode' : Mode}

theorem Reads.mem_children (h : Reads mode n mode' c) : c ∈ n.children := by
  induction h with
  | item h _ | choice h _ | case h _ => exact Node.mem_children_of_mem_namedChildren h
  | caseItem h _ => exact Node.mem_children_of_mem_childrenAt h
  | clauseBody h | caseValue h | bodyList _ h _ | bodyExpression _ h _ | field _ h =>
    exact Node.mem_children_of_child? h
  | inner _ h => exact h
  | simple _ _ ih | block _ _ ih => exact ih

/-! ## Marks of parts -/

theorem partAt_marks (dead : Bool) (n : Node) (field : String) : (partAt dead n field).marks =
    (n.child? field).toList.flatMap (Mode.statement.marks dead) := by
  cases hs : n.child? field with
  | none => simp [partAt_none hs]
  | some s => simp [partAt_some hs, Mode.marks]

theorem visitClause_marks (dead stops : Bool) (n : Node) (field : String) :
    ((visitClause dead n field).getD ⟨stops, []⟩).marks =
      (n.child? field).toList.flatMap (Mode.clause.marks dead) := by
  cases hk : n.child? field with
  | none => simp [visitClause_none hk]
  | some k => simp [visitClause_some hk, Mode.marks]

/-- A statement that is made of parts has the marks of its parts, one after the other. -/
theorem statement_marks_eq (h : n.kind ∈ composedKinds) : (statement dead n).marks =
    (followed n.kind).flatMap fun entry =>
      (n.child? entry.1).toList.flatMap (entry.2.marks dead) := by
  have hsearch : Mode.functions.marks dead = functions := rfl
  simp only [composedKinds, List.mem_append, List.mem_cons, List.not_mem_nil, or_false] at h
  obtain (kind | kind | kind | kind) | kind := h
  · have hfollowed : followed n.kind = [("condition", .functions), ("consequence", .statement),
        ("alternative", .alternatives)] := by rw [kind]; rfl
    rw [hfollowed]
    cases halt : n.child? "alternative" with
    | none => simp [statement_if kind halt, functionsAt_eq, partAt_marks, hsearch, halt]
    | some e =>
      simp [statement_if_else kind halt, functionsAt_eq, partAt_marks, hsearch, Mode.marks, halt]
  · have hfollowed : followed n.kind =
        [("body", .statement), ("handler", .clause), ("finalizer", .clause)] := by rw [kind]; rfl
    rw [hfollowed, statement_try kind]
    simp [handlerOf, finalizerOf, visitClause_marks, partAt_marks]
  · have hfollowed : followed n.kind = [("value", .functions), ("body", .cases)] := by
      rw [kind]; rfl
    rw [hfollowed]
    cases hbody : n.child? "body" with
    | none => simp [statement_switch_none kind hbody, functionsAt_eq, hsearch, hbody]
    | some b => simp [statement_switch kind hbody, functionsAt_eq, hsearch, Mode.marks, hbody]
  · have hfollowed : followed n.kind = [("body", .statement), ("condition", .functions)] := by
      rw [kind]; rfl
    rw [hfollowed, statement_do kind]
    simp [functionsAt_eq, partAt_marks, hsearch]
  · have hfollowed : followed n.kind =
        headFields.map (·, .functions) ++ [("body", .statement)] := by
      revert kind
      generalize n.kind = kind
      revert kind
      decide
    rw [hfollowed, statement_open kind]
    simp [functionsAt_eq, partAt_marks, hsearch, List.flatMap_map]

/-- The marks of such a statement are those of its parts. -/
theorem mem_statement_iff (h : n.kind ∈ composedKinds) : m ∈ (statement dead n).marks ↔
    ∃ entry ∈ followed n.kind, ∃ c, n.child? entry.1 = some c ∧ m ∈ entry.2.marks dead c := by
  simp [statement_marks_eq h]

/-- A list has all marks of each of its statements, analysed as dead code or not. -/
theorem visit_subset_block (dead : Bool) (hs : s ∈ ns) (hskip : isSkipped s = false) :
    ∃ dead', (visit dead' s).marks ⊆ (block dead ns).marks := by
  induction ns generalizing dead with
  | nil => cases hs
  | cons n rest ih =>
    cases hn : isSkipped n with
    | true =>
      obtain rfl | hrest := List.mem_cons.1 hs
      · simp [hn] at hskip
      · rw [block_skipped hn]
        exact ih dead hrest
    | false =>
      rw [block_cons hn]
      obtain rfl | hrest := List.mem_cons.1 hs
      · exact ⟨dead, List.subset_append_left _ _⟩
      · obtain ⟨dead', hsub⟩ := ih (dead || (visit dead n).stops) hrest
        exact ⟨dead', List.Subset.trans hsub (List.subset_append_right _ _)⟩

/-! ## Going over a tree -/

/-- The marks of a node in a mode are all among some marks. -/
def Mode.Done (ms : List Mark) (mode : Mode) (n : Node) : Prop := ∃ dead, mode.marks dead n ⊆ ms

/-- What the analysis goes over from a node whose marks are made has its marks made. -/
theorem Reads.done (h : Reads mode n mode' c) (hdone : mode.Done ms n) : mode'.Done ms c := by
  induction h with
  | item h hs =>
    obtain ⟨dead, hsub⟩ := hdone
    obtain ⟨dead', hvisit⟩ := visit_subset_block dead h hs
    exact ⟨dead', List.Subset.trans hvisit hsub⟩
  | choice h hs =>
    obtain ⟨dead, hsub⟩ := hdone
    exact ⟨dead, fun m hm => hsub (mem_alternatives_iff.2 ⟨_, h, hs, hm⟩)⟩
  | clauseBody h =>
    obtain ⟨dead, hsub⟩ := hdone
    exact ⟨dead, fun m hm => hsub (mem_partAt_iff.2 ⟨_, h, hm⟩)⟩
  | case h hk =>
    obtain ⟨dead, hsub⟩ := hdone
    exact ⟨dead, fun m hm => hsub (mem_cases_iff.2 ⟨_, h, hk, List.mem_append.1 hm⟩)⟩
  | caseValue h =>
    obtain ⟨dead, hsub⟩ := hdone
    refine ⟨dead, fun m hm => hsub (List.mem_append_left _ ?_)⟩
    exact mem_functionsAt_iff.2 ⟨"value", List.mem_singleton_self _, _, h, hm⟩
  | caseItem h hs =>
    obtain ⟨dead, hsub⟩ := hdone
    obtain ⟨dead', hvisit⟩ := visit_subset_block dead h hs
    exact ⟨dead', fun m hm => hsub (List.mem_append_right _ (hvisit hm))⟩
  | inner enters h =>
    obtain ⟨dead, hsub⟩ := hdone
    refine ⟨dead, fun m hm => hsub ?_⟩
    rw [Mode.marks, functions_children enters]
    exact List.mem_flatMap.2 ⟨_, h, hm⟩
  | bodyList enters h kind =>
    obtain ⟨dead, hsub⟩ := hdone
    refine ⟨false, fun m hm => hsub ?_⟩
    rw [Mode.marks, functions_body enters h, if_pos (by simp [kind])]
    exact hm
  | bodyExpression enters h kind =>
    obtain ⟨dead, hsub⟩ := hdone
    refine ⟨dead, fun m hm => hsub ?_⟩
    rw [Mode.marks, functions_body enters h, if_neg (by simpa using kind)]
    exact hm
  | simple kind h ih =>
    obtain ⟨dead, hsub⟩ := hdone
    refine ih ⟨dead, fun m hm => hsub ?_⟩
    rw [Mode.marks, visit_marks]
    obtain kind | kind := kind
    · rw [statement_terminator kind]
      exact List.mem_append_left _ hm
    · rw [statement_simple kind]
      exact List.mem_append_left _ hm
  | block kind h ih =>
    obtain ⟨dead, hsub⟩ := hdone
    refine ih ⟨dead, fun m hm => hsub ?_⟩
    rw [Mode.marks, visit_marks, statement_block kind]
    exact List.mem_append_left _ hm
  | field hfield h =>
    obtain ⟨dead, hsub⟩ := hdone
    refine ⟨dead, fun m hm => hsub ?_⟩
    rw [Mode.marks, visit_marks]
    exact List.mem_append_left _
      ((mem_statement_iff (composed_of_followed hfield)).2 ⟨_, hfield, _, h, hm⟩)

/-- Going over a node in a mode, as dead code or not, the analysis makes a mark. -/
def Mode.Makes (m : Mark) (mode : Mode) (n : Node) : Prop := ∃ dead, m ∈ mode.marks dead n

theorem reads_of_mem_functions (h : m ∈ functions n) :
    ∃ mode' c, Reads .functions n mode' c ∧ mode'.Makes m c := by
  cases henters : entersBody n with
  | false =>
    rw [functions_children henters] at h
    obtain ⟨c, hc, hm⟩ := List.mem_flatMap.1 h
    exact ⟨.functions, c, .inner henters hc, false, hm⟩
  | true =>
    cases hbody : n.child? "body" with
    | none =>
      rw [functions_noBody henters hbody] at h
      cases h
    | some b =>
      rw [functions_body henters hbody] at h
      by_cases kind : b.kind = "statement_block"
      · rw [if_pos (by simp [kind])] at h
        exact ⟨.list, b, .bodyList henters hbody kind, false, h⟩
      · rw [if_neg (by simpa using kind)] at h
        exact ⟨.functions, b, .bodyExpression henters hbody kind, false, h⟩

theorem reads_of_mem_list (h : m ∈ (block dead n.namedChildren).marks) :
    ∃ mode' c, Reads .list n mode' c ∧ mode'.Makes m c := by
  obtain ⟨s, hs, hskip, dead', hamong⟩ := mem_block h
  exact ⟨.statement, s, .item hs hskip, dead', hamong.mem⟩

theorem reads_of_mem_fields (kind : n.kind ∈ composedKinds) (h : m ∈ (statement dead n).marks) :
    ∃ mode' c, Reads .statement n mode' c ∧ mode'.Makes m c := by
  obtain ⟨⟨field, mode'⟩, hfield, c, hc, hm⟩ := (mem_statement_iff kind).1 h
  exact ⟨mode', c, .field hfield hc, dead, hm⟩

theorem reads_of_mem_statement (h : m ∈ (statement dead n).marks) :
    ∃ mode' c, Reads .statement n mode' c ∧ mode'.Makes m c := by
  rcases kind_cases n with kind | kind | kind | kind | kind | kind | kind | kind
  · rw [statement_terminator kind] at h
    obtain ⟨mode', c, hreads, hm⟩ := reads_of_mem_functions h
    exact ⟨mode', c, .simple (.inl kind) hreads, hm⟩
  · rw [statement_block kind] at h
    obtain ⟨mode', c, hreads, hm⟩ := reads_of_mem_list h
    exact ⟨mode', c, .block kind hreads, hm⟩
  · exact reads_of_mem_fields (by rw [kind]; decide) h
  · exact reads_of_mem_fields (by rw [kind]; decide) h
  · exact reads_of_mem_fields (by rw [kind]; decide) h
  · exact reads_of_mem_fields (by rw [kind]; decide) h
  · exact reads_of_mem_fields (List.mem_append_right _ kind) h
  · rw [statement_simple kind] at h
    obtain ⟨mode', c, hreads, hm⟩ := reads_of_mem_functions h
    exact ⟨mode', c, .simple (.inr kind) hreads, hm⟩

/-- A mark that is made going over a node is that of the node itself, or is made going over a
part. -/
theorem Mode.Makes.reads (h : mode.Makes m n) :
    (mode = .statement ∧ m.node = n) ∨ ∃ mode' c, Reads mode n mode' c ∧ mode'.Makes m c := by
  obtain ⟨dead, h⟩ := h
  cases mode with
  | functions => exact .inr (reads_of_mem_functions h)
  | list => exact .inr (reads_of_mem_list h)
  | alternatives =>
    obtain ⟨s, hs, hskip, hm⟩ := mem_alternatives_iff.1 h
    exact .inr ⟨.statement, s, .choice hs hskip, dead, hm⟩
  | clause =>
    obtain ⟨s, hs, hm⟩ := mem_partAt_iff.1 h
    exact .inr ⟨.statement, s, .clauseBody hs, dead, hm⟩
  | cases =>
    obtain ⟨k, hk, hskip, hm⟩ := mem_cases_iff.1 h
    exact .inr ⟨.case, k, .case hk hskip, dead, List.mem_append.2 hm⟩
  | case =>
    obtain hvalue | hbody := List.mem_append.1 h
    · obtain ⟨field, hfield, e, he, hm⟩ := mem_functionsAt_iff.1 hvalue
      obtain rfl := List.mem_singleton.1 hfield
      exact .inr ⟨.functions, e, .caseValue he, dead, hm⟩
    · obtain ⟨s, hs, hskip, dead', hamong⟩ := mem_block hbody
      exact .inr ⟨.statement, s, .caseItem hs hskip, dead', hamong.mem⟩
  | statement =>
    rw [Mode.marks, visit_marks] at h
    obtain hinner | hown := List.mem_append.1 h
    · exact .inr (reads_of_mem_statement hinner)
    · rw [List.mem_singleton.1 hown]
      exact .inl ⟨rfl, rfl⟩

end ScriptLint.Flow

/-
The grammar of statements, as far as the analysis relies on it: where statements, expressions and
clauses may stand in a tree without errors. Leaves may stand anywhere, since there is nothing in
them to analyse. Against this grammar it can be said which places the analysis overlooks.
-/
import ScriptLint.Proofs.Flow.Bodies
import ScriptLint.Proofs.Flow.Completion

namespace ScriptLint

/-- Whether a node has no parts. -/
def Node.isLeaf (n : Node) : Bool := n.children.isEmpty

theorem Node.isLeaf_of_mem {c n : Node} (h : c ∈ n.children) : n.isLeaf = false := by
  rw [isLeaf, List.isEmpty_eq_false_iff]
  exact List.ne_nil_of_mem h

namespace Flow

/-! ## Kinds of nodes -/

/-- Nodes with a body that is entered on its own. -/
def bodyKinds : List String := functionKinds ++ ["class_static_block"]

/-- Nodes that are no statements although statements stand in them. -/
def clauseKinds : List String :=
  ["program", "else_clause", "catch_clause", "finally_clause", "switch_body"] ++ caseKinds

/-- What may stand under a field of a statement or a clause. -/
inductive Place where
  | statement
  | expression
  | alternative
  | handler
  | finalizer
  | switchBody
  deriving DecidableEq

/-- The fields of statements and clauses that are made of parts, and what stands under them. -/
def placesOf : String → List (String × Place)
  | "if_statement" =>
    [("condition", .expression), ("consequence", .statement), ("alternative", .alternative)]
  | "for_statement" =>
    [("initializer", .expression), ("condition", .expression), ("increment", .expression),
     ("body", .statement)]
  | "for_in_statement" =>
    [("left", .expression), ("value", .expression), ("right", .expression), ("body", .statement)]
  | "while_statement" => [("condition", .expression), ("body", .statement)]
  | "do_statement" => [("body", .statement), ("condition", .expression)]
  | "with_statement" => [("object", .expression), ("body", .statement)]
  | "labeled_statement" => [("body", .statement)]
  | "try_statement" => [("body", .statement), ("handler", .handler), ("finalizer", .finalizer)]
  | "switch_statement" => [("value", .expression), ("body", .switchBody)]
  | "catch_clause" => [("parameter", .expression), ("body", .statement)]
  | "finally_clause" => [("body", .statement)]
  | _ => []

/-- How the parts of a node are arranged. -/
inductive Shape where
  /-- A list of statements. -/
  | statements
  /-- One part under each of some fields. -/
  | fields
  | cases
  | case
  /-- A body that is entered on its own, among expressions. -/
  | body
  /-- Expressions. -/
  | plain
  deriving DecidableEq

/-- The arrangement of the parts of nodes of a kind. -/
def shape (kind : String) : Shape :=
  if bodyKinds.contains kind then .body
  else if ["program", "statement_block", "else_clause"].contains kind then .statements
  else if kind == "switch_body" then .cases
  else if caseKinds.contains kind then .case
  else if (placesOf kind).isEmpty then .plain
  else .fields

/-- Whether nodes of a kind may stand where a statement is expected. -/
def isStatementKind (kind : String) : Bool := !clauseKinds.contains kind

/-- Whether nodes of a kind may stand where an expression is expected: no statements stand in them
but in bodies that are entered on their own. -/
def isExpressionKind (kind : String) : Bool :=
  match shape kind with
  | .plain | .body => true
  | _ => false

/-- Whether a node of a kind may stand at a place. -/
def Place.holds : Place → String → Bool
  | .statement, kind => isStatementKind kind
  | .expression, kind => isExpressionKind kind
  | .alternative, kind => kind == "else_clause"
  | .handler, kind => kind == "catch_clause"
  | .finalizer, kind => kind == "finally_clause"
  | .switchBody, kind => kind == "switch_body"

/-! ## Trees -/

/-- Whether a node may stand under a field, if any, of a node of a kind. -/
def mayStand (kind : String) (field : Option String) (part : String) : Bool :=
  match shape kind with
  | .statements => isStatementKind part
  | .fields => (placesOf kind).any fun (f, place) => field == some f && place.holds part
  | .cases => caseKinds.contains part
  | .case => (field == some "value" && isExpressionKind part)
      || (field == some "body" && isStatementKind part)
  | .body => (field == some "body" && part == "statement_block") || isExpressionKind part
  | .plain => isExpressionKind part

/-- The fields of a node of a kind under which only the first part is more than a leaf. -/
def singleFields (kind : String) : List String :=
  match shape kind with
  | .fields => (placesOf kind).map (·.1)
  | .case => ["value"]
  | .body => ["body"]
  | _ => []

/-- Whether the parts of a node are where the grammar has them: punctuation and comments are leaves,
and what is no leaf may stand where it does. -/
def fits (n : Node) : Bool :=
  (n.children.all fun c =>
    c.isLeaf || (c.isNamed && !isSkipped c && mayStand n.kind c.field? c.kind))
  && (singleFields n.kind).all fun field => ((n.childrenAt field).drop 1).all Node.isLeaf

/-- A program in which every node has its parts where the grammar has them. -/
structure Grammatical (root : Node) : Prop where
  program : root.kind = "program"
  fits : ∀ n ∈ root.preorder, Flow.fits n = true

section Fits

variable {n c : Node} (h : fits n = true) (hc : c ∈ n.children) (hleaf : c.isLeaf = false)

include h hc hleaf

theorem part_of_fits : c.isNamed = true ∧ isSkipped c = false ∧
    mayStand n.kind c.field? c.kind = true := by
  rw [fits, Bool.and_eq_true, List.all_eq_true] at h
  simpa [hleaf, and_assoc] using h.1 c hc

theorem child?_of_fits {field : String} (hsingle : field ∈ singleFields n.kind)
    (hfield : c.field? = some field) : n.child? field = some c := by
  rw [fits, Bool.and_eq_true, List.all_eq_true, List.all_eq_true] at h
  have hmem : c ∈ n.childrenAt field := List.mem_filter.2 ⟨hc, by simp [hfield]⟩
  have hfirst : n.child? field = (n.childrenAt field).head? := List.head?_filter.symm
  have hrest := h.2 field hsingle
  cases hall : n.childrenAt field with
  | nil => simp [hall] at hmem
  | cons first rest =>
    rw [hfirst, hall, List.head?_cons]
    rw [hall, List.mem_cons] at hmem
    obtain rfl | hlater := hmem
    · rfl
    · rw [hall, List.drop_one, List.tail_cons, List.all_eq_true] at hrest
      rw [hrest c hlater] at hleaf
      cases hleaf

end Fits

/-! ## What is overlooked -/

/-- Whether the analysis passes over the parts under a field of nodes of a kind: of a function over
everything but its body, of a `catch` over its parameter, and of a loop over properties over the
initial value of its variable. -/
def isOverlooked (kind : String) (field : Option String) : Bool :=
  (bodyKinds.contains kind && field != some "body")
  || (kind == "catch_clause" && field == some "parameter")
  || (kind == "for_in_statement" && field == some "value")

/-- A node inside another, not in a part of a node that is overlooked. -/
def Sees : Node → Node → Prop :=
  Relation.ReflTransGen fun n c => c ∈ n.children ∧ isOverlooked n.kind c.field? = false

theorem Sees.mem_preorder {n x : Node} (h : Sees n x) : x ∈ n.preorder := by
  induction h with
  | refl => exact n.mem_preorder_self
  | tail _ hstep ih => exact Node.mem_preorder_trans (Node.mem_preorder_child hstep.1) ih

/-- A node inside another is seen from it unless it lies in a part that is overlooked. -/
theorem sees_or_overlooked {n x : Node} (h : x ∈ n.preorder) :
    Sees n x ∨ ∃ p ∈ n.preorder, ∃ c ∈ p.children,
      isOverlooked p.kind c.field? = true ∧ x ∈ c.preorder := by
  induction hs : sizeOf n using Nat.strongRecOn generalizing n with
  | ind k ih =>
    rw [Node.preorder_eq, List.mem_cons, List.mem_flatMap] at h
    obtain rfl | ⟨c, hc, hx⟩ := h
    · exact .inl .refl
    · cases hover : isOverlooked n.kind c.field? with
      | true => exact .inr ⟨n, n.mem_preorder_self, c, hc, hover, hx⟩
      | false =>
        obtain hsees | ⟨p, hp, hfurther⟩ := ih _ (hs ▸ Node.sizeOf_lt_of_mem hc) hx rfl
        · exact .inl (.head ⟨hc, hover⟩ hsees)
        · exact .inr ⟨p, Node.mem_preorder_trans hp (Node.mem_preorder_child hc), hfurther⟩

/-- The statements of the list that a node holds, comments left out: those of a program, a block
or a case. -/
def listed (n : Node) : List Node :=
  (if ["program", "statement_block"].contains n.kind then n.namedChildren
    else if caseKinds.contains n.kind then n.childrenAt "body"
    else []).filter fun s => !isSkipped s

end Flow

end ScriptLint

/-
Statement-level control flow. `visit` records for a statement whether control reaches it and
whether control can leave it at its end; `block` goes through a statement list, where everything
after a statement that stops is unreachable; `functions` finds the functions inside expressions
and analyses their bodies from a fresh start.
-/
import ScriptLint.Flow.Fact
import ScriptLint.Tree.Basic

namespace ScriptLint

namespace Flow

/-- What the analysis found out about a statement. -/
structure Mark where
  node : Node
  unreachable : Bool
  stops : Bool
  deriving Repr

/-- The offset at which a mark is filed. -/
def Mark.offset (m : Mark) : Nat := m.node.lo

/-- What a mark says as a fact. -/
def Mark.fact (m : Mark) : Fact := .ofBools m.unreachable m.stops

/-- The result of analysing a statement or a list: whether control never leaves it at its end, and
the marks in the order in which they were made. -/
structure Outcome where
  stops : Bool
  marks : List Mark
  deriving Repr

/-! ## Kinds of statements -/

/-- Statements that always leave their list. -/
def terminatorKinds : List String :=
  ["return_statement", "throw_statement", "break_statement", "continue_statement"]

/-- Statements whose body may be skipped or left by a jump, so that they never stop. -/
def openKinds : List String :=
  ["for_statement", "for_in_statement", "while_statement", "labeled_statement", "with_statement"]

/-- The fields of such a statement that hold expressions. -/
def headFields : List String :=
  ["initializer", "condition", "increment", "left", "right", "object"]

/-- Nodes that may stand between statements without being one. -/
def skippedKinds : List String := ["comment", "hashbang_comment"]

/-- Jumps that may leave a loop early. -/
def loopExitKinds : List String := ["break_statement", "continue_statement"]

def isSkipped (n : Node) : Bool := skippedKinds.contains n.kind

/-- Whether a node has a body that is entered on its own. -/
def entersBody (n : Node) : Bool := n.isFunction || n.kind == "class_static_block"

mutual

/-- Whether a node holds a `break` or `continue` outside the functions nested in it. -/
def exitsLoop : Node → Bool
  | .mk label children =>
    loopExitKinds.contains label.kind
      || (!functionKinds.contains label.kind && anyExitsLoop children)

/-- Whether one of several nodes does. -/
def anyExitsLoop : List Node → Bool
  | [] => false
  | n :: rest => exitsLoop n || anyExitsLoop rest

end

/-! ## The analysis -/

theorem sizeOf_filter_le (p : Node → Bool) (ns : List Node) :
    sizeOf (ns.filter p) ≤ sizeOf ns := by
  induction ns with
  | nil => simp
  | cons n rest ih =>
    by_cases h : p n = true
    · simp [h]
      omega
    · simp [h]
      omega

theorem sizeOf_children_lt (n : Node) : sizeOf n.children < sizeOf n := by
  cases n with
  | mk label children =>
    simp only [Node.children, Node.mk.sizeOf_spec]
    omega

theorem sizeOf_namedChildren_lt (n : Node) : sizeOf n.namedChildren < sizeOf n :=
  Nat.lt_of_le_of_lt (sizeOf_filter_le _ _) (sizeOf_children_lt n)

theorem sizeOf_childrenAt_lt (n : Node) (field : String) : sizeOf (n.childrenAt field) < sizeOf n :=
  Nat.lt_of_le_of_lt (sizeOf_filter_le _ _) (sizeOf_children_lt n)

theorem sizeOf_child?_lt {n c : Node} {field : String} (h : n.child? field = some c) :
    sizeOf c < sizeOf n := Node.sizeOf_lt_of_mem (Node.mem_children_of_child? h)

mutual

/-- The marks of the functions nested in a node, each analysed from a reachable start. -/
def functions (n : Node) : List Mark :=
  if entersBody n then
    match _h : n.child? "body" with
    | none => []
    | some body =>
      if body.kind == "statement_block" then (block false body.namedChildren).marks
      else functions body
  else functionsAll n.children
termination_by (sizeOf n, 0)
decreasing_by
  · exact .left _ _ (Nat.lt_trans (sizeOf_namedChildren_lt body) (sizeOf_child?_lt _h))
  · exact .left _ _ (sizeOf_child?_lt _h)
  · exact .left _ _ (sizeOf_children_lt n)

/-- The marks of the functions nested in several nodes. -/
def functionsAll (ns : List Node) : List Mark :=
  match ns with
  | [] => []
  | n :: rest => functions n ++ functionsAll rest
termination_by (sizeOf ns, 0)
decreasing_by
  all_goals
    simp_wf
    apply Prod.Lex.left
    omega

/-- The marks of the functions under some fields of a node. -/
def functionsAt (n : Node) (fields : List String) : List Mark :=
  match fields with
  | [] => []
  | field :: rest =>
    (match _h : n.child? field with
      | none => []
      | some c => functions c)
      ++ functionsAt n rest
termination_by (sizeOf n, fields.length)
decreasing_by
  · exact .left _ _ (sizeOf_child?_lt _h)
  · apply Prod.Lex.right
    simp

/-- A statement list, after which nothing follows in `dead` code or in code that a statement of the
list stops. -/
def block (dead : Bool) (ns : List Node) : Outcome :=
  match ns with
  | [] => ⟨false, []⟩
  | n :: rest =>
    if isSkipped n then block dead rest
    else
      let first := visit dead n
      let others := block (dead || first.stops) rest
      ⟨first.stops || others.stops, first.marks ++ others.marks⟩
termination_by (sizeOf ns, 0)
decreasing_by
  all_goals
    simp_wf
    apply Prod.Lex.left
    omega

/-- Statements of which one is taken: all start alike, and one that stops is enough. -/
def alternatives (dead : Bool) (ns : List Node) : Outcome :=
  match ns with
  | [] => ⟨false, []⟩
  | n :: rest =>
    if isSkipped n then alternatives dead rest
    else
      let first := visit dead n
      let others := alternatives dead rest
      ⟨first.stops || others.stops, first.marks ++ others.marks⟩
termination_by (sizeOf ns, 0)
decreasing_by
  all_goals
    simp_wf
    apply Prod.Lex.left
    omega

/-- The cases of a `switch`. -/
def cases (dead : Bool) (ns : List Node) : List Mark :=
  match ns with
  | [] => []
  | n :: rest =>
    if isSkipped n then cases dead rest
    else
      functionsAt n ["value"] ++ (block dead (n.childrenAt "body")).marks ++ cases dead rest
termination_by (sizeOf ns, 0)
decreasing_by
  · simp_wf
    apply Prod.Lex.left
    omega
  · simp_wf
    apply Prod.Lex.left
    omega
  · have := sizeOf_childrenAt_lt n "body"
    simp_wf
    apply Prod.Lex.left
    omega
  · simp_wf
    apply Prod.Lex.left
    omega

/-- The statement under a field of a node, if there is one. -/
def visitAt (dead : Bool) (n : Node) (field : String) : Option Outcome :=
  match _h : n.child? field with
  | none => none
  | some c => some (visit dead c)
termination_by (sizeOf n, 1)
decreasing_by exact .left _ _ (sizeOf_child?_lt _h)

/-- The body of a clause under a field of a node. -/
def visitClause (dead : Bool) (n : Node) (field : String) : Option Outcome :=
  match _h : n.child? field with
  | none => none
  | some c => some ((visitAt dead c "body").getD ⟨false, []⟩)
termination_by (sizeOf n, 1)
decreasing_by exact .left _ _ (sizeOf_child?_lt _h)

/-- A statement without its own mark. -/
def statement (dead : Bool) (n : Node) : Outcome :=
  if terminatorKinds.contains n.kind then ⟨true, functions n⟩
  else if n.kind == "statement_block" then block dead n.namedChildren
  else if n.kind == "if_statement" then
    let condition := functionsAt n ["condition"]
    let consequence := (visitAt dead n "consequence").getD ⟨false, []⟩
    match _h : n.child? "alternative" with
    | none => ⟨false, condition ++ consequence.marks⟩
    | some alternative =>
      let otherwise := alternatives dead alternative.namedChildren
      ⟨consequence.stops && otherwise.stops,
        condition ++ consequence.marks ++ otherwise.marks⟩
  else if n.kind == "try_statement" then
    let body := (visitAt dead n "body").getD ⟨false, []⟩
    let handler := (visitClause dead n "handler").getD ⟨true, []⟩
    let finalizer := (visitClause dead n "finalizer").getD ⟨false, []⟩
    ⟨finalizer.stops || (body.stops && handler.stops),
      body.marks ++ handler.marks ++ finalizer.marks⟩
  else if n.kind == "switch_statement" then
    ⟨false, functionsAt n ["value"] ++
      (match _h : n.child? "body" with
        | none => []
        | some body => cases dead body.namedChildren)⟩
  else if n.kind == "do_statement" then
    let body := (visitAt dead n "body").getD ⟨false, []⟩
    let exits := (n.child? "body").any exitsLoop
    ⟨body.stops && !exits, body.marks ++ functionsAt n ["condition"]⟩
  else if openKinds.contains n.kind then
    ⟨false, functionsAt n headFields ++ ((visitAt dead n "body").getD ⟨false, []⟩).marks⟩
  else ⟨false, functions n⟩
termination_by (sizeOf n, 10)
decreasing_by
  all_goals first
    | exact .left _ _ (sizeOf_namedChildren_lt n)
    | exact .left _ _ (Nat.lt_trans (sizeOf_namedChildren_lt _) (sizeOf_child?_lt _h))
    | exact .right _ (by simp [headFields])

/-- A statement with its own mark, made last so that it wins over a nested statement at the same
offset. -/
def visit (dead : Bool) (n : Node) : Outcome :=
  let inner := statement dead n
  ⟨inner.stops, inner.marks ++ [⟨n, dead, inner.stops⟩]⟩
termination_by (sizeOf n, 11)
decreasing_by exact .right _ (by simp)

end

/-- The marks of a whole program. -/
def marks (root : Node) : List Mark := (block false root.namedChildren).marks

end Flow

/-- The facts about a whole program. -/
def ControlFlow.ofProgram (root : Node) : ControlFlow :=
  ofList ((Flow.marks root).map fun m => ((m.offset : Int), m.fact))

end ScriptLint

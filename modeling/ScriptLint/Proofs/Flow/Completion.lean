/-
How the statements of a script run. Every condition, every choice of a `switch` and every possible
error is left open, so a run is one of many: `Runs` says in which ways a statement or a list of
statements can complete, and which statements are reached on the way. A run may be cut off at any
point, so that the statements reached by runs that never end are counted too. Functions and static
blocks of classes are entered on their own; to the statement around them they are expressions.
-/
import ScriptLint.Flow.Analysis

namespace ScriptLint.Flow

/-! ## Completions -/

/-- How a run ends. A jump has the label of the statement that it is aimed at, if it names one;
`unfinished` is a run that has been cut off. -/
inductive Completion where
  | normal
  | returned
  | thrown
  | broke (label : Option String)
  | continued (label : Option String)
  | unfinished
  deriving DecidableEq, Repr

namespace Completion

/-- Whether a loop with some labels goes on to its next round after its body. -/
def goesOn (labels : List String) : Completion → Bool
  | .normal | .continued none => true
  | .continued (some label) => labels.contains label
  | _ => false

/-- Whether the body of a loop with some labels has left the loop. -/
def leaves (labels : List String) : Completion → Bool
  | .broke none => true
  | .broke (some label) => labels.contains label
  | _ => false

/-- Whether a completion is a jump. -/
def isJump : Completion → Bool
  | .broke _ | .continued _ => true
  | _ => false

/-- The completion of a statement that takes up a `break`. -/
def takeBreak (label : Option String) (c : Completion) : Completion :=
  if c = .broke label then .normal else c

/-- The completion of a statement whose finalizer has run: that of the finalizer unless it is
normal. -/
def override (c finalizer : Completion) : Completion :=
  if finalizer = .normal then c else finalizer

end Completion

/-! ## Kinds of nodes -/

/-- Nodes that stand among statements and are none. -/
def triviaKinds : List String := ["comment", "html_comment", "hash_bang_line", "hashbang_comment"]

def isTrivia (n : Node) : Bool := triviaKinds.contains n.kind

/-- Loops that test before each round. -/
def loopKinds : List String := ["for_statement", "for_in_statement", "while_statement"]

/-- Statements with statements in them. -/
def nestingKinds : List String :=
  ["statement_block", "if_statement", "switch_statement", "do_statement", "labeled_statement",
   "with_statement", "try_statement"] ++ loopKinds

/-- Statements that evaluate no expression before anything else is run. -/
def headlessKinds : List String :=
  ["break_statement", "continue_statement", "statement_block", "do_statement", "labeled_statement",
   "try_statement"]

/-- The clauses of a `switch`. -/
def caseKinds : List String := ["switch_case", "switch_default"]

/-- The label of a statement, or the label that a jump names. -/
def labelOf (source : Bytes) (n : Node) : Option String :=
  (n.child? "label").map (Node.text source)

/-! ## Runs -/

/-- What can be run. -/
inductive Task where
  /-- A statement that bears some labels. -/
  | statement (labels : List String) (n : Node)
  /-- A statement that has been reached. -/
  | inside (labels : List String) (n : Node)
  | list (ns : List Node)
  /-- The clauses of a `switch` from the one that is entered. -/
  | cases (ns : List Node)
  /-- The rounds of a loop, tested before each round. -/
  | rounds (labels : List String) (n : Node)
  /-- A round of a loop and those after it. -/
  | round (labels : List String) (n : Node)
  /-- The body of a `try` with its handler. -/
  | guarded (n : Node)
  /-- The body of a handler or a finalizer. -/
  | clause (n : Node)

/-- A task can be run so that it completes in this way, and then the statements of the list are
reached, in this order. -/
inductive Runs (source : Bytes) : Task → Completion → List Node → Prop where
  | unfinished (task : Task) : Runs source task .unfinished []
  | reached {labels n c t} (r : Runs source (.inside labels n) c t) :
      Runs source (.statement labels n) c (n :: t)
  -- Statements without statements in them. A `throw` can only fail.
  | returns {labels n} (kind : n.kind = "return_statement") :
      Runs source (.inside labels n) .returned []
  | breaks {labels n} (kind : n.kind = "break_statement") :
      Runs source (.inside labels n) (.broke (labelOf source n)) []
  | continues {labels n} (kind : n.kind = "continue_statement") :
      Runs source (.inside labels n) (.continued (labelOf source n)) []
  | plain {labels n} (jump : n.kind ∉ terminatorKinds) (nesting : n.kind ∉ nestingKinds) :
      Runs source (.inside labels n) .normal []
  | fails {labels n} (head : n.kind ∉ headlessKinds) : Runs source (.inside labels n) .thrown []
  -- Lists.
  | nil : Runs source (.list []) .normal []
  | skip {n ns c t} (trivia : isTrivia n = true) (r : Runs source (.list ns) c t) :
      Runs source (.list (n :: ns)) c t
  | next {n ns c t t'} (statement : isTrivia n = false)
      (first : Runs source (.statement [] n) .normal t) (rest : Runs source (.list ns) c t') :
      Runs source (.list (n :: ns)) c (t ++ t')
  | stop {n ns c t} (statement : isTrivia n = false) (first : Runs source (.statement [] n) c t)
      (abrupt : c ≠ .normal) : Runs source (.list (n :: ns)) c t
  | block {labels n c t} (kind : n.kind = "statement_block")
      (r : Runs source (.list n.namedChildren) c t) : Runs source (.inside labels n) c t
  -- Branches.
  | consequence {labels n s c t} (kind : n.kind = "if_statement")
      (part : n.child? "consequence" = some s) (r : Runs source (.statement [] s) c t) :
      Runs source (.inside labels n) c t
  | noConsequence {labels n} (kind : n.kind = "if_statement")
      (part : n.child? "consequence" = none) : Runs source (.inside labels n) .normal []
  | alternative {labels n e c t} (kind : n.kind = "if_statement")
      (part : n.child? "alternative" = some e) (clause : e.kind = "else_clause")
      (r : Runs source (.list e.namedChildren) c t) : Runs source (.inside labels n) c t
  | noAlternative {labels n} (kind : n.kind = "if_statement")
      (part : n.child? "alternative" = none) : Runs source (.inside labels n) .normal []
  -- Loops.
  | loop {labels n c t} (kind : n.kind ∈ loopKinds) (r : Runs source (.rounds labels n) c t) :
      Runs source (.inside labels n) c t
  | once {labels n c t} (kind : n.kind = "do_statement") (r : Runs source (.round labels n) c t) :
      Runs source (.inside labels n) c t
  | noRounds {labels n} : Runs source (.rounds labels n) .normal []
  | testFails {labels n} : Runs source (.rounds labels n) .thrown []
  | tested {labels n c t} (r : Runs source (.round labels n) c t) :
      Runs source (.rounds labels n) c t
  | again {labels n b c t c' t'} (part : n.child? "body" = some b)
      (body : Runs source (.statement [] b) c t) (goes : c.goesOn labels = true)
      (rest : Runs source (.rounds labels n) c' t') : Runs source (.round labels n) c' (t ++ t')
  | left {labels n b c t} (part : n.child? "body" = some b)
      (body : Runs source (.statement [] b) c t) (leaves : c.leaves labels = true) :
      Runs source (.round labels n) .normal t
  | abrupt {labels n b c t} (part : n.child? "body" = some b)
      (body : Runs source (.statement [] b) c t) (stays : c.goesOn labels = false)
      (inLoop : c.leaves labels = false) : Runs source (.round labels n) c t
  | noBody {labels n c t} (part : n.child? "body" = none)
      (r : Runs source (.rounds labels n) c t) : Runs source (.round labels n) c t
  -- Objects and labels.
  | within {labels n b c t} (kind : n.kind = "with_statement") (part : n.child? "body" = some b)
      (r : Runs source (.statement [] b) c t) : Runs source (.inside labels n) c t
  | without {labels n} (kind : n.kind = "with_statement") : Runs source (.inside labels n) .normal []
  | labelled {labels n b c t} (kind : n.kind = "labeled_statement")
      (part : n.child? "body" = some b)
      (r : Runs source (.statement ((labelOf source n).toList ++ labels) b) c t) :
      Runs source (.inside labels n) (c.takeBreak (labelOf source n)) t
  | noLabelled {labels n} (kind : n.kind = "labeled_statement") (part : n.child? "body" = none) :
      Runs source (.inside labels n) .normal []
  -- Clauses of a `switch`.
  | noCase {labels n} (kind : n.kind = "switch_statement") : Runs source (.inside labels n) .normal []
  | enter {labels n b before entered c t} (kind : n.kind = "switch_statement")
      (part : n.child? "body" = some b) (clause : b.kind = "switch_body")
      (split : b.namedChildren = before ++ entered) (r : Runs source (.cases entered) c t) :
      Runs source (.inside labels n) (c.takeBreak none) t
  | noCases : Runs source (.cases []) .normal []
  | skipCase {n ns c t} (trivia : isTrivia n = true) (r : Runs source (.cases ns) c t) :
      Runs source (.cases (n :: ns)) c t
  | fallThrough {n ns c t t'} (kind : n.kind ∈ caseKinds)
      (first : Runs source (.list (n.childrenAt "body")) .normal t)
      (rest : Runs source (.cases ns) c t') : Runs source (.cases (n :: ns)) c (t ++ t')
  | stopCase {n ns c t} (kind : n.kind ∈ caseKinds)
      (first : Runs source (.list (n.childrenAt "body")) c t) (abrupt : c ≠ .normal) :
      Runs source (.cases (n :: ns)) c t
  -- Errors that are caught, and finalizers.
  | attempt {labels n c t} (kind : n.kind = "try_statement")
      (final : n.child? "finalizer" = none ∨ c = .unfinished)
      (r : Runs source (.guarded n) c t) : Runs source (.inside labels n) c t
  | finalized {labels n f c t c' t'} (kind : n.kind = "try_statement")
      (final : n.child? "finalizer" = some f) (clause : f.kind = "finally_clause")
      (r : Runs source (.guarded n) c t) (finished : c ≠ .unfinished)
      (finalizer : Runs source (.clause f) c' t') :
      Runs source (.inside labels n) (c.override c') (t ++ t')
  | body {n b c t} (part : n.child? "body" = some b) (r : Runs source (.statement [] b) c t)
      (passed : c ≠ .thrown ∨ n.child? "handler" = none) : Runs source (.guarded n) c t
  | noGuarded {n} (part : n.child? "body" = none) : Runs source (.guarded n) .normal []
  | handled {n b h t c t'} (part : n.child? "body" = some b)
      (r : Runs source (.statement [] b) .thrown t) (handler : n.child? "handler" = some h)
      (clause : h.kind = "catch_clause") (caught : Runs source (.clause h) c t') :
      Runs source (.guarded n) c (t ++ t')
  | bindingFails {n b h t} (part : n.child? "body" = some b)
      (r : Runs source (.statement [] b) .thrown t) (handler : n.child? "handler" = some h) :
      Runs source (.guarded n) .thrown t
  | clause {n b c t} (part : n.child? "body" = some b) (r : Runs source (.statement [] b) c t) :
      Runs source (.clause n) c t
  | noClause {n} (part : n.child? "body" = none) : Runs source (.clause n) .normal []

end ScriptLint.Flow

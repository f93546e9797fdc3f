/-
Syntax trees of scripts. A node has a kind, a range of source bytes, a flag that tells named nodes
from punctuation, and the grammar field under which its parent shows it.
-/
import ScriptLint.Finding.Basic
import ScriptLint.Text.Utf8

namespace ScriptLint

/-- What a node says about itself. -/
structure Label where
  kind : String
  span : Span
  named : Bool
  field : Option String
  deriving DecidableEq, Inhabited, Repr

/-- A syntax tree. -/
inductive Node where
  | mk (label : Label) (children : List Node)
  deriving Inhabited, Repr

namespace Node

def label : Node → Label
  | .mk label _ => label

def children : Node → List Node
  | .mk _ children => children

def kind (n : Node) : String := n.label.kind

/-- The bytes a node covers, as a range. -/
def span (n : Node) : Span := n.label.span

/-- The offset of the first byte of a node. -/
def lo (n : Node) : Nat := n.span.lo

/-- The offset after the last byte of a node. -/
def hi (n : Node) : Nat := n.span.hi

def isNamed (n : Node) : Bool := n.label.named

def field? (n : Node) : Option String := n.label.field

/-- The children that are no punctuation. -/
def namedChildren (n : Node) : List Node := n.children.filter isNamed

/-- The children under a grammar field. -/
def childrenAt (n : Node) (field : String) : List Node :=
  n.children.filter fun c => c.field? == some field

/-- The first child under a grammar field. -/
def child? (n : Node) (field : String) : Option Node :=
  n.children.find? fun c => c.field? == some field

/-- The source bytes a node covers. -/
def bytes (source : Bytes) (n : Node) : Bytes := source.slice n.lo n.hi

/-- The text a node covers; bytes that are no text are replaced. -/
def text (source : Bytes) (n : Node) : String := Utf8.decodeLossy (n.bytes source)

/-! ## Walking -/

mutual

/-- A node and all its descendants in document order, parents first. -/
def preorder : Node → List Node
  | .mk label children => .mk label children :: preorderAll children

/-- The nodes of several trees, one tree after the other. -/
def preorderAll : List Node → List Node
  | [] => []
  | n :: rest => n.preorder ++ preorderAll rest

end

theorem preorderAll_eq_flatMap (ns : List Node) : preorderAll ns = ns.flatMap preorder := by
  induction ns with
  | nil => rfl
  | cons n rest ih => simp [preorderAll, ih]

theorem preorder_eq (n : Node) : n.preorder = n :: n.children.flatMap preorder := by
  cases n with
  | mk label children => simp [preorder, Node.children, preorderAll_eq_flatMap]

/-- The number of nodes of a tree. -/
def size (n : Node) : Nat := n.preorder.length

theorem size_pos (n : Node) : 0 < n.size := by
  rw [size, preorder_eq]; simp

/-! ## Parts are smaller -/

theorem sizeOf_lt_of_mem {c n : Node} (h : c ∈ n.children) : sizeOf c < sizeOf n := by
  cases n with
  | mk label children =>
    have := List.sizeOf_lt_of_mem (show c ∈ children from h)
    simp
    omega

theorem mem_children_of_mem_namedChildren {c n : Node} (h : c ∈ n.namedChildren) :
    c ∈ n.children := (List.mem_filter.1 h).1

theorem mem_children_of_mem_childrenAt {c n : Node} {field : String} (h : c ∈ n.childrenAt field) :
    c ∈ n.children := (List.mem_filter.1 h).1

theorem mem_children_of_child? {c n : Node} {field : String} (h : n.child? field = some c) :
    c ∈ n.children := List.mem_of_find?_eq_some h

/-- The tree of a script without anything in it. -/
def emptyProgram : Node := .mk ⟨"program", default, true, none⟩ []

end Node

/-! ## Functions -/

/-- The kinds of nodes that are functions with a body of their own. -/
def functionKinds : List String :=
  ["function_declaration", "generator_function_declaration", "function_expression",
   "generator_function", "arrow_function", "method_definition"]

/-- Whether a node is a function. -/
def Node.isFunction (n : Node) : Bool := functionKinds.contains n.kind

/-- How many nodes a tree has, and how many of the named ones are functions. -/
structure TreeStats where
  nodes : Nat
  functions : Nat
  deriving DecidableEq, Repr

/-- Counts the nodes and the functions of a tree. -/
def Node.stats (n : Node) : TreeStats :=
  { nodes := n.size
    functions := n.preorder.countP fun m => m.isNamed && m.isFunction }

end ScriptLint

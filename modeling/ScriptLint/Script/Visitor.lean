/-
Walking a tree with handlers. Named nodes are handed to the handler of their kind, parents first
and siblings in order; a handler that answers `false` keeps the walk from the children of its node.
-/
import ScriptLint.Text.Split
import ScriptLint.Text.Upper
import ScriptLint.Tree.Ast

namespace ScriptLint

namespace Visitor

/-! ## Names of handlers -/

/-- A part of a kind as it stands in a handler's name: the first character in upper case. -/
def capitalized : List Char → List Char
  | [] => []
  | c :: rest => (if c.toNat < 0x10000 then Text.upper c else [c]) ++ rest

/-- The name of the handler for a kind of nodes: `visit` and the parts between underscores, each
capitalized. -/
def handlerName (kind : String) : String :=
  "visit" ++ String.ofList ((Text.splitAt '_' kind.toList).flatMap capitalized)

/-! ## Walks -/

variable {m : Type → Type} [Monad m]

mutual

/-- Walks a tree. `handle` gets the named nodes and says whether the walk goes on to their
children. -/
def walk (handle : Ast → m Bool) : Ast → m Unit
  | .mk kind span named field text children => do
    let descend ← if named then handle (.mk kind span named field text children) else pure true
    if descend then walkAll handle children

/-- Walks the trees of a list in order. -/
def walkAll (handle : Ast → m Bool) : List Ast → m Unit
  | [] => pure ()
  | n :: rest => do
    walk handle n
    walkAll handle rest

end

end Visitor

end ScriptLint

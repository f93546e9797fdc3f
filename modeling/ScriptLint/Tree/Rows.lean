/-
A tree as rows: the labels in document order, each with the index of its parent's row. `ofRows?`
builds the tree; a row whose parent does not come before it has no place.
-/
import ScriptLint.Tree.Basic

namespace ScriptLint

/-- A list of children for every row, to which the rows below have been attached. -/
abbrev Pending (α : Type) := List (List α)

/-- Puts a child before the children of row `i`. -/
def Pending.attach {α : Type} (pending : Pending α) (i : Nat) (child : α) : Pending α :=
  pending.modify i (child :: ·)

/-- Completes a row whose children have been attached, and puts it before the children of its
parent. -/
def Pending.completeRow {α β : Type} (complete : α → List β → β) (row : (α × Option Nat) × Nat)
    (state : Pending β × Option β) : Pending β × Option β :=
  let node := complete row.1.1 (state.1.getD row.2 [])
  match row.1.2 with
  | some parent => (state.1.attach parent node, some node)
  | none => (state.1, some node)

/-- Completes the rows from the last to the first: when a row's turn comes all rows below it are
complete, so its children are too. Answers the completed first row. -/
def assemble {α β : Type} (complete : α → List β → β) (rows : List (α × Option Nat)) : Option β :=
  (rows.zipIdx.foldr (Pending.completeRow complete) (List.replicate rows.length [], none)).2

/-- The tree of rows in document order. -/
def Node.ofRows? (rows : List (Label × Option Nat)) : Option Node := assemble Node.mk rows

end ScriptLint

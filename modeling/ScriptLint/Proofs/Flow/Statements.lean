/-
The analysis of statements, one equation for each kind of them. The proofs about it go by these
equations and do not open its definition again.
-/
import ScriptLint.Flow.Analysis
import Mathlib.Data.List.Basic

namespace ScriptLint.Flow

variable {dead : Bool} {n : Node} {rest : List Node}

/-! ## Statements -/

/-- What the analysis finds out about the statement under a field; nothing if there is none. -/
def partAt (dead : Bool) (n : Node) (field : String) : Outcome :=
  (visitAt dead n field).getD ⟨false, []⟩

theorem partAt_some {field : String} {c : Node} (h : n.child? field = some c) :
    partAt dead n field = visit dead c := by
  rw [partAt, visitAt]
  split <;> simp_all

theorem partAt_none {field : String} (h : n.child? field = none) :
    partAt dead n field = ⟨false, []⟩ := by
  rw [partAt, visitAt]
  split <;> simp_all

theorem visitClause_some {field : String} {c : Node} (h : n.child? field = some c) :
    visitClause dead n field = some (partAt dead c "body") := by
  rw [visitClause]
  split <;> simp_all [partAt]

theorem visitClause_none {field : String} (h : n.child? field = none) :
    visitClause dead n field = none := by
  rw [visitClause]
  split <;> simp_all

theorem visit_stops : (visit dead n).stops = (statement dead n).stops := by rw [visit]

theorem visit_marks : (visit dead n).marks =
    (statement dead n).marks ++ [⟨n, dead, (statement dead n).stops⟩] := by rw [visit]

theorem statement_terminator (h : n.kind ∈ terminatorKinds) :
    statement dead n = ⟨true, functions n⟩ := by
  rw [statement, if_pos (List.contains_iff_mem.2 h)]

theorem statement_block (h : n.kind = "statement_block") :
    statement dead n = block dead n.namedChildren := by
  rw [statement, if_neg (by rw [h]; decide), if_pos (by rw [h]; rfl)]

theorem statement_if_else {e : Node} (h : n.kind = "if_statement")
    (he : n.child? "alternative" = some e) :
    statement dead n =
      ⟨(partAt dead n "consequence").stops && (alternatives dead e.namedChildren).stops,
        functionsAt n ["condition"] ++ (partAt dead n "consequence").marks
          ++ (alternatives dead e.namedChildren).marks⟩ := by
  rw [statement, if_neg (by rw [h]; decide), if_neg (by rw [h]; decide), if_pos (by rw [h]; rfl)]
  dsimp only
  split <;> simp_all [partAt]

theorem statement_if (h : n.kind = "if_statement") (he : n.child? "alternative" = none) :
    statement dead n =
      ⟨false, functionsAt n ["condition"] ++ (partAt dead n "consequence").marks⟩ := by
  rw [statement, if_neg (by rw [h]; decide), if_neg (by rw [h]; decide), if_pos (by rw [h]; rfl)]
  dsimp only
  split <;> simp_all [partAt]

/-- The outcome of the handler of a `try`; without a handler no error is taken up. -/
def handlerOf (dead : Bool) (n : Node) : Outcome := (visitClause dead n "handler").getD ⟨true, []⟩

/-- The outcome of the finalizer of a `try`. -/
def finalizerOf (dead : Bool) (n : Node) : Outcome :=
  (visitClause dead n "finalizer").getD ⟨false, []⟩

theorem statement_try (h : n.kind = "try_statement") :
    statement dead n =
      ⟨(finalizerOf dead n).stops || ((partAt dead n "body").stops && (handlerOf dead n).stops),
        (partAt dead n "body").marks ++ (handlerOf dead n).marks ++ (finalizerOf dead n).marks⟩ := by
  rw [statement, if_neg (by rw [h]; decide), if_neg (by rw [h]; decide), if_neg (by rw [h]; decide),
    if_pos (by rw [h]; rfl)]
  rfl

theorem statement_switch {b : Node} (h : n.kind = "switch_statement")
    (hb : n.child? "body" = some b) :
    statement dead n = ⟨false, functionsAt n ["value"] ++ cases dead b.namedChildren⟩ := by
  rw [statement, if_neg (by rw [h]; decide), if_neg (by rw [h]; decide), if_neg (by rw [h]; decide),
    if_neg (by rw [h]; decide), if_pos (by rw [h]; rfl)]
  split <;> simp_all

theorem statement_switch_none (h : n.kind = "switch_statement") (hb : n.child? "body" = none) :
    statement dead n = ⟨false, functionsAt n ["value"]⟩ := by
  rw [statement, if_neg (by rw [h]; decide), if_neg (by rw [h]; decide), if_neg (by rw [h]; decide),
    if_neg (by rw [h]; decide), if_pos (by rw [h]; rfl)]
  split <;> simp_all

theorem statement_do (h : n.kind = "do_statement") :
    statement dead n =
      ⟨(partAt dead n "body").stops && !(n.child? "body").any exitsLoop,
        (partAt dead n "body").marks ++ functionsAt n ["condition"]⟩ := by
  rw [statement, if_neg (by rw [h]; decide), if_neg (by rw [h]; decide), if_neg (by rw [h]; decide),
    if_neg (by rw [h]; decide), if_neg (by rw [h]; decide), if_pos (by rw [h]; rfl)]
  rfl

theorem statement_open (h : n.kind ∈ openKinds) :
    statement dead n = ⟨false, functionsAt n headFields ++ (partAt dead n "body").marks⟩ := by
  have others : terminatorKinds.contains n.kind = false ∧ n.kind ≠ "statement_block" ∧
      n.kind ≠ "if_statement" ∧ n.kind ≠ "try_statement" ∧ n.kind ≠ "switch_statement" ∧
      n.kind ≠ "do_statement" := by
    revert h
    generalize n.kind = kind
    simp only [openKinds, List.mem_cons, List.not_mem_nil, or_false]
    rintro (rfl | rfl | rfl | rfl | rfl) <;> decide
  obtain ⟨hjump, hblock, hif, htry, hswitch, hdo⟩ := others
  rw [statement, if_neg (by rw [hjump]; decide), if_neg (by simpa using hblock),
    if_neg (by simpa using hif), if_neg (by simpa using htry), if_neg (by simpa using hswitch),
    if_neg (by simpa using hdo), if_pos (List.contains_iff_mem.2 h)]
  rfl

/-- Statements that stand by themselves. -/
def isSimple (n : Node) : Bool :=
  !(terminatorKinds ++ ["statement_block", "if_statement", "try_statement", "switch_statement",
    "do_statement"] ++ openKinds).contains n.kind

theorem statement_simple (h : isSimple n = true) : statement dead n = ⟨false, functions n⟩ := by
  simp only [isSimple, Bool.not_eq_true', Bool.eq_false_iff, ne_eq, List.contains_iff_mem,
    List.mem_append, not_or, List.mem_cons, List.not_mem_nil, not_false_eq_true, and_true] at h
  obtain ⟨⟨hjump, hblock, hif, htry, hswitch, hdo⟩, hopen⟩ := h
  rw [statement, if_neg (by simpa using hjump), if_neg (by simpa using hblock),
    if_neg (by simpa using hif), if_neg (by simpa using htry), if_neg (by simpa using hswitch),
    if_neg (by simpa using hdo), if_neg (by simpa using hopen)]

/-! ## Lists -/

theorem block_nil : block dead [] = ⟨false, []⟩ := by rw [block]

theorem block_skipped (h : isSkipped n = true) : block dead (n :: rest) = block dead rest := by
  rw [block, if_pos h]

theorem block_cons (h : isSkipped n = false) :
    block dead (n :: rest) =
      ⟨(visit dead n).stops || (block (dead || (visit dead n).stops) rest).stops,
        (visit dead n).marks ++ (block (dead || (visit dead n).stops) rest).marks⟩ := by
  rw [block, if_neg (by simp [h])]

theorem alternatives_nil : alternatives dead [] = ⟨false, []⟩ := by rw [alternatives]

theorem alternatives_skipped (h : isSkipped n = true) :
    alternatives dead (n :: rest) = alternatives dead rest := by
  rw [alternatives, if_pos h]

theorem alternatives_cons (h : isSkipped n = false) :
    alternatives dead (n :: rest) =
      ⟨(visit dead n).stops || (alternatives dead rest).stops,
        (visit dead n).marks ++ (alternatives dead rest).marks⟩ := by
  rw [alternatives, if_neg (by simp [h])]

theorem cases_nil : cases dead [] = [] := by rw [cases]

theorem cases_skipped (h : isSkipped n = true) : cases dead (n :: rest) = cases dead rest := by
  rw [cases, if_pos h]

theorem cases_cons (h : isSkipped n = false) :
    cases dead (n :: rest) =
      functionsAt n ["value"] ++ (block dead (n.childrenAt "body")).marks ++ cases dead rest := by
  rw [cases, if_neg (by simp [h])]

/-! ## Functions -/

theorem functions_body {b : Node} (h : entersBody n = true) (hb : n.child? "body" = some b) :
    functions n =
      if b.kind == "statement_block" then (block false b.namedChildren).marks else functions b := by
  rw [functions, if_pos h]
  split <;> simp_all

theorem functions_noBody (h : entersBody n = true) (hb : n.child? "body" = none) :
    functions n = [] := by
  rw [functions, if_pos h]
  split <;> simp_all

theorem functionsAll_eq (ns : List Node) : functionsAll ns = ns.flatMap functions := by
  induction ns with
  | nil => rw [functionsAll, List.flatMap_nil]
  | cons n rest ih => rw [functionsAll, ih, List.flatMap_cons]

theorem functions_children (h : entersBody n = false) :
    functions n = n.children.flatMap functions := by
  rw [functions, if_neg (by simp [h]), functionsAll_eq]

theorem functionsAt_eq (fields : List String) :
    functionsAt n fields = fields.flatMap fun field => (n.child? field).toList.flatMap functions := by
  induction fields with
  | nil => rw [functionsAt, List.flatMap_nil]
  | cons field rest ih =>
    rw [functionsAt, ih, List.flatMap_cons]
    congr 1
    split
    · rename_i hnone
      simp [hnone]
    · rename_i c hsome
      simp [hsome]

end ScriptLint.Flow

/-
The facts about a program are right about its runs. The fact at an offset is that of the last mark
made there (`lookup_ofList`), so where the analysed statements start at different offsets every
statement has the fact of its own mark, and what holds of the marks holds of the facts
(`ofProgram_sound`).
-/
import ScriptLint.Proofs.Flow.Bodies
import ScriptLint.Proofs.Flow.Soundness
import Mathlib.Data.List.Nodup

namespace ScriptLint

namespace ControlFlow

/-! ## Facts from lists -/

theorem lookup_foldl (facts entries : List (Int × Fact)) (offset : Int) :
    lookup ⟨facts.foldl (fun acc e => setEntry acc e.1 e.2) entries⟩ offset =
      ((facts.reverse.find? fun e => e.1 == offset).map (·.2)).or (lookup ⟨entries⟩ offset) := by
  induction facts generalizing entries with
  | nil => rfl
  | cons e rest ih =>
    rw [List.foldl_cons, ih, lookup_setEntry, List.reverse_cons, List.find?_append]
    cases rest.reverse.find? fun e => e.1 == offset with
    | some later => rfl
    | none =>
      by_cases h : e.1 = offset
      · simp [h]
      · simp [h]

/-- The fact at an offset is the last one that the list has for it. -/
theorem lookup_ofList (facts : List (Int × Fact)) (offset : Int) :
    (ofList facts).lookup offset =
      (facts.reverse.find? fun e => e.1 == offset).map (·.2) := by
  rw [ofList, lookup_foldl]
  simp [lookup]

end ControlFlow

namespace Flow

/-! ## A statement that is not reached -/

/-- The statements of `return; foo;`. -/
def deadCode : List Node :=
  [.mk ⟨"return_statement", ⟨0, 7, by decide⟩, true, none⟩ [],
   .mk ⟨"expression_statement", ⟨8, 12, by decide⟩, true, none⟩ []]

theorem marks_deadCode (label : Label) :
    marks (.mk label deadCode) =
      [⟨deadCode[0], false, true⟩, ⟨deadCode[1], true, false⟩] := by
  have hnamed : (Node.mk label deadCode).namedChildren = deadCode := rfl
  have hnone : ∀ l : Label, entersBody (.mk l []) = false → functions (.mk l []) = [] :=
    fun l h => by rw [functions_children h, Node.children, List.flatMap_nil]
  rw [marks, hnamed]
  unfold deadCode
  rw [block_cons (by decide), visit_stops, visit_marks,
    statement_terminator (by decide), hnone _ (by decide), block_cons (by decide), visit_stops,
    visit_marks, statement_simple (by decide), hnone _ (by decide), block_nil]
  rfl

/-! ## Soundness -/

/-- Where analysed statements start at different offsets, each has the fact of its mark. -/
theorem lookup_ofProgram {root : Node} (distinct : ((marks root).map Mark.offset).Nodup) {m : Mark}
    (hm : m ∈ marks root) : (ControlFlow.ofProgram root).lookup m.offset = some m.fact := by
  rw [ControlFlow.ofProgram, ControlFlow.lookup_ofList]
  have hsome : (((marks root).map fun m => ((m.offset : Int), m.fact)).reverse.find? fun e =>
      e.1 == (m.offset : Int)).isSome := by
    rw [List.find?_isSome]
    exact ⟨((m.offset : Int), m.fact), List.mem_reverse.2 (List.mem_map.2 ⟨m, hm, rfl⟩), by simp⟩
  obtain ⟨e, he⟩ := Option.isSome_iff_exists.1 hsome
  obtain ⟨m', hm', rfl⟩ := List.mem_map.1 (List.mem_reverse.1 (List.mem_of_find?_eq_some he))
  have hoffset : m'.offset = m.offset := Int.ofNat_inj.1 (by simpa using List.find?_some he)
  rw [he, List.inj_on_of_nodup_map distinct hm' hm hoffset]
  rfl

/-- Where analysed statements start at different offsets, every one of them has a fact that is right
about all runs: if it says that the statement stops execution, no run of the statement completes
normally, whatever its labels; if it says that the statement is unreachable, the body in which the
statement stands has no run, finished or not, that reaches it. -/
theorem ofProgram_sound (source : Bytes) (root : Node)
    (distinct : ((marks root).map Mark.offset).Nodup) (m : Mark) (hm : m ∈ marks root) :
    ∃ fact, (ControlFlow.ofProgram root).lookup m.offset = some fact ∧
      (fact.stops = .bool true → ∀ labels reached,
        ¬Runs source (.statement labels m.node) .normal reached) ∧
      (fact.unreachable = true → ∃ body, IsBody root body ∧ StandsIn body m.node ∧
        ∀ c reached, Runs source (.list body) c reached → m.node ∉ reached) := by
  refine ⟨m.fact, lookup_ofProgram distinct hm, ?_, ?_⟩
  · intro hstops labels reached r
    have hmark : m.stops = true := by simpa [Mark.fact, Fact.ofBools] using hstops
    have hpasses : (visit m.unreachable m.node).stops = false := r.sound rfl m.unreachable
    rw [visit_stops, ← stops_of_mem_marks hm, hmark] at hpasses
    cases hpasses
  · intro hunreachable
    obtain ⟨body, hbody, hstands, hamong⟩ := mem_marks hm
    refine ⟨body, hbody, hstands, fun c reached r hx => ?_⟩
    -- a statement that is reached has a mark that says so, and it has only one mark
    obtain ⟨m', hm', hnode, hlive⟩ := (r.live hx).1
    have heq : m' = m := List.inj_on_of_nodup_map distinct (hamong.subset m' hm') hm
      (by rw [Mark.offset, hnode, Mark.offset])
    rw [← heq] at hunreachable
    rw [show m'.fact.unreachable = m'.unreachable from rfl, hlive] at hunreachable
    cases hunreachable

/-- In `return; foo;` the second statement has a fact by which no run reaches it, and a run reaches
the first one. -/
theorem ofProgram_sound_deadCode :
    (∃ fact, (ControlFlow.ofProgram (.mk default deadCode)).lookup 8 = some fact ∧
      (fact.unreachable = true → ∃ body, IsBody (.mk default deadCode) body ∧
        StandsIn body deadCode[1] ∧
        ∀ c reached, Runs [] (.list body) c reached → deadCode[1] ∉ reached)) ∧
      Runs [] (.list deadCode) .returned [deadCode[0]] := by
  constructor
  · obtain ⟨fact, hlookup, -, hunreachable⟩ := ofProgram_sound [] (.mk default deadCode)
      (by rw [marks_deadCode]; decide) ⟨deadCode[1], true, false⟩ (by rw [marks_deadCode]; simp)
    exact ⟨fact, hlookup, hunreachable⟩
  · exact .stop (by decide) (.reached (.returns rfl)) (by decide)

end Flow

end ScriptLint

/-
Rule classes that only report. Such a class extends the visitor, overrides nothing of it, and its
handlers only report; what an instance collects from a program are the findings of a walk over the
program's own tree, in the order of the calls (`collect_toClass`).
-/
import ScriptLint.Proofs.Plugin.Visit

namespace ScriptLint.RuleParts

open Handler

/-- The methods of the visitor by which an instance is made and collects. -/
def visitorMethods : List String :=
  ["constructor", "visit", "addDiagnostic", "collectDiagnostics"]

/-- Whether a class has a code, extends the visitor and overrides nothing of it, and has handlers
that only report. -/
structure OnlyReports (d : RuleParts) (code : String) : Prop where
  code : d.code = some (.ok (.str code))
  extendsVisitor : d.extendsVisitor = true
  collection : d.collection = .inherited
  overridesNothing : ∀ name ∈ visitorMethods, d.method? name = none
  handlers : d.HandlersReport

variable {d : RuleParts} {code : String}

/-! ## Instances -/

theorem OnlyReports.newInstance (h : d.OnlyReports code) :
    d.newInstance = (⟨0, 0⟩ : Tally).instance [] := by
  rw [RuleParts.newInstance, h.extendsVisitor, h.overridesNothing "constructor" (by decide)]
  rfl

theorem OnlyReports.inherits (h : d.OnlyReports code) (root : Ast) :
    Inherits (d.methods (maxDepth root)) := by
  intro s message hint
  show d.callOr (d.methods (2 * root.height + 399)) "addDiagnostic" s _ = _
  rw [callOr, h.overridesNothing "addDiagnostic" (by decide), h.extendsVisitor]
  rfl

/-! ## Collecting -/

/-- What the calls of a walk over a program have found, as a new instance answers it. -/
theorem OnlyReports.collect_toClass (h : d.OnlyReports code) (source : Bytes) (root : Node) :
    d.toClass.collect (.ofNode source root) =
      .done (.ok (some (.arr ((Visit.remarks (d.visits source none ⟨0, 0⟩ root)).map
        fun r => Payload.diagnosticJson r.wire)))) := by
  let tree := Ast.ofNode source root
  let methods := d.methods (maxDepth tree)
  let log := d.visits source none ⟨0, 0⟩ root
  have hwalk : Logs (d.visit methods tree) ⟨0, 0⟩ log := by
    rw [visit, h.overridesNothing "visit" (by decide)]
    exact walk_logs h.handlers (h.inherits tree) source none root ⟨0, 0⟩
  have hends : Ends (d.collectNew tree) d.newInstance
      (.ok (some (.arr (withRemarks [] (Visit.remarks log)))))
      ((Visit.tallyAfter ⟨0, 0⟩ log).instance (withRemarks [] (Visit.remarks log))) := by
    rw [h.newInstance, collectNew, construct, h.overridesNothing "constructor" (by decide),
      collect, h.collection, h.overridesNothing "collectDiagnostics" (by decide),
      h.extendsVisitor]
    refine (ends_pure ()).bind ?_
    refine (ends_modify _).bind ((hwalk [] rfl).1.bind ?_)
    exact ends_get.bind (ends_pure _)
  show Script.bind ((d.collectNew tree).run.run d.newInstance) _ = _
  rw [hends]
  rfl

end ScriptLint.RuleParts

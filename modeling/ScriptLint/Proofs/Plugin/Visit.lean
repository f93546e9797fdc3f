/-
Which handlers a walk calls. `visits` lists the calls of handlers in a walk over the program's own
tree, each with what the handler does; the walk over the tree as scripts see it does exactly this
(`walk_logs`).
-/
import ScriptLint.Proofs.Plugin.Handler
import Mathlib.Data.List.Basic

namespace ScriptLint

open Handler

/-! ## Calls of handlers -/

/-- A call of a handler: where it happens and what it does. -/
structure Visit where
  path : List Nat
  scene : Scene
  effect : Effect

namespace Visit

/-- Whether the handler has kept the walk from the children. -/
def prunes (v : Visit) : Bool :=
  match v.effect.answer with
  | some (.bool false) => true
  | _ => false

/-- The call as seen from the parent. -/
def under (index : Nat) (v : Visit) : Visit := { v with path := index :: v.path }

/-- What an instance knows after some calls. -/
def tallyAfter (t : Tally) (log : List Visit) : Tally :=
  (log.getLast?.map fun v => v.effect.tally).getD t

/-- The findings of some calls in order. -/
def remarks (log : List Visit) : List Remark := log.flatMap fun v => v.effect.remarks

theorem tallyAfter_cons (t : Tally) (v : Visit) (log : List Visit) :
    tallyAfter t (v :: log) = tallyAfter v.effect.tally log := by
  rw [tallyAfter, tallyAfter, List.getLast?_cons]
  cases log.getLast? <;> rfl

theorem tallyAfter_append (t : Tally) (first second : List Visit) :
    tallyAfter t (first ++ second) = tallyAfter (tallyAfter t first) second := by
  induction first generalizing t with
  | nil => rfl
  | cons v rest ih => rw [List.cons_append, tallyAfter_cons, tallyAfter_cons, ih]

@[simp] theorem tallyAfter_map_under (t : Tally) (index : Nat) (log : List Visit) :
    tallyAfter t (log.map (under index)) = tallyAfter t log := by
  rw [tallyAfter, tallyAfter, List.getLast?_map, Option.map_map]
  rfl

@[simp] theorem remarks_map_under (index : Nat) (log : List Visit) :
    remarks (log.map (under index)) = remarks log := by
  rw [remarks, remarks, List.flatMap_map]
  rfl

theorem remarks_append (first second : List Visit) :
    remarks (first ++ second) = remarks first ++ remarks second := List.flatMap_append

end Visit

namespace RuleParts

/-- The handler of a node; only named nodes have one. -/
def handler? (d : RuleParts) (n : Node) : Option (List Action) :=
  if n.isNamed then d.method? (Visitor.handlerName n.kind) else none

mutual

/-- The calls of handlers in a walk over a tree that is shown under a field. -/
def visits (d : RuleParts) (source : Bytes) (field : Option String) (t : Tally) :
    Node → List Visit
  | .mk label children =>
    match d.handler? (.mk label children) with
    | none => visitsAll d source 0 t children
    | some actions =>
      let s : Scene := ⟨source, field, .mk label children⟩
      let v : Visit := ⟨[], s, effectAll s t actions⟩
      v :: if v.prunes then [] else visitsAll d source 0 v.effect.tally children

/-- The calls of handlers in a walk over the trees of a list, of which the first has an index. -/
def visitsAll (d : RuleParts) (source : Bytes) (index : Nat) (t : Tally) :
    List Node → List Visit
  | [] => []
  | n :: rest =>
    let first := (visits d source n.field? t n).map (Visit.under index)
    first ++ visitsAll d source (index + 1) (Visit.tallyAfter t first) rest

end

end RuleParts

/-! ## The calls of a walk -/

/-- From an instance that knows its tally, a run does what these calls of handlers do, and the
instance still knows its tally. -/
def Logs (x : Run Unit) (t : Tally) (log : List Visit) : Prop :=
  ∀ items : List Json, t.findings = items.length →
    Ends x (t.instance items) (.ok ())
        ((Visit.tallyAfter t log).instance (withRemarks items (Visit.remarks log))) ∧
      (Visit.tallyAfter t log).findings = (withRemarks items (Visit.remarks log)).length

theorem logs_nil (t : Tally) : Logs (pure ()) t [] := by
  intro items h
  rw [Visit.remarks, List.flatMap_nil, withRemarks, List.map_nil, List.append_nil]
  exact ⟨ends_pure (), h⟩

theorem Logs.bind {x y : Run Unit} {t : Tally} {first second : List Visit} (h : Logs x t first)
    (h' : Logs y (Visit.tallyAfter t first) second) : Logs (x >>= fun _ => y) t (first ++ second) := by
  intro items hitems
  obtain ⟨hends, hlength⟩ := h items hitems
  obtain ⟨hends', hlength'⟩ := h' _ hlength
  rw [withRemarks_append] at hends' hlength'
  rw [Visit.tallyAfter_append, Visit.remarks_append]
  exact ⟨hends.bind hends', hlength'⟩

theorem Logs.under {x : Run Unit} {t : Tally} {log : List Visit} (h : Logs x t log) (index : Nat) :
    Logs x t (log.map (Visit.under index)) := by
  intro items hitems
  rw [Visit.tallyAfter_map_under, Visit.remarks_map_under]
  exact h items hitems

/-- A call of a handler with its answer, and what comes after it. -/
theorem Logs.cons {α : Type} {x : Run α} {a : α} {f : α → Run Unit} {t : Tally} {v : Visit}
    {log : List Visit}
    (h : ∀ items : List Json, t.findings = items.length →
      Ends x (t.instance items) (.ok a)
          (v.effect.tally.instance (withRemarks items v.effect.remarks)) ∧
        v.effect.tally.findings = (withRemarks items v.effect.remarks).length)
    (h' : Logs (f a) v.effect.tally log) : Logs (x >>= f) t (v :: log) := by
  intro items hitems
  obtain ⟨hends, hlength⟩ := h items hitems
  obtain ⟨hends', hlength'⟩ := h' _ hlength
  rw [withRemarks_append] at hends' hlength'
  rw [Visit.tallyAfter_cons, Visit.remarks, List.flatMap_cons]
  exact ⟨hends.bind hends', hlength'⟩

namespace RuleParts

/-- Whether all handlers of a class only report. -/
def HandlersReport (d : RuleParts) : Prop :=
  ∀ name actions, d.method? name = some actions → onlyReportsAll actions = true

variable {d : RuleParts} {methods : Methods}

theorem reports_of_handler? (reports : d.HandlersReport) {n : Node} {actions : List Action}
    (h : d.handler? n = some actions) : onlyReportsAll actions = true := by
  unfold handler? at h
  split at h
  · exact reports _ _ h
  · cases h

/-- What a walk does with a node; it answers whether it goes on to the children. -/
def descend (d : RuleParts) (methods : Methods) (n : Ast) : Run Bool :=
  if n.isNamed then d.handle methods n else pure true

theorem walk_eq (n : Ast) :
    Visitor.walk (d.handle methods) n = (d.descend methods n >>= fun goesOn =>
      if goesOn then Visitor.walkAll (d.handle methods) n.children else pure ()) := by
  obtain ⟨kind, span, named, field, text, children⟩ := n
  cases named <;> rfl

/-- A node without a handler is left as it is. -/
theorem descend_none {s : Scene} (h : d.handler? s.node = none) (i : Instance) :
    Ends (d.descend methods s.ast) i (.ok true) i := by
  unfold handler? at h
  unfold descend
  rw [s.isNamed_ast]
  split
  · rename_i hnamed
    rw [if_pos hnamed] at h
    rw [handle, s.kind_ast, h]
    exact ends_pure true
  · exact ends_pure true

/-- A node with a handler is handed to it. -/
theorem descend_some (reports : d.HandlersReport) (inherits : Inherits methods) {v : Visit}
    {t : Tally} {actions : List Action} (h : d.handler? v.scene.node = some actions)
    (heffect : v.effect = effectAll v.scene t actions) (items : List Json)
    (hitems : t.findings = items.length) :
    Ends (d.descend methods v.scene.ast) (t.instance items) (.ok !v.prunes)
        (v.effect.tally.instance (withRemarks items v.effect.remarks)) ∧
      v.effect.tally.findings = (withRemarks items v.effect.remarks).length := by
  obtain ⟨hends, hlength⟩ :=
    actAll_follows inherits v.scene actions (reports_of_handler? reports h) t items hitems
  rw [← heffect] at hends hlength
  refine ⟨?_, hlength⟩
  unfold handler? at h
  unfold descend
  rw [v.scene.isNamed_ast]
  split at h
  · rename_i hnamed
    rw [if_pos hnamed, handle, v.scene.kind_ast, h]
    refine hends.bind ?_
    rw [Visit.prunes]
    rcases v.effect.answer with _ | _ | (_ | _) | _ | _ | _ | _ | _ <;> exact ends_pure _
  · cases h

mutual

/-- The walk over a tree calls these handlers. -/
theorem walk_logs (reports : d.HandlersReport) (inherits : Inherits methods) (source : Bytes)
    (field : Option String) : (n : Node) → (t : Tally) →
      Logs (Visitor.walk (d.handle methods) (Ast.ofNodeAt source field n)) t
        (d.visits source field t n)
  | .mk label children, t => by
    have hbelow := walkAll_logs reports inherits source 0 children
    have hchildren : (Ast.ofNodeAt source field (.mk label children)).children =
        Ast.ofNodes source children := by rw [Ast.ofNodeAt, Ast.children]
    rw [walk_eq, hchildren, visits]
    cases hhandler : d.handler? (.mk label children) with
    | none =>
      intro items hitems
      obtain ⟨hends, hlength⟩ := hbelow t items hitems
      exact ⟨(descend_none (s := ⟨source, field, _⟩) hhandler _).bind hends, hlength⟩
    | some actions =>
      let s : Scene := ⟨source, field, .mk label children⟩
      let v : Visit := ⟨[], s, effectAll s t actions⟩
      -- the answer of the handler decides both whether the walk goes on and whether the log does
      refine Logs.cons (descend_some (v := v) reports inherits hhandler rfl) ?_
      cases hprunes : v.prunes with
      | true =>
        rw [if_neg (by decide), if_pos rfl]
        exact logs_nil _
      | false =>
        rw [if_pos (by decide), if_neg (by decide)]
        exact hbelow v.effect.tally

/-- The walk over the trees of a list calls these handlers. -/
theorem walkAll_logs (reports : d.HandlersReport) (inherits : Inherits methods) (source : Bytes)
    (index : Nat) : (ns : List Node) → (t : Tally) →
      Logs (Visitor.walkAll (d.handle methods) (Ast.ofNodes source ns)) t
        (d.visitsAll source index t ns)
  | [], t => by
    rw [Ast.ofNodes, Visitor.walkAll, visitsAll]
    exact logs_nil t
  | n :: rest, t => by
    rw [Ast.ofNodes, Visitor.walkAll, visitsAll]
    exact ((walk_logs reports inherits source n.field? n t).under index).bind
      (walkAll_logs reports inherits source (index + 1) rest _)

end

end RuleParts

end ScriptLint

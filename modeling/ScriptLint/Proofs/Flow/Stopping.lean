/-
Which statements stop. `Stops` says by the parts of a statement alone that control never comes out
at its end. The analysis takes exactly these statements for ones that stop, in code that is reached
and in dead code alike (`statement_stops_iff`).
-/
import ScriptLint.Proofs.Flow.Bodies
import ScriptLint.Proofs.Flow.Soundness

namespace ScriptLint.Flow

/-! ## Stopping -/

/-- A `break` or a `continue` stands in a node, outside of the functions nested in it. -/
inductive HoldsJump : Node → Prop where
  | self {n} (kind : n.kind ∈ loopExitKinds) : HoldsJump n
  | inner {n c} (function : n.kind ∉ functionKinds) (h : c ∈ n.children) (jump : HoldsJump c) :
      HoldsJump n

/-- A statement stops. -/
inductive Stops : Node → Prop where
  | jump {n} (kind : n.kind ∈ terminatorKinds) : Stops n
  | block {n s} (kind : n.kind = "statement_block") (h : s ∈ n.namedChildren)
      (statement : isSkipped s = false) (stops : Stops s) : Stops n
  /-- Both branches stop. -/
  | branches {n c e s} (kind : n.kind = "if_statement")
      (consequence : n.child? "consequence" = some c) (first : Stops c)
      (alternative : n.child? "alternative" = some e) (h : s ∈ e.namedChildren)
      (statement : isSkipped s = false) (second : Stops s) : Stops n
  | finalizer {n f b} (kind : n.kind = "try_statement") (finalizer : n.child? "finalizer" = some f)
      (body : f.child? "body" = some b) (stops : Stops b) : Stops n
  | unhandled {n b} (kind : n.kind = "try_statement") (body : n.child? "body" = some b)
      (stops : Stops b) (handler : n.child? "handler" = none) : Stops n
  | handled {n b h c} (kind : n.kind = "try_statement") (body : n.child? "body" = some b)
      (stops : Stops b) (handler : n.child? "handler" = some h) (caught : h.child? "body" = some c)
      (handles : Stops c) : Stops n
  /-- A loop that runs at least once, with a body that stops and nothing in it that could leave the
  loop or go on with it. -/
  | loop {n b} (kind : n.kind = "do_statement") (body : n.child? "body" = some b) (stops : Stops b)
      (jumps : ¬HoldsJump b) : Stops n

/-- One of some statements stops. -/
def AnyStops (ns : List Node) : Prop := ∃ s ∈ ns, isSkipped s = false ∧ Stops s

/-- There is a statement under a field, and it stops. -/
def StopsAt (n : Node) (field : String) : Prop := ∃ c, n.child? field = some c ∧ Stops c

variable {dead : Bool} {n s : Node} {ns : List Node}

theorem not_anyStops_nil : ¬AnyStops [] := fun ⟨_, hs, _⟩ => nomatch hs

theorem anyStops_cons_iff : AnyStops (n :: ns) ↔ (isSkipped n = false ∧ Stops n) ∨ AnyStops ns := by
  simp [AnyStops]

/-! ## Kinds of statements -/

theorem stops_block_iff (kind : n.kind = "statement_block") :
    Stops n ↔ AnyStops n.namedChildren := by
  constructor
  · intro h
    cases h with
    | block _ h statement stops => exact ⟨_, h, statement, stops⟩
    | _ => simp_all [terminatorKinds]
  · rintro ⟨s, h, statement, stops⟩
    exact .block kind h statement stops

theorem stops_if_iff (kind : n.kind = "if_statement") : Stops n ↔ StopsAt n "consequence" ∧
    ∃ e, n.child? "alternative" = some e ∧ AnyStops e.namedChildren := by
  constructor
  · intro h
    cases h with
    | branches _ consequence first alternative h statement second =>
      exact ⟨⟨_, consequence, first⟩, _, alternative, _, h, statement, second⟩
    | _ => simp_all [terminatorKinds]
  · rintro ⟨⟨c, consequence, first⟩, e, alternative, s, h, statement, second⟩
    exact .branches kind consequence first alternative h statement second

theorem stops_try_iff (kind : n.kind = "try_statement") : Stops n ↔
    (∃ f, n.child? "finalizer" = some f ∧ StopsAt f "body") ∨ StopsAt n "body" ∧
      ∀ h, n.child? "handler" = some h → StopsAt h "body" := by
  constructor
  · intro h
    cases h with
    | finalizer _ finalizer body stops => exact .inl ⟨_, finalizer, _, body, stops⟩
    | unhandled _ body stops handler =>
      exact .inr ⟨⟨_, body, stops⟩, fun h hh => nomatch handler.symm.trans hh⟩
    | handled _ body stops handler caught handles =>
      refine .inr ⟨⟨_, body, stops⟩, fun h hh => ?_⟩
      obtain rfl := Option.some.inj (handler.symm.trans hh)
      exact ⟨_, caught, handles⟩
    | _ => simp_all [terminatorKinds]
  · rintro (⟨f, finalizer, b, body, stops⟩ | ⟨⟨b, body, stops⟩, handles⟩)
    · exact .finalizer kind finalizer body stops
    · cases handler : n.child? "handler" with
      | none => exact .unhandled kind body stops handler
      | some h =>
        obtain ⟨c, caught, handles⟩ := handles h handler
        exact .handled kind body stops handler caught handles

theorem stops_do_iff (kind : n.kind = "do_statement") :
    Stops n ↔ ∃ b, n.child? "body" = some b ∧ Stops b ∧ ¬HoldsJump b := by
  constructor
  · intro h
    cases h with
    | loop _ body stops jumps => exact ⟨_, body, stops, jumps⟩
    | _ => simp_all [terminatorKinds]
  · rintro ⟨b, body, stops, jumps⟩
    exact .loop kind body stops jumps

/-- Only jumps, blocks, branches, attempts and loops that run at least once may stop. -/
theorem not_stops_of_kind (kind : n.kind ∉ terminatorKinds ++
    ["statement_block", "if_statement", "try_statement", "do_statement"]) : ¬Stops n := by
  intro h
  refine kind ?_
  cases h with
  | jump kind => exact List.mem_append_left _ kind
  | _ => simp_all

theorem holdsJump_iff : HoldsJump n ↔ exitsLoop n = true := by
  constructor
  · intro h
    induction h with
    | self kind => exact exitsLoop_iff.2 (.inl kind)
    | inner function h _ ih => exact exitsLoop_of_child function h ih
  · intro h
    induction hs : sizeOf n using Nat.strongRecOn generalizing n with
    | ind k ih =>
      rcases exitsLoop_iff.1 h with kind | ⟨function, c, hc, hexits⟩
      · exact .self kind
      · exact .inner function hc (ih _ (hs ▸ Node.sizeOf_lt_of_mem hc) hexits rfl)

/-! ## What the analysis says -/

/-- The analysis says of a statement, as dead code or not, whether it stops. -/
def Told (n : Node) : Prop := ∀ dead, (statement dead n).stops = true ↔ Stops n

theorem block_stops_iff (h : ∀ s ∈ ns, Told s) (dead : Bool) :
    (block dead ns).stops = true ↔ AnyStops ns := by
  induction ns generalizing dead with
  | nil => simp [block_nil, not_anyStops_nil]
  | cons n rest ih =>
    have hrest := ih (fun s hs => h s (List.mem_cons_of_mem _ hs))
    cases hn : isSkipped n with
    | true => rw [block_skipped hn, hrest, anyStops_cons_iff, hn]; simp
    | false =>
      rw [block_cons hn, Bool.or_eq_true, visit_stops, h n List.mem_cons_self, hrest,
        anyStops_cons_iff, hn]
      simp

theorem alternatives_stops_iff (h : ∀ s ∈ ns, Told s) (dead : Bool) :
    (alternatives dead ns).stops = true ↔ AnyStops ns := by
  induction ns with
  | nil => simp [alternatives_nil, not_anyStops_nil]
  | cons n rest ih =>
    have hrest := ih (fun s hs => h s (List.mem_cons_of_mem _ hs))
    cases hn : isSkipped n with
    | true => rw [alternatives_skipped hn, hrest, anyStops_cons_iff, hn]; simp
    | false =>
      rw [alternatives_cons hn, Bool.or_eq_true, visit_stops, h n List.mem_cons_self, hrest,
        anyStops_cons_iff, hn]
      simp

theorem partAt_stops_iff {field : String} (h : ∀ c ∈ n.children, Told c) (dead : Bool) :
    (partAt dead n field).stops = true ↔ StopsAt n field := by
  cases hc : n.child? field with
  | none => simp [partAt_none hc, StopsAt, hc]
  | some c =>
    rw [partAt_some hc, visit_stops, h c (Node.mem_children_of_child? hc)]
    simp [StopsAt, hc]

theorem handlerOf_stops_iff (h : ∀ c ∈ n.children, ∀ d ∈ c.children, Told d) (dead : Bool) :
    (handlerOf dead n).stops = true ↔ ∀ c, n.child? "handler" = some c → StopsAt c "body" := by
  cases hc : n.child? "handler" with
  | none => simp [handlerOf, visitClause_none hc]
  | some c =>
    rw [handlerOf_some hc, partAt_stops_iff (h c (Node.mem_children_of_child? hc))]
    simp

theorem finalizerOf_stops_iff (h : ∀ c ∈ n.children, ∀ d ∈ c.children, Told d) (dead : Bool) :
    (finalizerOf dead n).stops = true ↔ ∃ c, n.child? "finalizer" = some c ∧ StopsAt c "body" := by
  cases hc : n.child? "finalizer" with
  | none => simp [finalizerOf_none hc]
  | some c =>
    rw [finalizerOf_some hc, partAt_stops_iff (h c (Node.mem_children_of_child? hc))]
    simp

/-- The analysis takes a statement for one that stops exactly if it stops, in dead code or not. -/
theorem statement_stops_iff (n : Node) : Told n := by
  induction hs : sizeOf n using Nat.strongRecOn generalizing n with
  | ind k ih =>
    intro dead
    have child : ∀ c ∈ n.children, Told c := fun c hc => ih _ (hs ▸ Node.sizeOf_lt_of_mem hc) c rfl
    have grandchild : ∀ c ∈ n.children, ∀ d ∈ c.children, Told d := fun c hc d hd =>
      ih _ (hs ▸ Nat.lt_trans (Node.sizeOf_lt_of_mem hd) (Node.sizeOf_lt_of_mem hc)) d rfl
    rcases kind_cases n with kind | kind | kind | kind | kind | kind | kind | kind
    · rw [statement_terminator kind]
      exact iff_of_true rfl (.jump kind)
    · rw [statement_block kind, stops_block_iff kind,
        block_stops_iff fun s hs => child s (Node.mem_children_of_mem_namedChildren hs)]
    · rw [stops_if_iff kind]
      cases he : n.child? "alternative" with
      | none => simp [statement_if kind he]
      | some e =>
        have hlist : ∀ s ∈ e.namedChildren, Told s := fun s hs =>
          grandchild e (Node.mem_children_of_child? he) s
            (Node.mem_children_of_mem_namedChildren hs)
        rw [statement_if_else kind he, Bool.and_eq_true, partAt_stops_iff child,
          alternatives_stops_iff hlist]
        simp
    · rw [statement_try kind, stops_try_iff kind, Bool.or_eq_true, Bool.and_eq_true,
        partAt_stops_iff child, handlerOf_stops_iff grandchild, finalizerOf_stops_iff grandchild]
    · have hstops : (statement dead n).stops = false := by
        cases hb : n.child? "body" with
        | none => rw [statement_switch_none kind hb]
        | some b => rw [statement_switch kind hb]
      exact iff_of_false (by rw [hstops]; decide) (not_stops_of_kind (by rw [kind]; decide))
    · rw [statement_do kind, stops_do_iff kind, Bool.and_eq_true, partAt_stops_iff child, StopsAt]
      cases hb : n.child? "body" with
      | none => simp
      | some b => simp [holdsJump_iff]
    · have hkinds : ∀ kind ∈ openKinds, kind ∉ terminatorKinds ++
          ["statement_block", "if_statement", "try_statement", "do_statement"] := by decide
      rw [statement_open kind]
      exact iff_of_false Bool.false_ne_true (not_stops_of_kind (hkinds _ kind))
    · have hkinds : ∀ kind ∈ terminatorKinds ++
          ["statement_block", "if_statement", "try_statement", "do_statement"],
          (terminatorKinds ++ ["statement_block", "if_statement", "try_statement",
            "switch_statement", "do_statement"] ++ openKinds).contains kind = true := by decide
      rw [statement_simple kind]
      refine iff_of_false Bool.false_ne_true (not_stops_of_kind fun h => ?_)
      rw [isSimple, hkinds _ h] at kind
      cases kind

end ScriptLint.Flow

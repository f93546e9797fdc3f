/-
Where the marks of the analysis come from. A mark is made for a statement that stands in the
program itself or in the body of a function or of a static block, not in one nested in it, and it
is made when the list of statements of this body is analysed (`mem_marks`).
-/
import ScriptLint.Proofs.Flow.Statements
import Mathlib.Logic.Relation

namespace ScriptLint

/-! ## Descendants -/

namespace Node

theorem mem_preorder_self (n : Node) : n ∈ n.preorder := by
  rw [preorder_eq]
  exact List.mem_cons_self

theorem mem_preorder_child {c n : Node} (h : c ∈ n.children) : c ∈ n.preorder := by
  rw [preorder_eq]
  exact List.mem_cons_of_mem _ (List.mem_flatMap.2 ⟨c, h, c.mem_preorder_self⟩)

theorem mem_preorder_trans {a b c : Node} (h : c ∈ b.preorder) (h' : b ∈ a.preorder) :
    c ∈ a.preorder := by
  induction hs : sizeOf a using Nat.strongRecOn generalizing a with
  | ind k ih =>
    rw [preorder_eq] at h'
    rcases List.mem_cons.1 h' with rfl | hb
    · exact h
    · obtain ⟨d, hd, hb⟩ := List.mem_flatMap.1 hb
      have := ih _ (hs ▸ sizeOf_lt_of_mem hd) hb rfl
      rw [preorder_eq]
      exact List.mem_cons_of_mem _ (List.mem_flatMap.2 ⟨d, hd, this⟩)

theorem mem_preorder_named {a b c : Node} (h : c ∈ b.namedChildren) (h' : b ∈ a.preorder) :
    c ∈ a.preorder :=
  mem_preorder_trans (mem_preorder_child (mem_children_of_mem_namedChildren h)) h'

/-- Whether a node lies properly inside another. -/
structure Inside (n e : Node) : Prop where
  mem : e ∈ n.preorder
  smaller : sizeOf e < sizeOf n

theorem inside_child {c n : Node} (h : c ∈ n.children) : n.Inside c :=
  ⟨mem_preorder_child h, sizeOf_lt_of_mem h⟩

theorem Inside.trans {a b c : Node} (h : a.Inside b) (h' : b.Inside c) : a.Inside c :=
  ⟨mem_preorder_trans h'.mem h.mem, Nat.lt_trans h'.smaller h.smaller⟩

end Node

namespace Flow

/-! ## Statements in statements -/

/-- A statement stands immediately in another one. -/
inductive Part : Node → Node → Prop where
  | item {n s} (kind : n.kind = "statement_block") (h : s ∈ n.namedChildren) : Part n s
  | consequence {n s} (kind : n.kind = "if_statement") (h : n.child? "consequence" = some s) :
      Part n s
  | alternative {n e s} (kind : n.kind = "if_statement") (clause : n.child? "alternative" = some e)
      (h : s ∈ e.namedChildren) : Part n s
  | body {n s} (kind : n.kind ∈ openKinds ++ ["do_statement", "try_statement"])
      (h : n.child? "body" = some s) : Part n s
  | clause {n k s} (field : String) (kind : n.kind = "try_statement")
      (hfield : field ∈ ["handler", "finalizer"]) (clause : n.child? field = some k)
      (h : k.child? "body" = some s) : Part n s
  | case {n b k s} (kind : n.kind = "switch_statement") (body : n.child? "body" = some b)
      (clause : k ∈ b.namedChildren) (h : s ∈ k.childrenAt "body") : Part n s

theorem Part.inside {n s : Node} (h : Part n s) : n.Inside s := by
  cases h with
  | item _ h => exact Node.inside_child (Node.mem_children_of_mem_namedChildren h)
  | consequence _ h | body _ h => exact Node.inside_child (Node.mem_children_of_child? h)
  | alternative _ clause h =>
    exact (Node.inside_child (Node.mem_children_of_child? clause)).trans
      (Node.inside_child (Node.mem_children_of_mem_namedChildren h))
  | clause _ _ _ clause h =>
    exact (Node.inside_child (Node.mem_children_of_child? clause)).trans
      (Node.inside_child (Node.mem_children_of_child? h))
  | case _ body clause h =>
    exact ((Node.inside_child (Node.mem_children_of_child? body)).trans
      (Node.inside_child (Node.mem_children_of_mem_namedChildren clause))).trans
        (Node.inside_child (Node.mem_children_of_mem_childrenAt h))

/-- A statement stands in a list of statements, perhaps in statements of it, but not in a function
nested in them. -/
def StandsIn (body : List Node) (x : Node) : Prop :=
  ∃ s ∈ body, Relation.ReflTransGen Part s x

/-- The statements of a function or a static block inside a node. -/
inductive InnerBody (n : Node) : List Node → Prop where
  | mk {f b} (h : f ∈ n.preorder) (enters : entersBody f = true)
      (body : f.child? "body" = some b) (kind : b.kind = "statement_block") :
      InnerBody n b.namedChildren

/-- The lists of statements that are entered on their own: that of the program and those of the
functions and static blocks in it. -/
def IsBody (root : Node) (body : List Node) : Prop :=
  body = root.namedChildren ∨ InnerBody root body

theorem InnerBody.mono {n e : Node} {body : List Node} (h : InnerBody e body)
    (he : e ∈ n.preorder) : InnerBody n body := by
  obtain ⟨hf, enters, hbody, kind⟩ := h
  exact .mk (Node.mem_preorder_trans hf he) enters hbody kind

/-! ## One step of the analysis -/

/-- Some marks are among others, and a mark is one of them. -/
structure Among (m : Mark) (first second : List Mark) : Prop where
  mem : m ∈ first
  subset : ∀ m' ∈ first, m' ∈ second

theorem Among.trans {m : Mark} {first second third : List Mark} (h : Among m first second)
    (sub : ∀ m' ∈ second, m' ∈ third) : Among m first third :=
  ⟨h.mem, fun m' hm => sub m' (h.subset m' hm)⟩

theorem Among.left {m : Mark} {first second third : List Mark} (h : Among m first second) :
    Among m first (second ++ third) := h.trans fun _ hm => List.mem_append_left _ hm

theorem Among.right {m : Mark} {first second third : List Mark} (h : Among m first third) :
    Among m first (second ++ third) := h.trans fun _ hm => List.mem_append_right _ hm

theorem Among.self {m : Mark} {first : List Mark} (h : m ∈ first) : Among m first first :=
  ⟨h, fun _ hm => hm⟩

variable {m : Mark} {dead : Bool} {n : Node} {ns : List Node}

theorem mem_block (h : m ∈ (block dead ns).marks) :
    ∃ s ∈ ns, isSkipped s = false ∧
      ∃ dead', Among m (visit dead' s).marks (block dead ns).marks := by
  induction ns generalizing dead with
  | nil =>
    rw [block_nil] at h
    cases h
  | cons n rest ih =>
    cases hn : isSkipped n with
    | true =>
      rw [block_skipped hn] at h ⊢
      obtain ⟨s, hs, hskip, d, hm⟩ := ih h
      exact ⟨s, List.mem_cons_of_mem _ hs, hskip, d, hm⟩
    | false =>
      rw [block_cons hn] at h ⊢
      rcases List.mem_append.1 h with h | h
      · exact ⟨n, List.mem_cons_self, hn, dead, (Among.self h).left⟩
      · obtain ⟨s, hs, hskip, d, hm⟩ := ih h
        exact ⟨s, List.mem_cons_of_mem _ hs, hskip, d, hm.right⟩

theorem mem_alternatives_iff : m ∈ (alternatives dead ns).marks ↔
    ∃ s ∈ ns, isSkipped s = false ∧ m ∈ (visit dead s).marks := by
  induction ns with
  | nil => simp [alternatives_nil]
  | cons n rest ih =>
    cases hn : isSkipped n with
    | true => simp [alternatives_skipped hn, hn, ih]
    | false => simp [alternatives_cons hn, hn, ih]

theorem mem_alternatives (h : m ∈ (alternatives dead ns).marks) :
    ∃ s ∈ ns, ∃ dead', Among m (visit dead' s).marks (alternatives dead ns).marks := by
  obtain ⟨s, hs, hskip, hm⟩ := mem_alternatives_iff.1 h
  exact ⟨s, hs, dead, hm, fun m' hm' => mem_alternatives_iff.2 ⟨s, hs, hskip, hm'⟩⟩

theorem mem_cases_iff : m ∈ cases dead ns ↔ ∃ k ∈ ns, isSkipped k = false ∧
    (m ∈ functionsAt k ["value"] ∨ m ∈ (block dead (k.childrenAt "body")).marks) := by
  induction ns with
  | nil => simp [cases_nil]
  | cons n rest ih =>
    cases hn : isSkipped n with
    | true => simp [cases_skipped hn, hn, ih]
    | false => simp [cases_cons hn, hn, ih, or_assoc]

theorem mem_cases (h : m ∈ cases dead ns) :
    ∃ k ∈ ns, Among m (functionsAt k ["value"]) (cases dead ns) ∨
      ∃ s ∈ k.childrenAt "body", ∃ dead', Among m (visit dead' s).marks (cases dead ns) := by
  obtain ⟨k, hk, hskip, hvalue | hbody⟩ := mem_cases_iff.1 h
  · exact ⟨k, hk, .inl ⟨hvalue, fun m' hm' => mem_cases_iff.2 ⟨k, hk, hskip, .inl hm'⟩⟩⟩
  · obtain ⟨s, hs, -, d, hm⟩ := mem_block hbody
    exact ⟨k, hk, .inr ⟨s, hs, d, hm.trans fun m' hm' =>
      mem_cases_iff.2 ⟨k, hk, hskip, .inr hm'⟩⟩⟩

theorem mem_functionsAt_iff {fields : List String} : m ∈ functionsAt n fields ↔
    ∃ field ∈ fields, ∃ e, n.child? field = some e ∧ m ∈ functions e := by
  simp [functionsAt_eq]

theorem mem_functionsAt {fields : List String} (h : m ∈ functionsAt n fields) :
    ∃ e, n.Inside e ∧ Among m (functions e) (functionsAt n fields) := by
  obtain ⟨field, hfield, e, he, hm⟩ := mem_functionsAt_iff.1 h
  exact ⟨e, Node.inside_child (Node.mem_children_of_child? he), hm, fun m' hm' =>
    mem_functionsAt_iff.2 ⟨field, hfield, e, he, hm'⟩⟩

theorem mem_partAt_iff {field : String} : m ∈ (partAt dead n field).marks ↔
    ∃ s, n.child? field = some s ∧ m ∈ (visit dead s).marks := by
  cases hs : n.child? field with
  | none => simp [partAt_none hs]
  | some s => simp [partAt_some hs]

theorem mem_partAt {field : String} (h : m ∈ (partAt dead n field).marks) :
    ∃ s, n.child? field = some s ∧ Among m (visit dead s).marks (partAt dead n field).marks := by
  obtain ⟨s, hs, hm⟩ := mem_partAt_iff.1 h
  exact ⟨s, hs, hm, fun m' hm' => mem_partAt_iff.2 ⟨s, hs, hm'⟩⟩

theorem mem_visitClause_iff {field : String} {stops : Bool} :
    m ∈ ((visitClause dead n field).getD ⟨stops, []⟩).marks ↔
      ∃ k, n.child? field = some k ∧ m ∈ (partAt dead k "body").marks := by
  cases hk : n.child? field with
  | none => simp [visitClause_none hk]
  | some k => simp [visitClause_some hk]

theorem mem_visitClause {field : String} {stops : Bool}
    (h : m ∈ ((visitClause dead n field).getD ⟨stops, []⟩).marks) :
    ∃ k s, n.child? field = some k ∧ k.child? "body" = some s ∧
      Among m (visit dead s).marks ((visitClause dead n field).getD ⟨stops, []⟩).marks := by
  obtain ⟨k, hk, hm⟩ := mem_visitClause_iff.1 h
  obtain ⟨s, hs, hamong⟩ := mem_partAt hm
  exact ⟨k, s, hk, hs, hamong.trans fun m' hm' => mem_visitClause_iff.2 ⟨k, hk, hm'⟩⟩

/-- The kinds of statements that the analysis tells apart. -/
theorem kind_cases (n : Node) :
    n.kind ∈ terminatorKinds ∨ n.kind = "statement_block" ∨ n.kind = "if_statement" ∨
      n.kind = "try_statement" ∨ n.kind = "switch_statement" ∨ n.kind = "do_statement" ∨
      n.kind ∈ openKinds ∨ isSimple n = true := by
  cases h : isSimple n with
  | true => simp
  | false =>
    simp only [isSimple, Bool.not_eq_false', List.contains_iff_mem, List.mem_append, List.mem_cons,
      List.not_mem_nil, or_false] at h
    tauto

/-- A mark of a statement comes from the functions in its expressions or from a statement that
stands immediately in it. -/
theorem mem_statement (h : m ∈ (statement dead n).marks) :
    Among m (functions n) (statement dead n).marks ∨
      (∃ e, n.Inside e ∧ Among m (functions e) (statement dead n).marks) ∨
      ∃ s, Part n s ∧ ∃ dead', Among m (visit dead' s).marks (statement dead n).marks := by
  -- one case for each equation of the analysis, in the order of `kind_cases`
  rcases kind_cases n with kind | kind | kind | kind | kind | kind | kind | kind
  · rw [statement_terminator kind] at h ⊢
    exact .inl (.self h)
  · rw [statement_block kind] at h ⊢
    obtain ⟨s, hs, -, d, hm⟩ := mem_block h
    exact .inr (.inr ⟨s, .item kind hs, d, hm⟩)
  · cases he : n.child? "alternative" with
    | none =>
      rw [statement_if kind he] at h ⊢
      rcases List.mem_append.1 h with h | h
      · obtain ⟨e, hin, hm⟩ := mem_functionsAt h
        exact .inr (.inl ⟨e, hin, hm.left⟩)
      · obtain ⟨s, hs, hm⟩ := mem_partAt h
        exact .inr (.inr ⟨s, .consequence kind hs, dead, hm.right⟩)
    | some e =>
      rw [statement_if_else kind he] at h ⊢
      rcases List.mem_append.1 h with h | h
      · rcases List.mem_append.1 h with h | h
        · obtain ⟨e, hin, hm⟩ := mem_functionsAt h
          exact .inr (.inl ⟨e, hin, hm.left.left⟩)
        · obtain ⟨s, hs, hm⟩ := mem_partAt h
          exact .inr (.inr ⟨s, .consequence kind hs, dead, hm.right.left⟩)
      · obtain ⟨s, hs, d, hm⟩ := mem_alternatives h
        exact .inr (.inr ⟨s, .alternative kind he hs, d, hm.right⟩)
  · rw [statement_try kind] at h ⊢
    rcases List.mem_append.1 h with h | h
    · rcases List.mem_append.1 h with h | h
      · obtain ⟨s, hs, hm⟩ := mem_partAt h
        exact .inr (.inr ⟨s, .body (by rw [kind]; decide) hs, dead, hm.left.left⟩)
      · obtain ⟨k, s, hk, hs, hm⟩ := mem_visitClause h
        exact .inr (.inr ⟨s, .clause "handler" kind (by decide) hk hs, dead, hm.right.left⟩)
    · obtain ⟨k, s, hk, hs, hm⟩ := mem_visitClause h
      exact .inr (.inr ⟨s, .clause "finalizer" kind (by decide) hk hs, dead, hm.right⟩)
  · cases hb : n.child? "body" with
    | none =>
      rw [statement_switch_none kind hb] at h ⊢
      obtain ⟨e, hin, hm⟩ := mem_functionsAt h
      exact .inr (.inl ⟨e, hin, hm⟩)
    | some b =>
      rw [statement_switch kind hb] at h ⊢
      rcases List.mem_append.1 h with h | h
      · obtain ⟨e, hin, hm⟩ := mem_functionsAt h
        exact .inr (.inl ⟨e, hin, hm.left⟩)
      · obtain ⟨k, hk, hm | ⟨s, hs, d, hm⟩⟩ := mem_cases h
        · obtain ⟨e, hin, hm'⟩ := mem_functionsAt hm.mem
          have hcase := (Node.inside_child (Node.mem_children_of_child? hb)).trans
            (Node.inside_child (Node.mem_children_of_mem_namedChildren hk))
          exact .inr (.inl ⟨e, hcase.trans hin, (hm'.trans hm.subset).right⟩)
        · exact .inr (.inr ⟨s, .case kind hb hk hs, d, hm.right⟩)
  · rw [statement_do kind] at h ⊢
    rcases List.mem_append.1 h with h | h
    · obtain ⟨s, hs, hm⟩ := mem_partAt h
      exact .inr (.inr ⟨s, .body (by rw [kind]; decide) hs, dead, hm.left⟩)
    · obtain ⟨e, hin, hm⟩ := mem_functionsAt h
      exact .inr (.inl ⟨e, hin, hm.right⟩)
  · rw [statement_open kind] at h ⊢
    rcases List.mem_append.1 h with h | h
    · obtain ⟨e, hin, hm⟩ := mem_functionsAt h
      exact .inr (.inl ⟨e, hin, hm.left⟩)
    · obtain ⟨s, hs, hm⟩ := mem_partAt h
      exact .inr (.inr ⟨s, .body (List.mem_append_left _ kind) hs, dead, hm.right⟩)
  · rw [statement_simple kind] at h ⊢
    exact .inl (.self h)

/-- A mark of functions comes from a function further inside, or from the body of the node. -/
theorem mem_functions (h : m ∈ functions n) :
    (∃ e, n.Inside e ∧ Among m (functions e) (functions n)) ∨
      ∃ body, InnerBody n body ∧ functions n = (block false body).marks ∧
        ∃ s ∈ body, n.Inside s ∧ ∃ dead, Among m (visit dead s).marks (functions n) := by
  cases henters : entersBody n with
  | false =>
    rw [functions_children henters] at h ⊢
    obtain ⟨c, hc, h⟩ := List.mem_flatMap.1 h
    exact .inl ⟨c, Node.inside_child hc, h, fun m' hm' => List.mem_flatMap.2 ⟨c, hc, hm'⟩⟩
  | true =>
    cases hb : n.child? "body" with
    | none =>
      rw [functions_noBody henters hb] at h
      cases h
    | some b =>
      have hchild := Node.inside_child (Node.mem_children_of_child? hb)
      rw [functions_body henters hb] at h ⊢
      split at h
      · rename_i hkind
        rw [if_pos hkind]
        obtain ⟨s, hs, -, d, hamong⟩ := mem_block h
        exact .inr ⟨b.namedChildren, .mk n.mem_preorder_self henters hb (by simpa using hkind), rfl,
          s, hs, hchild.trans (Node.inside_child (Node.mem_children_of_mem_namedChildren hs)), d,
          hamong⟩
      · rename_i hkind
        rw [if_neg hkind]
        exact .inl ⟨b, hchild, .self h⟩

/-! ## The whole analysis -/

/-- What holds of the mark that is made for each statement holds of all marks. -/
theorem forall_marks {P : Mark → Prop} (made : ∀ dead n, P ⟨n, dead, (statement dead n).stops⟩)
    (n : Node) :
    (∀ m ∈ functions n, P m) ∧ ∀ dead, ∀ m ∈ (visit dead n).marks, P m := by
  -- the two go together: a statement has functions in it, and a function statements
  induction hs : sizeOf n using Nat.strongRecOn generalizing n with
  | ind k ih =>
    have inner : ∀ e, n.Inside e →
        (∀ m ∈ functions e, P m) ∧ ∀ dead, ∀ m ∈ (visit dead e).marks, P m :=
      fun e he => ih _ (hs ▸ he.smaller) e rfl
    have ofFunctions : ∀ m ∈ functions n, P m := by
      intro m hm
      rcases mem_functions hm with ⟨e, he, hamong⟩ | ⟨body, -, -, s, -, hin, d, hamong⟩
      · exact (inner e he).1 m hamong.mem
      · exact (inner s hin).2 d m hamong.mem
    refine ⟨ofFunctions, fun dead m hm => ?_⟩
    rw [visit_marks] at hm
    rcases List.mem_append.1 hm with hm | hm
    · rcases mem_statement hm with hamong | ⟨e, he, hamong⟩ | ⟨s, hpart, d, hamong⟩
      · exact ofFunctions m hamong.mem
      · exact (inner e he).1 m hamong.mem
      · exact (inner s hpart.inside).2 d m hamong.mem
    · rw [List.mem_singleton.1 hm]
      exact made dead n

/-- A mark says of its statement what the analysis says of it. -/
theorem stops_of_mem_marks {root : Node} (h : m ∈ marks root) :
    m.stops = (statement m.unreachable m.node).stops := by
  obtain ⟨s, -, -, d, hamong⟩ := mem_block h
  exact (forall_marks (P := fun m => m.stops = (statement m.unreachable m.node).stops)
    (fun _ _ => rfl) s).2 d m hamong.mem

/-- A mark comes from the analysis of a body inside a node: its statement stands in this body, and
the marks of the body are among some marks. -/
def FromBody (marks : List Mark) (n : Node) (m : Mark) : Prop :=
  ∃ body, InnerBody n body ∧ StandsIn body m.node ∧ Among m (block false body).marks marks

theorem FromBody.mono {first second : List Mark} {e : Node} (h : FromBody first e m)
    (he : e ∈ n.preorder) (sub : ∀ m' ∈ first, m' ∈ second) : FromBody second n m := by
  obtain ⟨body, hbody, hstands, hm⟩ := h
  exact ⟨body, hbody.mono he, hstands, hm.trans sub⟩

/-- The marks of functions come from their bodies; the marks of a statement come from there too, or
their statements stand in it. -/
theorem mem_functions_and_visit (n : Node) :
    (∀ m ∈ functions n, FromBody (functions n) n m) ∧
      ∀ dead, ∀ m ∈ (visit dead n).marks,
        Relation.ReflTransGen Part n m.node ∨ FromBody (visit dead n).marks n m := by
  induction hs : sizeOf n using Nat.strongRecOn generalizing n with
  | ind k ih =>
    have inner : ∀ e, n.Inside e → (∀ m ∈ functions e, FromBody (functions e) e m) ∧
        ∀ dead, ∀ m ∈ (visit dead e).marks,
          Relation.ReflTransGen Part e m.node ∨ FromBody (visit dead e).marks e m :=
      fun e he => ih _ (hs ▸ he.smaller) e rfl
    have ofFunctions : ∀ m ∈ functions n, FromBody (functions n) n m := by
      intro m hm
      rcases mem_functions hm with ⟨e, he, hamong⟩ | ⟨body, hbody, heq, s, hs', hin, d, hamong⟩
      · exact ((inner e he).1 m hamong.mem).mono he.mem hamong.subset
      · -- a statement of the body itself, or of a body further inside
        rcases (inner s hin).2 d m hamong.mem with hstands | hfrom
        · exact ⟨body, hbody, ⟨s, hs', hstands⟩, heq ▸ .self hm⟩
        · exact hfrom.mono hin.mem hamong.subset
    refine ⟨ofFunctions, fun dead m hm => ?_⟩
    rw [visit_marks] at hm ⊢
    rcases List.mem_append.1 hm with hm | hm
    · have sub : ∀ m' ∈ (statement dead n).marks,
          m' ∈ (statement dead n).marks ++ [⟨n, dead, (statement dead n).stops⟩] :=
        fun m' hm' => List.mem_append_left _ hm'
      rcases mem_statement hm with hamong | ⟨e, he, hamong⟩ | ⟨s, hpart, d, hamong⟩
      · exact .inr ((ofFunctions m hamong.mem).mono n.mem_preorder_self
          (hamong.trans sub).subset)
      · exact .inr (((inner e he).1 m hamong.mem).mono he.mem (hamong.trans sub).subset)
      · rcases (inner s hpart.inside).2 d m hamong.mem with hstands | hfrom
        · exact .inl (.head hpart hstands)
        · exact .inr (hfrom.mono hpart.inside.mem (hamong.trans sub).subset)
    · rw [List.mem_singleton.1 hm]
      exact .inl .refl

/-- Every mark of a program comes from the analysis of one of its bodies, in which its statement
stands. -/
theorem mem_marks {root : Node} (h : m ∈ marks root) :
    ∃ body, IsBody root body ∧ StandsIn body m.node ∧
      Among m (block false body).marks (marks root) := by
  obtain ⟨s, hs, -, d, hamong⟩ := mem_block h
  have hchild := Node.mem_children_of_mem_namedChildren hs
  rcases (mem_functions_and_visit s).2 d m hamong.mem with hstands | hfrom
  · exact ⟨root.namedChildren, .inl rfl, ⟨s, hs, hstands⟩, .self h⟩
  · obtain ⟨body, hbody, hstands, hm⟩ := hfrom
    exact ⟨body, .inr (hbody.mono (Node.mem_preorder_child hchild)), hstands,
      hm.trans hamong.subset⟩

end Flow

end ScriptLint

/-
What the facts mean. `Stands` follows a statement from the list of a body down through the
statements around it, and keeps what stands before each of them in its list; `Entered` gives the
bodies on which the analysis starts. A statement that stands in such a body has a mark, which says
that it stops if it does, and that it is unreachable if something before it, or before a statement
around it, stops (`mark_of_stands`), and every mark is one of these (`isRight_of_mem_marks`). So
where the statements start at different offsets the facts say just this (`ofProgram_exact`).
-/
import ScriptLint.Proofs.Flow.Coverage
import ScriptLint.Proofs.Flow.Stopping

namespace ScriptLint.Flow

/-! ## Statements in statements -/

/-- A statement stands by itself in another one: as a branch, as the body of a loop or of what bears
a label or an object, or as the body of an attempt, of its handler or of its finalizer. -/
inductive Holds : Node → Node → Prop where
  | consequence {n s} (kind : n.kind = "if_statement") (h : n.child? "consequence" = some s) :
      Holds n s
  | alternative {n e s} (kind : n.kind = "if_statement") (clause : n.child? "alternative" = some e)
      (h : s ∈ e.namedChildren) (statement : isSkipped s = false) : Holds n s
  | body {n s} (kind : n.kind ∈ openKinds ++ ["do_statement", "try_statement"])
      (h : n.child? "body" = some s) : Holds n s
  | clause {n k s} (field : String) (kind : n.kind = "try_statement")
      (hfield : field ∈ ["handler", "finalizer"]) (clause : n.child? field = some k)
      (h : k.child? "body" = some s) : Holds n s

/-- A list of statements stands in a statement: that of a block or of a case. -/
inductive HoldsList : Node → List Node → Prop where
  | block {n} (kind : n.kind = "statement_block") : HoldsList n n.namedChildren
  | case {n b k} (kind : n.kind = "switch_statement") (body : n.child? "body" = some b)
      (clause : k ∈ b.namedChildren) (statement : isSkipped k = false) :
      HoldsList n (k.childrenAt "body")

/-- A node is searched for functions when a statement is analysed: the statement itself if there are
no statements in it, else its expressions. -/
inductive Searches : Node → Node → Prop where
  | simple {n} (kind : n.kind ∈ terminatorKinds ∨ isSimple n = true) : Searches n n
  | head {n e} (field : String) (hfield : (field, .functions) ∈ followed n.kind)
      (h : n.child? field = some e) : Searches n e
  | case {n b k e} (kind : n.kind = "switch_statement") (body : n.child? "body" = some b)
      (clause : k ∈ b.namedChildren) (statement : isSkipped k = false)
      (h : k.child? "value" = some e) : Searches n e

/-- A search for functions and static blocks in a node comes to the block of one of them, without
passing through another. -/
inductive Finds : Node → Node → Prop where
  | block {n b} (enters : entersBody n = true) (body : n.child? "body" = some b)
      (kind : b.kind = "statement_block") : Finds n b
  | expression {n e b} (enters : entersBody n = true) (body : n.child? "body" = some e)
      (kind : e.kind ≠ "statement_block") (h : Finds e b) : Finds n b
  | inner {n c b} (enters : entersBody n = false) (child : c ∈ n.children) (h : Finds c b) :
      Finds n b

variable {m : Mark} {dead : Bool} {n e b s : Node} {ns before after : List Node}

theorem Holds.inside (h : Holds n s) : n.Inside s := by
  cases h with
  | consequence _ h | body _ h => exact Node.inside_child (Node.mem_children_of_child? h)
  | alternative _ clause h =>
    exact (Node.inside_child (Node.mem_children_of_child? clause)).trans
      (Node.inside_child (Node.mem_children_of_mem_namedChildren h))
  | clause _ _ _ clause h =>
    exact (Node.inside_child (Node.mem_children_of_child? clause)).trans
      (Node.inside_child (Node.mem_children_of_child? h))

theorem HoldsList.inside (h : HoldsList n ns) (hs : s ∈ ns) : n.Inside s := by
  cases h with
  | block => exact Node.inside_child (Node.mem_children_of_mem_namedChildren hs)
  | case _ body clause =>
    exact ((Node.inside_child (Node.mem_children_of_child? body)).trans
      (Node.inside_child (Node.mem_children_of_mem_namedChildren clause))).trans
        (Node.inside_child (Node.mem_children_of_mem_childrenAt hs))

theorem Searches.sizeOf_le (h : Searches n e) : sizeOf e ≤ sizeOf n := by
  cases h with
  | simple => exact Nat.le_refl _
  | head _ _ h => exact Nat.le_of_lt (sizeOf_child?_lt h)
  | case _ body clause _ h =>
    have hclause := Node.sizeOf_lt_of_mem (Node.mem_children_of_mem_namedChildren clause)
    exact Nat.le_of_lt (Nat.lt_trans (sizeOf_child?_lt h)
      (Nat.lt_trans hclause (sizeOf_child?_lt body)))

theorem Finds.sizeOf_lt (h : Finds e b) : sizeOf b < sizeOf e := by
  induction h with
  | block _ body => exact sizeOf_child?_lt body
  | expression _ body _ _ ih => exact Nat.lt_trans ih (sizeOf_child?_lt body)
  | inner _ child _ ih => exact Nat.lt_trans ih (Node.sizeOf_lt_of_mem child)

/-! ## One step of the analysis -/

/-- The marks of a list are those of its statements, each analysed as dead code if something before
it stops. -/
theorem mem_block_iff : m ∈ (block dead ns).marks ↔
    ∃ before s after, ns = before ++ s :: after ∧ isSkipped s = false ∧
      ∃ d, (d = true ↔ dead = true ∨ AnyStops before) ∧ m ∈ (visit d s).marks := by
  induction ns generalizing dead with
  | nil => simp [block_nil]
  | cons n rest ih =>
    cases hn : isSkipped n with
    | true =>
      rw [block_skipped hn, ih]
      constructor
      · rintro ⟨before, s, after, rfl, hs, d, hd, hm⟩
        exact ⟨n :: before, s, after, rfl, hs, d, by simpa [anyStops_cons_iff, hn] using hd, hm⟩
      · rintro ⟨before, s, after, heq, hs, d, hd, hm⟩
        obtain ⟨rfl, heq⟩ | ⟨before, rfl, rfl⟩ := List.cons_eq_append_iff.1 heq
        · obtain ⟨rfl, -⟩ := List.cons.inj heq
          rw [hn] at hs
          cases hs
        · exact ⟨before, s, after, rfl, hs, d, by simpa [anyStops_cons_iff, hn] using hd, hm⟩
    | false =>
      have hstops : (dead || (visit dead n).stops) = true ↔ dead = true ∨ Stops n := by
        rw [Bool.or_eq_true, visit_stops, statement_stops_iff n dead]
      rw [block_cons hn, List.mem_append, ih]
      simp only [hstops]
      constructor
      · rintro (hm | ⟨before, s, after, rfl, hs, d, hd, hm⟩)
        · exact ⟨[], n, rest, rfl, hn, dead, by simp [not_anyStops_nil], hm⟩
        · exact ⟨n :: before, s, after, rfl, hs, d,
            by simpa [anyStops_cons_iff, hn, or_assoc] using hd, hm⟩
      · rintro ⟨before, s, after, heq, hs, d, hd, hm⟩
        obtain ⟨rfl, heq⟩ | ⟨before, rfl, rfl⟩ := List.cons_eq_append_iff.1 heq
        · obtain ⟨rfl, -⟩ := List.cons.inj heq
          obtain rfl : d = dead := by
            rw [Bool.eq_iff_iff, hd]
            simp [not_anyStops_nil]
          exact .inl hm
        · exact .inr ⟨before, s, after, rfl, hs, d,
            by simpa [anyStops_cons_iff, hn, or_assoc] using hd, hm⟩

/-- The marks of a search for functions are those of the bodies that it comes to. -/
theorem mem_functions_iff :
    m ∈ functions e ↔ ∃ b, Finds e b ∧ m ∈ (block false b.namedChildren).marks := by
  constructor
  · intro hm
    induction hs : sizeOf e using Nat.strongRecOn generalizing e with
    | ind k ih =>
      cases enters : entersBody e with
      | false =>
        rw [functions_children enters] at hm
        obtain ⟨c, hc, hm⟩ := List.mem_flatMap.1 hm
        obtain ⟨b, hb, hm⟩ := ih _ (hs ▸ Node.sizeOf_lt_of_mem hc) hm rfl
        exact ⟨b, .inner enters hc hb, hm⟩
      | true =>
        cases body : e.child? "body" with
        | none =>
          rw [functions_noBody enters body] at hm
          cases hm
        | some b =>
          rw [functions_body enters body] at hm
          by_cases kind : b.kind = "statement_block"
          · rw [if_pos (by simp [kind])] at hm
            exact ⟨b, .block enters body kind, hm⟩
          · rw [if_neg (by simpa using kind)] at hm
            obtain ⟨b', hb, hm⟩ := ih _ (hs ▸ sizeOf_child?_lt body) hm rfl
            exact ⟨b', .expression enters body kind hb, hm⟩
  · rintro ⟨b, hb, hm⟩
    induction hb with
    | block enters body kind =>
      rw [functions_body enters body, if_pos (by simp [kind])]
      exact hm
    | expression enters body kind _ ih =>
      rw [functions_body enters body, if_neg (by simpa using kind)]
      exact ih hm
    | inner enters child _ ih =>
      rw [functions_children enters]
      exact List.mem_flatMap.2 ⟨_, child, ih hm⟩

/-- A mark is made for what stands in a statement: for a function in what is searched, for a
statement by itself, or for a list. -/
def MadeIn (m : Mark) (dead : Bool) (n : Node) : Prop :=
  (∃ e, Searches n e ∧ m ∈ functions e) ∨ (∃ s, Holds n s ∧ m ∈ (visit dead s).marks) ∨
    ∃ ns, HoldsList n ns ∧ m ∈ (block dead ns).marks

/-- What stands under the fields of a statement that the analysis follows. -/
theorem place_of_followed : ∀ kind ∈ composedKinds, ∀ entry ∈ followed kind,
    (entry.2 = .statement → kind = "if_statement" ∧ entry.1 = "consequence" ∨
      kind ∈ openKinds ++ ["do_statement", "try_statement"] ∧ entry.1 = "body") ∧
    (entry.2 = .alternatives → kind = "if_statement" ∧ entry.1 = "alternative") ∧
    (entry.2 = .clause → kind = "try_statement" ∧ entry.1 ∈ ["handler", "finalizer"]) ∧
    (entry.2 = .cases → kind = "switch_statement" ∧ entry.1 = "body") ∧
    entry.2 ≠ .list ∧ entry.2 ≠ .case := by decide

theorem madeIn_of_followed {field : String} {mode : Mode} {c : Node}
    (hfield : (field, mode) ∈ followed n.kind) (hc : n.child? field = some c)
    (hm : m ∈ mode.marks dead c) : MadeIn m dead n := by
  obtain ⟨hstatement, halternatives, hclause, hcases, hlist, hcase⟩ :=
    place_of_followed _ (composed_of_followed hfield) _ hfield
  cases mode with
  | functions => exact .inl ⟨c, .head field hfield hc, hm⟩
  | statement =>
    obtain ⟨kind, rfl⟩ | ⟨kind, rfl⟩ := hstatement rfl
    · exact .inr (.inl ⟨c, .consequence kind hc, hm⟩)
    · exact .inr (.inl ⟨c, .body kind hc, hm⟩)
  | alternatives =>
    obtain ⟨kind, rfl⟩ := halternatives rfl
    obtain ⟨s, hs, hskip, hm⟩ := mem_alternatives_iff.1 hm
    exact .inr (.inl ⟨s, .alternative kind hc hs hskip, hm⟩)
  | clause =>
    obtain ⟨kind, hat⟩ := hclause rfl
    obtain ⟨s, hs, hm⟩ := mem_partAt_iff.1 hm
    exact .inr (.inl ⟨s, .clause field kind hat hc hs, hm⟩)
  | cases =>
    obtain ⟨kind, rfl⟩ := hcases rfl
    obtain ⟨k, hk, hskip, hvalue | hbody⟩ := mem_cases_iff.1 hm
    · obtain ⟨at', hat, e, he, hm⟩ := mem_functionsAt_iff.1 hvalue
      obtain rfl := List.mem_singleton.1 hat
      exact .inl ⟨e, .case kind hc hk hskip he, hm⟩
    · exact .inr (.inr ⟨_, .case kind hc hk hskip, hbody⟩)
  | list => exact absurd rfl hlist
  | case => exact absurd rfl hcase

/-- The marks of a statement, its own left out, are those made for what stands in it. -/
theorem mem_statement_marks_iff : m ∈ (statement dead n).marks ↔ MadeIn m dead n := by
  have ofField : ∀ {field : String} {mode : Mode} {c : Node}, (field, mode) ∈ followed n.kind →
      n.child? field = some c → m ∈ mode.marks dead c → m ∈ (statement dead n).marks :=
    fun hfield hc hm => (mem_statement_iff (composed_of_followed hfield)).2 ⟨_, hfield, _, hc, hm⟩
  constructor
  · intro hm
    have ofComposed : n.kind ∈ composedKinds → MadeIn m dead n := by
      intro hkind
      obtain ⟨entry, hentry, c, hc, hm⟩ := (mem_statement_iff hkind).1 hm
      exact madeIn_of_followed hentry hc hm
    rcases kind_cases n with kind | kind | kind | kind | kind | kind | kind | kind
    · rw [statement_terminator kind] at hm
      exact .inl ⟨n, .simple (.inl kind), hm⟩
    · rw [statement_block kind] at hm
      exact .inr (.inr ⟨_, .block kind, hm⟩)
    · exact ofComposed (by rw [kind]; decide)
    · exact ofComposed (by rw [kind]; decide)
    · exact ofComposed (by rw [kind]; decide)
    · exact ofComposed (by rw [kind]; decide)
    · exact ofComposed (List.mem_append_right _ kind)
    · rw [statement_simple kind] at hm
      exact .inl ⟨n, .simple (.inr kind), hm⟩
  · rintro (⟨e, he, hm⟩ | ⟨s, hs, hm⟩ | ⟨ns, hns, hm⟩)
    · cases he with
      | simple kind =>
        obtain kind | kind := kind
        · rwa [statement_terminator kind]
        · rwa [statement_simple kind]
      | head field hfield h => exact ofField hfield h hm
      | case kind body clause hskip h =>
        have hfield : ("body", Mode.cases) ∈ followed n.kind := by rw [kind]; decide
        have hvalue := mem_functionsAt_iff.2 ⟨"value", List.mem_singleton_self _, e, h, hm⟩
        exact ofField hfield body (mem_cases_iff.2 ⟨_, clause, hskip, .inl hvalue⟩)
    · cases hs with
      | consequence kind h =>
        have hfield : ("consequence", Mode.statement) ∈ followed n.kind := by rw [kind]; decide
        exact ofField hfield h hm
      | alternative kind clause h hskip =>
        have hfield : ("alternative", Mode.alternatives) ∈ followed n.kind := by rw [kind]; decide
        exact ofField hfield clause (mem_alternatives_iff.2 ⟨s, h, hskip, hm⟩)
      | body kind h =>
        have hbody : ∀ kind ∈ openKinds ++ ["do_statement", "try_statement"],
            ("body", Mode.statement) ∈ followed kind := by decide
        exact ofField (hbody _ kind) h hm
      | clause field kind hat clause h =>
        have hclause : ∀ field ∈ ["handler", "finalizer"],
            (field, Mode.clause) ∈ followed "try_statement" := by decide
        have hfield : (field, Mode.clause) ∈ followed n.kind := by rw [kind]; exact hclause _ hat
        exact ofField hfield clause (mem_partAt_iff.2 ⟨s, h, hm⟩)
    · cases hns with
      | block kind => rwa [statement_block kind]
      | case kind body clause hskip =>
        have hfield : ("body", Mode.cases) ∈ followed n.kind := by rw [kind]; decide
        exact ofField hfield body (mem_cases_iff.2 ⟨_, clause, hskip, .inr hm⟩)

/-! ## Statements in bodies -/

/-- A statement around another one, and what stands before it in its list. -/
structure Frame where
  statement : Node
  earlier : List Node

/-- Whether something before a statement, or before a statement around it, in their lists stops. -/
def Cut (earlier : List Node) (around : List Frame) : Prop :=
  AnyStops earlier ∨ ∃ frame ∈ around, AnyStops frame.earlier

/-- A statement stands in a body, perhaps in statements of it but not in a function nested in them.
Before it in its list are the statements `earlier`, none if it is in no list, and `around` are the
statements around it, the innermost first. -/
inductive Stands (body : List Node) : Node → List Node → List Frame → Prop where
  | top {s : Node} {before after : List Node} (split : body = before ++ s :: after)
      (statement : isSkipped s = false) : Stands body s before []
  | item {n s : Node} {earlier ns before after : List Node} {around : List Frame}
      (h : Stands body n earlier around) (list : HoldsList n ns) (split : ns = before ++ s :: after)
      (statement : isSkipped s = false) : Stands body s before (⟨n, earlier⟩ :: around)
  | alone {n s : Node} {earlier : List Node} {around : List Frame}
      (h : Stands body n earlier around) (part : Holds n s) :
      Stands body s [] (⟨n, earlier⟩ :: around)

/-- The bodies on which the analysis starts: that of the program, and those of the functions and
static blocks that it finds in the statements of such bodies. -/
inductive Entered (root : Node) : List Node → Prop where
  | program : Entered root root.namedChildren
  | inner {s e b : Node} {body earlier : List Node} {around : List Frame}
      (outer : Entered root body) (h : Stands body s earlier around) (searched : Searches s e)
      (found : Finds e b) : Entered root b.namedChildren

/-- Whether a node stands as a statement in a body that the analysis enters. -/
def IsVisited (root s : Node) : Prop :=
  ∃ body earlier around, Entered root body ∧ Stands body s earlier around

variable {root : Node} {body earlier : List Node} {around : List Frame}

theorem cut_cons_iff :
    Cut before (⟨n, earlier⟩ :: around) ↔ Cut earlier around ∨ AnyStops before := by
  simp only [Cut, List.exists_mem_cons_iff]
  exact or_comm

theorem cut_alone_iff : Cut [] (⟨n, earlier⟩ :: around) ↔ Cut earlier around := by
  simp [cut_cons_iff, not_anyStops_nil]

/-- A list has the marks of its statements, analysed as dead code if something before them stops. -/
theorem marks_of_split (split : ns = before ++ s :: after) (hs : isSkipped s = false)
    (dead : Bool) : ∃ d, (d = true ↔ dead = true ∨ AnyStops before) ∧
      ∀ m ∈ (visit d s).marks, m ∈ (block dead ns).marks := by
  have hd : (dead || (block false before).stops) = true ↔ dead = true ∨ AnyStops before := by
    rw [Bool.or_eq_true, block_stops_iff fun t _ => statement_stops_iff t]
  exact ⟨_, hd, fun m hm => mem_block_iff.2 ⟨before, s, after, split, hs, _, hd, hm⟩⟩

/-- A body has the marks of the statements that stand in it, analysed as dead code if they are cut
off. -/
theorem marks_of_stands (h : Stands body s earlier around) : ∃ d,
    (d = true ↔ Cut earlier around) ∧ ∀ m ∈ (visit d s).marks, m ∈ (block false body).marks := by
  induction h with
  | top split statement =>
    obtain ⟨d, hd, hsub⟩ := marks_of_split split statement false
    exact ⟨d, by simpa [Cut] using hd, hsub⟩
  | @item n s earlier ns before after around _ list split statement ih =>
    obtain ⟨outer, houter, hbody⟩ := ih
    obtain ⟨d, hd, hsub⟩ := marks_of_split split statement outer
    refine ⟨d, by rw [hd, houter, cut_cons_iff], fun m hm => hbody m ?_⟩
    rw [visit_marks]
    exact List.mem_append_left _ (mem_statement_marks_iff.2 (.inr (.inr ⟨ns, list, hsub m hm⟩)))
  | @alone n s earlier around _ part ih =>
    obtain ⟨d, hd, hbody⟩ := ih
    refine ⟨d, by rw [hd, cut_alone_iff], fun m hm => hbody m ?_⟩
    rw [visit_marks]
    exact List.mem_append_left _ (mem_statement_marks_iff.2 (.inr (.inl ⟨s, part, hm⟩)))

/-- A program has the marks of every body that the analysis enters. -/
theorem marks_of_entered (h : Entered root body) :
    ∀ m ∈ (block false body).marks, m ∈ marks root := by
  induction h with
  | program => exact fun m hm => hm
  | @inner s e b body earlier around _ h searched found ih =>
    intro m hm
    obtain ⟨d, -, hsub⟩ := marks_of_stands h
    refine ih m (hsub m ?_)
    have hsearched := mem_functions_iff.2 ⟨b, found, hm⟩
    rw [visit_marks]
    exact List.mem_append_left _ (mem_statement_marks_iff.2 (.inl ⟨e, searched, hsearched⟩))

/-- A mark is that of a statement in a body that the analysis enters, and says what is so of it. -/
def IsRight (root : Node) (m : Mark) : Prop :=
  ∃ body earlier around, Entered root body ∧ Stands body m.node earlier around ∧
    (m.unreachable = true ↔ Cut earlier around) ∧ (m.stops = true ↔ Stops m.node)

/-- A statement that stands in an entered body has a mark, which is right about it. -/
theorem mark_of_stands (outer : Entered root body) (h : Stands body s earlier around) :
    ∃ m ∈ marks root, m.node = s ∧ (m.unreachable = true ↔ Cut earlier around) ∧
      (m.stops = true ↔ Stops s) := by
  obtain ⟨d, hd, hsub⟩ := marks_of_stands h
  refine ⟨⟨s, d, (statement d s).stops⟩, marks_of_entered outer _ (hsub _ ?_), rfl, hd,
    statement_stops_iff s d⟩
  rw [visit_marks]
  exact List.mem_append_right _ (List.mem_singleton_self _)

/-- All marks that are made when a statement of an entered body is analysed are right. -/
theorem isRight_of_visit {d : Bool} (outer : Entered root body) (h : Stands body s earlier around)
    (hd : d = true ↔ Cut earlier around) (hm : m ∈ (visit d s).marks) : IsRight root m := by
  induction hsize : sizeOf s using Nat.strongRecOn generalizing s body earlier around d with
  | ind k ih =>
    rw [visit_marks] at hm
    obtain hinner | hown := List.mem_append.1 hm
    · obtain ⟨e, searched, hm⟩ | ⟨t, part, hm⟩ | ⟨ns, list, hm⟩ := mem_statement_marks_iff.1 hinner
      · -- a body of a function: a start of its own, where nothing is cut off
        obtain ⟨b, found, hm⟩ := mem_functions_iff.1 hm
        obtain ⟨before, t, after, split, hskip, d', hd', hm⟩ := mem_block_iff.1 hm
        have ht : t ∈ b.namedChildren := split ▸ List.mem_append_right _ List.mem_cons_self
        have hlt : sizeOf t < sizeOf s := calc
          sizeOf t < sizeOf b := Node.sizeOf_lt_of_mem (Node.mem_children_of_mem_namedChildren ht)
          _ < sizeOf e := found.sizeOf_lt
          _ ≤ sizeOf s := searched.sizeOf_le
        exact ih _ (hsize ▸ hlt) (.inner outer h searched found) (.top split hskip)
          (by simpa [Cut] using hd') hm rfl
      · exact ih _ (hsize ▸ part.inside.smaller) outer (.alone h part) (hd.trans cut_alone_iff.symm)
          hm rfl
      · obtain ⟨before, t, after, split, hskip, d', hd', hm⟩ := mem_block_iff.1 hm
        have ht : t ∈ ns := split ▸ List.mem_append_right _ List.mem_cons_self
        exact ih _ (hsize ▸ (list.inside ht).smaller) outer (.item h list split hskip)
          (by rw [hd', hd, cut_cons_iff]) hm rfl
    · rw [List.mem_singleton.1 hown]
      exact ⟨body, earlier, around, outer, h, hd, statement_stops_iff s d⟩

/-- All marks of a program are right. -/
theorem isRight_of_mem_marks (hm : m ∈ marks root) : IsRight root m := by
  obtain ⟨before, s, after, split, hskip, d, hd, hm⟩ := mem_block_iff.1 hm
  exact isRight_of_visit .program (.top split hskip) (by simpa [Cut] using hd) hm

theorem isVisited_iff : IsVisited root s ↔ ∃ m ∈ marks root, m.node = s := by
  constructor
  · rintro ⟨body, earlier, around, outer, h⟩
    obtain ⟨m, hm, hnode, -⟩ := mark_of_stands outer h
    exact ⟨m, hm, hnode⟩
  · rintro ⟨m, hm, rfl⟩
    obtain ⟨body, earlier, around, outer, h, -⟩ := isRight_of_mem_marks hm
    exact ⟨body, earlier, around, outer, h⟩

/-! ## The facts -/

/-- The facts of a program say of every statement that is analysed whether it stops and whether it
is cut off, and they say nothing else. -/
structure Exact (root : Node) : Prop where
  /-- A statement that stands in a body has a fact, by which it stops exactly if it does, and is
  unreachable exactly if something before it, or before a statement around it in the body, stops. -/
  fact : ∀ body s earlier around, Entered root body → Stands body s earlier around →
    ∃ unreachable stops, (ControlFlow.ofProgram root).lookup s.lo =
        some (.ofBools unreachable stops) ∧
      (unreachable = true ↔ Cut earlier around) ∧ (stops = true ↔ Stops s)
  /-- There are no other facts. -/
  only : ∀ offset fact, (ControlFlow.ofProgram root).lookup offset = some fact →
    ∃ s, IsVisited root s ∧ (s.lo : Int) = offset
  /-- The statements in bodies are those that the analysis makes marks for. -/
  visited : ∀ s, IsVisited root s ↔ ∃ m ∈ marks root, m.node = s
  /-- Nothing outside of a body decides on the facts of its statements. -/
  own : ∀ other, ((marks other).map Mark.offset).Nodup → ∀ body s earlier around,
    Entered root body → Entered other body → Stands body s earlier around →
      (ControlFlow.ofProgram root).lookup s.lo = (ControlFlow.ofProgram other).lookup s.lo

theorem fact_of_stands (distinct : ((marks root).map Mark.offset).Nodup)
    (outer : Entered root body) (h : Stands body s earlier around) :
    ∃ unreachable stops, (ControlFlow.ofProgram root).lookup s.lo =
        some (.ofBools unreachable stops) ∧
      (unreachable = true ↔ Cut earlier around) ∧ (stops = true ↔ Stops s) := by
  obtain ⟨m, hm, rfl, hunreachable, hstops⟩ := mark_of_stands outer h
  exact ⟨m.unreachable, m.stops, lookup_ofProgram distinct hm, hunreachable, hstops⟩

/-- Where the statements that are analysed start at different offsets, the facts about a program are
exact: each is that of a statement, and says whether the statement stops and whether it is cut off
in the body in which it stands. -/
theorem ofProgram_exact (root : Node) (distinct : ((marks root).map Mark.offset).Nodup) :
    Exact root := by
  refine ⟨fun body s earlier around => fact_of_stands distinct, fun offset fact h => ?_,
    fun s => isVisited_iff, fun other hother body s earlier around outer houter h => ?_⟩
  · obtain ⟨m, hm, hoffset, -⟩ := mark_of_lookup h
    exact ⟨m.node, isVisited_iff.2 ⟨m, hm, rfl⟩, hoffset⟩
  · obtain ⟨u, t, hlookup, hu, ht⟩ := fact_of_stands distinct outer h
    obtain ⟨u', t', hlookup', hu', ht'⟩ := fact_of_stands hother houter h
    obtain rfl : u = u' := Bool.eq_iff_iff.2 (hu.trans hu'.symm)
    obtain rfl : t = t' := Bool.eq_iff_iff.2 (ht.trans ht'.symm)
    rw [hlookup, hlookup']

/-! ## A statement in a dead block -/

/-- The block `{ return }`. -/
def leavingBlock : Node :=
  named "statement_block" none 0 10 [named "return_statement" none 2 6 []]

/-- The block `{ a }` after it. -/
def deadBlock : Node :=
  named "statement_block" none 11 5 [named "expression_statement" none 13 1 []]

/-- The program `{ return } { a }`. -/
def twoBlocks : Node := named "program" none 0 16 [leavingBlock, deadBlock]

theorem marks_twoBlocks : marks twoBlocks =
    [⟨named "return_statement" none 2 6 [], false, true⟩, ⟨leavingBlock, false, true⟩,
     ⟨named "expression_statement" none 13 1 [], true, false⟩, ⟨deadBlock, true, false⟩] := by
  have hfirst : statement false leavingBlock =
      ⟨true, [⟨named "return_statement" none 2 6 [], false, true⟩]⟩ := by
    rw [statement_block rfl,
      show leavingBlock.namedChildren = [named "return_statement" none 2 6 []] from rfl,
      block_cons (by decide), block_nil, visit_stops, visit_marks,
      statement_terminator (by decide), functions_leaf rfl]
    rfl
  have hsecond : statement true deadBlock =
      ⟨false, [⟨named "expression_statement" none 13 1 [], true, false⟩]⟩ := by
    rw [statement_block rfl,
      show deadBlock.namedChildren = [named "expression_statement" none 13 1 []] from rfl,
      block_cons (by decide), block_nil, visit_stops, visit_marks,
      statement_simple (by decide), functions_leaf rfl]
    rfl
  rw [marks, show twoBlocks.namedChildren = [leavingBlock, deadBlock] from rfl,
    block_cons (by decide), block_cons (by decide), block_nil, visit_stops, visit_stops,
    visit_marks, visit_marks, hfirst, Bool.false_or, hsecond]
  rfl

theorem stops_leavingBlock : Stops leavingBlock := by
  have hreturn : Stops (named "return_statement" none 2 6 []) := .jump (by decide)
  exact .block rfl (List.mem_of_getElem? (i := 0) rfl) (by decide) hreturn

/-- In `{ return } { a }` the fact of `a` calls it unreachable, since the block around it comes
after one that stops. -/
theorem ofProgram_exact_twoBlocks :
    ((marks twoBlocks).map Mark.offset).Nodup ∧
      (ControlFlow.ofProgram twoBlocks).lookup 13 = some (.ofBools true false) := by
  have distinct : ((marks twoBlocks).map Mark.offset).Nodup := by
    rw [marks_twoBlocks]
    decide
  refine ⟨distinct, ?_⟩
  have hprogram : twoBlocks.namedChildren = [leavingBlock] ++ deadBlock :: [] := rfl
  have hblock : deadBlock.namedChildren =
      [] ++ named "expression_statement" none 13 1 [] :: [] := rfl
  obtain ⟨unreachable, stops, hlookup, hunreachable, hstops⟩ :=
    (ofProgram_exact twoBlocks distinct).fact _ _ _ _ .program
      (.item (.top hprogram (by decide)) (.block rfl) hblock (by decide))
  have hcut : Cut [] [⟨deadBlock, [leavingBlock]⟩] :=
    .inr ⟨_, List.mem_singleton_self _, leavingBlock, List.mem_singleton_self _, by decide,
      stops_leavingBlock⟩
  obtain rfl : unreachable = true := hunreachable.2 hcut
  obtain rfl : stops = false := by
    rw [Bool.eq_false_iff, ne_eq, hstops]
    exact not_stops_of_kind (by decide)
  exact hlookup

end ScriptLint.Flow

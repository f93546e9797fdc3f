/-
What handlers do that only report. Their actions report findings at the node of the handler or at
a child of it, with texts, and they may end with a value; they neither ask the host nor throw.
`effectAll` says, about the program's own tree, which findings such actions report and with what
they end, and running them does exactly that (`actAll_follows`).
-/
import ScriptLint.Plugin.RuleClass
import ScriptLint.Host.Payload

namespace ScriptLint

/-- A finding that a handler reports at a node of the program. -/
structure Remark where
  node : Node
  message : String
  hint : Option String

/-- The finding as it is reported to the host. -/
def Remark.wire (r : Remark) : WireDiagnostic := ⟨r.node.span, r.message, r.hint⟩

namespace Handler

open Script

/-! ## Runs without calls -/

/-- From an instance, a run asks nothing and ends in this way, with the instance changed to
another. -/
def Ends {α : Type} (x : Run α) (i : Instance) (r : Except Thrown α) (i' : Instance) : Prop :=
  x.run.run i = .done (r, i')

section Ends

variable {α β : Type} {i i' i'' : Instance}

theorem ends_pure (a : α) : Ends (pure a) i (.ok a) i := rfl

theorem ends_get : Ends get i (.ok i) i := rfl

theorem ends_modify (f : Instance → Instance) : Ends (modify f) i (.ok ()) (f i) := rfl

theorem Ends.bind {x : Run α} {f : α → Run β} {a : α} {r : Except Thrown β}
    (h : Ends x i (.ok a) i') (h' : Ends (f a) i' r i'') : Ends (x >>= f) i r i'' := by
  unfold Ends at *
  show Script.bind (x.run.run i) _ = _
  rw [h]
  exact h'

theorem Ends.tryCatch {x : Run α} {handler : Thrown → Run α} {a : α} (h : Ends x i (.ok a) i') :
    Ends (tryCatch x handler) i (.ok a) i' := by
  unfold Ends at *
  show Script.bind (x.run.run i) _ = _
  rw [h]
  rfl

theorem ends_useInstance (h : i.ready = true) : Ends useInstance i (.ok ()) i := by
  refine ends_get.bind ?_
  rw [if_pos h]
  exact ends_pure ()

end Ends

/-! ## What handlers see -/

/-- What a handler is called with: a node of a program, under the field that scripts see. -/
structure Scene where
  source : Bytes
  field : Option String
  node : Node

/-- The node as scripts see it. -/
def Scene.ast (s : Scene) : Ast := .ofNodeAt s.source s.field s.node

/-- What an instance knows about itself. -/
structure Tally where
  count : Nat
  findings : Nat

/-- An instance that has been set up and holds some findings. -/
def Tally.instance (t : Tally) (items : List Json) : Instance :=
  { findings := .list items, count := t.count, ready := true }

/-- Whether a property is known without asking the host. -/
def isKnown : Getter → Bool
  | .reachable | .stops => false
  | _ => true

/-- The value of a property that is known without asking the host. -/
def known (n : Ast) (t : Tally) : Getter → Maybe
  | .text => n.text?.map .str
  | .type => some (.str n.kind)
  | .lo => some (.int n.span.lo)
  | .hi => some (.int n.span.hi)
  | .field => n.field?.map .str
  | .named => some (.bool n.isNamed)
  | .children => some (.int n.children.length)
  | .namedChildren => some (.int n.namedChildren.length)
  | .count => some (.int t.count)
  | .findings => some (.int t.findings)
  | .keys => some (.str (",".intercalate n.memberNames))
  | .reachable | .stops => none

theorem look_ends (n : Ast) {t : Tally} {items : List Json} (h : t.findings = items.length)
    {g : Getter} (hg : isKnown g = true) :
    Ends (look (.node n) g) (t.instance items) (.ok (known n t g)) (t.instance items) := by
  cases g with
  | count => rfl
  | findings =>
    rw [known, h]
    rfl
  | reachable | stops => cases hg
  | text | type | lo | hi | field | named | children | namedChildren | keys => rfl

/-! ## Messages and hints -/

def isKnownPart : Part → Bool
  | .text _ => true
  | .get g => isKnown g

/-- The text of a part. -/
def partSaid (n : Ast) (t : Tally) : Part → String
  | .text s => s
  | .get g => asText (known n t g)

/-- The text of a message or a hint, if it is one. -/
def said (n : Ast) (t : Tally) : Wording → Option String
  | .text s => some s
  | .undefined => none
  | .value v => v.str?
  | .composed parts => some (String.join (parts.map (partSaid n t)))

/-- Whether a message is a text. -/
def isText : Wording → Bool
  | .text _ | .value (.str _) => true
  | .composed parts => parts.all isKnownPart
  | _ => false

/-- Whether a hint is a text, `null` or undefined. -/
def isHint : Wording → Bool
  | .undefined | .value .null => true
  | w => isText w

theorem partText_ends (n : Ast) {t : Tally} {items : List Json} (h : t.findings = items.length)
    {p : Part} (hp : isKnownPart p = true) :
    Ends (partText (.node n) p) (t.instance items) (.ok (partSaid n t p)) (t.instance items) := by
  cases p with
  | text s => exact ends_pure s
  | get g => exact (look_ends n h hp).bind (ends_pure _)

theorem partTexts_ends (n : Ast) {t : Tally} {items : List Json} (h : t.findings = items.length)
    {parts : List Part} (hp : parts.all isKnownPart = true) :
    Ends (parts.mapM (partText (.node n))) (t.instance items) (.ok (parts.map (partSaid n t)))
      (t.instance items) := by
  -- `mapM` keeps the texts so far in reverse
  have loop : ∀ texts : List String,
      Ends (List.mapM.loop (partText (.node n)) parts texts) (t.instance items)
        (.ok (texts.reverse ++ parts.map (partSaid n t))) (t.instance items) := by
    induction parts with
    | nil =>
      intro texts
      rw [List.map_nil, List.append_nil]
      exact ends_pure _
    | cons p rest ih =>
      intro texts
      rw [List.all_cons, Bool.and_eq_true] at hp
      have hrest := ih hp.2 (partSaid n t p :: texts)
      rw [List.reverse_cons, List.append_assoc] at hrest
      exact (partText_ends n h hp.1).bind hrest
  exact loop []

/-- The value of a message or a hint of these kinds is its text, or it stands for none. -/
theorem wording_ends (n : Ast) {t : Tally} {items : List Json} (h : t.findings = items.length)
    {w : Wording} (hw : isHint w = true) :
    ∃ v, Ends (wording (.node n) w) (t.instance items) (.ok v) (t.instance items) ∧
      v.getD .null = .ofText? (said n t w) ∧
      (isText w = true → v.map (fun m => ("message", m)) =
        some ("message", .str ((said n t w).getD ""))) := by
  cases w with
  | text s => exact ⟨_, ends_pure _, rfl, fun _ => rfl⟩
  | undefined => exact ⟨_, ends_pure _, rfl, nofun⟩
  | value v =>
    cases v with
    | null => exact ⟨_, ends_pure _, rfl, nofun⟩
    | str s => exact ⟨_, ends_pure _, rfl, fun _ => rfl⟩
    | bool | int | float | arr | obj => cases hw
  | composed parts =>
    exact ⟨_, (partTexts_ends n h hw).bind (ends_pure _), rfl, fun _ => rfl⟩

theorem isHint_of_isText {w : Wording} (h : isText w = true) : isHint w = true := by
  cases w with
  | text s | composed parts => exact h
  | undefined => rfl
  | value v => cases v <;> first | rfl | exact h

/-! ## Places -/

theorem ofNodes_eq (source : Bytes) (ns : List Node) :
    Ast.ofNodes source ns = ns.map fun n => Ast.ofNodeAt source n.field? n := by
  induction ns with
  | nil => rw [Ast.ofNodes, List.map_nil]
  | cons n rest ih => rw [Ast.ofNodes, ih, List.map_cons]

/-- The child of a node that a selector names, if it names one. -/
def placeOf (n : Node) : Selector → Option Node
  | .childAt field => field.str?.bind n.child?
  | .child index => itemAt? n.children index
  | .namedChild index => itemAt? n.namedChildren index
  | .range _ _ => none

/-- Whether a selector names a child. -/
def isChild : Selector → Bool
  | .range _ _ => false
  | _ => true

theorem itemAt?_map {α β : Type} (f : α → β) (l : List α) (index : Json) :
    itemAt? (l.map f) index = (itemAt? l index).map f := by
  have text : ∀ key : Option Nat, (key.bind fun i => (l.map f)[i]?) =
      (key.bind fun i => l[i]?).map f := by
    intro key
    cases key <;> simp
  have whole : ∀ x : Option Double,
      (x.bind fun x => if x.isWhole ∧ 0 ≤ x.toInt then (l.map f)[x.toInt.toNat]? else none) =
        (x.bind fun x => if x.isWhole ∧ 0 ≤ x.toInt then l[x.toInt.toNat]? else none).map f := by
    intro x
    cases x with
    | none => rfl
    | some x =>
      simp only [Option.bind_some]
      split
      · exact List.getElem?_map
      · rfl
  cases index with
  | str key => exact text _
  | null => exact whole (number? .null)
  | bool b => exact whole (number? (.bool b))
  | int n => exact whole (number? (.int n))
  | float x => exact whole (number? (.float x))
  | arr items => exact whole (number? (.arr items))
  | obj members => exact whole (number? (.obj members))

/-- How scripts see a child of a node. -/
def Scene.child (s : Scene) (c : Node) : Ast := .ofNodeAt s.source c.field? c

theorem Scene.children_ast (s : Scene) : s.ast.children = s.node.children.map s.child := by
  obtain ⟨source, field, label, children⟩ := s
  rw [Scene.ast, Ast.ofNodeAt]
  exact ofNodes_eq source children

theorem Scene.isNamed_child (s : Scene) (c : Node) : (s.child c).isNamed = c.isNamed := by
  obtain ⟨label, children⟩ := c
  rw [Scene.child, Ast.ofNodeAt]
  rfl

theorem Scene.field?_child (s : Scene) (c : Node) : (s.child c).field? = c.field? := by
  obtain ⟨label, children⟩ := c
  rw [Scene.child, Ast.ofNodeAt]
  rfl

theorem Scene.span_child (s : Scene) (c : Node) : (s.child c).span = c.span := by
  obtain ⟨label, children⟩ := c
  rw [Scene.child, Ast.ofNodeAt]
  rfl

theorem Scene.span_ast (s : Scene) : s.ast.span = s.node.span := by
  obtain ⟨source, field, label, children⟩ := s
  rw [Scene.ast, Ast.ofNodeAt]
  rfl

theorem Scene.kind_ast (s : Scene) : s.ast.kind = s.node.kind := by
  obtain ⟨source, field, label, children⟩ := s
  rw [Scene.ast, Ast.ofNodeAt]
  rfl

theorem Scene.isNamed_ast (s : Scene) : s.ast.isNamed = s.node.isNamed := by
  obtain ⟨source, field, label, children⟩ := s
  rw [Scene.ast, Ast.ofNodeAt]
  rfl

theorem place?_ends (s : Scene) {i : Instance} {selector : Selector}
    (h : isChild selector = true) :
    Ends (place? (.node s.ast) selector) i
      (.ok ((placeOf s.node selector).map fun c => .node (s.child c))) i := by
  have named : s.ast.namedChildren = s.node.namedChildren.map s.child := by
    rw [Ast.namedChildren, s.children_ast, List.filter_map, Node.namedChildren]
    congr 1
    exact List.filter_congr fun c _ => s.isNamed_child c
  have field : ∀ f, s.ast.childAt? f = (s.node.child? f).map s.child := by
    intro f
    rw [Ast.childAt?, s.children_ast, List.find?_map, Node.child?]
    congr 2
    funext c
    exact congrArg (· == some f) (s.field?_child c)
  cases selector with
  | range lo hi => cases h
  | childAt f =>
    have : (f.str?.bind s.ast.childAt?).map Subject.node =
        (f.str?.bind s.node.child?).map fun c => Subject.node (s.child c) := by
      cases f.str? with
      | none => rfl
      | some f =>
        rw [Option.bind_some, Option.bind_some, field, Option.map_map]
        rfl
    rw [placeOf, ← this]
    exact ends_pure _
  | child index =>
    have : (itemAt? s.ast.children index).map Subject.node =
        (itemAt? s.node.children index).map fun c => Subject.node (s.child c) := by
      rw [s.children_ast, itemAt?_map, Option.map_map]
      rfl
    rw [placeOf, ← this]
    exact ends_pure _
  | namedChild index =>
    have : (itemAt? s.ast.namedChildren index).map Subject.node =
        (itemAt? s.node.namedChildren index).map fun c => Subject.node (s.child c) := by
      rw [named, itemAt?_map, Option.map_map]
      rfl
    rw [placeOf, ← this]
    exact ends_pure _

/-! ## Actions -/

mutual

/-- Whether an action does nothing but report at the handler's node or a child of it, count, and
end the handler. -/
def onlyReports : Action → Bool
  | .report message hint => isText message && isHint hint
  | .reportAt selector message hint => isChild selector && isText message && isHint hint
  | .giveBack _ | .count => true
  | .branch g _ equal different => isKnown g && onlyReportsAll equal && onlyReportsAll different
  | .attempt actions => onlyReportsAll actions
  | _ => false

def onlyReportsAll : List Action → Bool
  | [] => true
  | a :: rest => onlyReports a && onlyReportsAll rest

end

/-- What actions do: the findings they report in order, what the instance knows after them, and
the value of the handler if they have ended it. -/
structure Effect where
  remarks : List Remark
  tally : Tally
  answer : Maybe

/-- The effect of reporting at a node. -/
def remarkAt (s : Scene) (t : Tally) (n : Node) (message hint : Wording) : Effect :=
  { remarks := [⟨n, (said s.ast t message).getD "", said s.ast t hint⟩]
    tally := { t with findings := t.findings + 1 }
    answer := none }

mutual

/-- The effect of an action that only reports. -/
def effect (s : Scene) (t : Tally) : Action → Effect
  | .report message hint => remarkAt s t s.node message hint
  | .reportAt selector message hint =>
    match placeOf s.node selector with
    | none => ⟨[], t, none⟩
    | some c => remarkAt s t c message hint
  | .giveBack v => ⟨[], t, some v⟩
  | .branch g v equal different =>
    if isValue v (known s.ast t g) then effectAll s t equal else effectAll s t different
  | .attempt actions => effectAll s t actions
  | .count => ⟨[], { t with count := t.count + 1 }, none⟩
  | _ => ⟨[], t, none⟩

/-- The effect of actions that only report, up to the first that ends the handler. -/
def effectAll (s : Scene) (t : Tally) : List Action → Effect
  | [] => ⟨[], t, none⟩
  | a :: rest =>
    let first := effect s t a
    match first.answer with
    | some _ => first
    | none =>
      let others := effectAll s first.tally rest
      ⟨first.remarks ++ others.remarks, others.tally, others.answer⟩

end

/-! ## Where findings are -/

theorem mem_of_itemAt? {α : Type} {items : List α} {index : Json} {a : α}
    (h : itemAt? items index = some a) : a ∈ items := by
  have key : ∀ o : Option Nat, (o.bind fun i => items[i]?) = some a → a ∈ items := by
    intro o ho
    obtain ⟨i, -, hi⟩ := Option.bind_eq_some_iff.1 ho
    exact List.mem_of_getElem? hi
  have whole : ∀ o : Option Double,
      (o.bind fun x => if x.isWhole ∧ 0 ≤ x.toInt then items[x.toInt.toNat]? else none) = some a →
      a ∈ items := by
    intro o ho
    obtain ⟨x, -, hx⟩ := Option.bind_eq_some_iff.1 ho
    split at hx
    · exact List.mem_of_getElem? hx
    · cases hx
  cases index with
  | str s => exact key _ h
  | null => exact whole (number? .null) h
  | bool b => exact whole (number? (.bool b)) h
  | int n => exact whole (number? (.int n)) h
  | float x => exact whole (number? (.float x)) h
  | arr items => exact whole (number? (.arr items)) h
  | obj members => exact whole (number? (.obj members)) h

theorem mem_children_of_placeOf {n c : Node} {selector : Selector}
    (h : placeOf n selector = some c) : c ∈ n.children := by
  cases selector with
  | range lo hi => cases h
  | childAt field =>
    obtain ⟨f, -, hf⟩ := Option.bind_eq_some_iff.1 h
    exact Node.mem_children_of_child? hf
  | child index => exact mem_of_itemAt? h
  | namedChild index => exact Node.mem_children_of_mem_namedChildren (mem_of_itemAt? h)

mutual

/-- Findings are reported at the handler's node or at a child of it. -/
theorem node_of_mem_effect (s : Scene) {r : Remark} : (a : Action) → (t : Tally) →
    r ∈ (effect s t a).remarks → r.node = s.node ∨ r.node ∈ s.node.children
  | .report message hint, t, h => by
    rw [effect] at h
    exact .inl (congrArg Remark.node (List.mem_singleton.1 h))
  | .reportAt selector message hint, t, h => by
    rw [effect] at h
    cases hplace : placeOf s.node selector with
    | none =>
      rw [hplace] at h
      cases h
    | some c =>
      rw [hplace] at h
      rw [List.mem_singleton.1 h]
      exact .inr (mem_children_of_placeOf hplace)
  | .branch g v equal different, t, h => by
    rw [effect] at h
    split at h
    · exact node_of_mem_effectAll s equal t h
    · exact node_of_mem_effectAll s different t h
  | .attempt actions, t, h => by
    rw [effect] at h
    exact node_of_mem_effectAll s actions t h
  | .giveBack _, t, h | .count, t, h | .push _, t, h | .throwError _, t, h | .ask _ _ _, t, h
  | .visitChildren, t, h => by simp [effect] at h

theorem node_of_mem_effectAll (s : Scene) {r : Remark} : (actions : List Action) → (t : Tally) →
    r ∈ (effectAll s t actions).remarks → r.node = s.node ∨ r.node ∈ s.node.children
  | [], t, h => by
    rw [effectAll] at h
    cases h
  | a :: rest, t, h => by
    rw [effectAll] at h
    dsimp only at h
    split at h
    · exact node_of_mem_effect s a t h
    · rcases List.mem_append.1 h with h | h
      · exact node_of_mem_effect s a t h
      · exact node_of_mem_effectAll s rest _ h

end

/-! ## Carrying them out -/

/-- The findings of an instance after some findings have been reported. -/
def withRemarks (items : List Json) (remarks : List Remark) : List Json :=
  items ++ remarks.map fun r => Payload.diagnosticJson r.wire

theorem withRemarks_append (items : List Json) (first second : List Remark) :
    withRemarks (withRemarks items first) second = withRemarks items (first ++ second) := by
  simp [withRemarks]

/-- From an instance that knows its tally, a run ends with this effect, and the instance still knows
its tally. -/
def Follows (x : Run Maybe) (t : Tally) (e : Effect) : Prop :=
  ∀ items : List Json, t.findings = items.length →
    Ends x (t.instance items) (.ok e.answer) (e.tally.instance (withRemarks items e.remarks)) ∧
      e.tally.findings = (withRemarks items e.remarks).length

/-- A run that ends at once with a value. -/
theorem follows_pure (t : Tally) (answer : Maybe) : Follows (pure answer) t ⟨[], t, answer⟩ := by
  intro items h
  rw [withRemarks, List.map_nil, List.append_nil]
  exact ⟨ends_pure answer, h⟩

theorem Follows.bind {α : Type} {x : Run α} {f : α → Run Maybe} {t : Tally} {e : Effect} {a : α}
    (h : ∀ items : List Json, t.findings = items.length →
      Ends x (t.instance items) (.ok a) (t.instance items))
    (h' : Follows (f a) t e) : Follows (x >>= f) t e := by
  intro items hitems
  obtain ⟨hends, hlength⟩ := h' items hitems
  exact ⟨(h items hitems).bind hends, hlength⟩

/-- Whether methods report as the visitor does. -/
def Inherits (methods : Methods) : Prop :=
  ∀ s message hint, methods.addDiagnostic s message hint = addFinding s message hint

theorem addFinding_ends (n : Ast) (r : Remark) (h : n.span = r.node.span) {message hint : Maybe}
    (hmessage : message.map (fun m => ("message", m)) = some ("message", .str r.message))
    (hhint : hint.getD .null = .ofText? r.hint) (t : Tally) (items : List Json) :
    Ends (addFinding (.node n) message hint) (t.instance items) (.ok ())
      (t.instance (withRemarks items [r])) := by
  have hjson : Json.obj ([("span", Handler.spanJson (.int n.span.lo) (.int n.span.hi))]
      ++ (message.map fun m => ("message", m)).toList ++ [("hint", hint.getD .null)]) =
      Payload.diagnosticJson r.wire := by
    rw [hmessage, hhint, h]
    rfl
  refine (ends_pure _).bind ?_
  rw [hjson]
  exact ends_modify _

/-- Reporting at a node has the effect that it should have. -/
theorem follows_remarkAt {methods : Methods} (inherits : Inherits methods) (s : Scene) {n : Ast}
    {node : Node} (hspan : n.span = node.span) (t : Tally) {message hint : Wording}
    (hmessage : isText message = true) (hhint : isHint hint = true) :
    Follows (do
        useInstance
        let message ← wording (.node s.ast) message
        methods.addDiagnostic (.node n) message (← wording (.node s.ast) hint)
        return none)
      t (remarkAt s t node message hint) := by
  intro items h
  obtain ⟨m, hm, -, htext⟩ := wording_ends s.ast h (isHint_of_isText hmessage)
  obtain ⟨v, hv, hvalue, -⟩ := wording_ends s.ast h hhint
  refine ⟨?_, by simp [withRemarks, remarkAt, h]⟩
  refine (ends_useInstance rfl).bind (hm.bind (hv.bind ?_))
  rw [inherits]
  exact (addFinding_ends n ⟨node, _, _⟩ hspan (htext hmessage) hvalue t items).bind (ends_pure none)

mutual

/-- An action that only reports has its effect. -/
theorem act_follows {methods : Methods} (inherits : Inherits methods) (s : Scene) :
    (a : Action) → onlyReports a = true → (t : Tally) →
      Follows (act methods (.node s.ast) a) t (effect s t a)
  | .report message hint, h, t => by
    rw [onlyReports, Bool.and_eq_true] at h
    rw [act, effect]
    exact follows_remarkAt inherits s s.span_ast t h.1 h.2
  | .reportAt selector message hint, h, t => by
    rw [onlyReports, Bool.and_eq_true, Bool.and_eq_true] at h
    rw [act, effect]
    refine Follows.bind (fun items _ => place?_ends s h.1.1) ?_
    cases placeOf s.node selector with
    | none => exact follows_pure t none
    | some c => exact follows_remarkAt inherits s (s.span_child c) t h.1.2 h.2
  | .giveBack v, _, t => by
    rw [act, effect]
    exact follows_pure t (some v)
  | .branch g v equal different, h, t => by
    rw [onlyReports, Bool.and_eq_true, Bool.and_eq_true] at h
    rw [act, effect]
    refine Follows.bind (fun items hitems => look_ends s.ast hitems h.1.1) ?_
    split
    · exact actAll_follows inherits s equal h.1.2 t
    · exact actAll_follows inherits s different h.2 t
  | .attempt actions, h, t => by
    rw [onlyReports] at h
    rw [act, effect]
    intro items hitems
    obtain ⟨hends, hlength⟩ := actAll_follows inherits s actions h t items hitems
    exact ⟨hends.tryCatch, hlength⟩
  | .count, _, t => by
    rw [act, effect]
    intro items hitems
    rw [withRemarks, List.map_nil, List.append_nil]
    exact ⟨(ends_useInstance rfl).bind ((ends_modify _).bind (ends_pure none)), hitems⟩

/-- Actions that only report have their effect together. -/
theorem actAll_follows {methods : Methods} (inherits : Inherits methods) (s : Scene) :
    (actions : List Action) → onlyReportsAll actions = true → (t : Tally) →
      Follows (actAll methods (.node s.ast) actions) t (effectAll s t actions)
  | [], _, t => by
    rw [actAll, effectAll]
    exact follows_pure t none
  | a :: rest, h, t => by
    rw [onlyReportsAll, Bool.and_eq_true] at h
    rw [actAll, effectAll]
    intro items hitems
    obtain ⟨hends, hlength⟩ := act_follows inherits s a h.1 t items hitems
    generalize effect s t a = first at hends hlength
    -- an action that has answered ends the handler, and the others are not carried out
    cases hanswer : first.answer with
    | some v =>
      rw [hanswer] at hends
      refine ⟨?_, hlength⟩
      dsimp only
      rw [hanswer]
      exact hends.bind (ends_pure _)
    | none =>
      obtain ⟨hends', hlength'⟩ := actAll_follows inherits s rest h.2 first.tally _ hlength
      rw [hanswer] at hends
      rw [withRemarks_append] at hends' hlength'
      exact ⟨hends.bind hends', hlength'⟩

end

end Handler

end ScriptLint

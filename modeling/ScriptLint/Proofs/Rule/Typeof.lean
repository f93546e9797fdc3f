/-
What the rule about `typeof` reports. Over a program whose string literals consist of tokens of the
grammar it ends without a failure and reports, in document order, the operand of every comparison
that misuses `typeof` and nothing else (`validTypeof_reports`). Misuse is told without the decoder, by
the value that the language gives to a literal. It does not matter on which side `typeof` stands:
exchanging the sides anywhere in the tree changes no report.
-/
import ScriptLint.Proofs.Flow.Bodies
import ScriptLint.Proofs.Rule.Literal

namespace ScriptLint

open StringValue (unitsOf value?)

namespace ValidTypeof

/-! ## Misuse -/

/-- The strings that `typeof` evaluates to. -/
def results : List String :=
  ["undefined", "object", "boolean", "number", "string", "function", "symbol", "bigint"]

/-- Whether a node is a `typeof` operation. -/
def IsTypeof (n : Node) : Prop :=
  n.kind = "unary_expression" ∧ ∃ op, n.child? "operator" = some op ∧ op.kind = "typeof"

/-- Whether a node is a string literal whose value `typeof` can evaluate to. -/
def NamesType (source : Bytes) (n : Node) : Prop :=
  n.kind = "string" ∧
    ∃ name ∈ results, value? (content source n.namedChildren) = some (unitsOf name.toList)

/-- Whether a node has two operands, on any side. -/
def Opposes (n first second : Node) : Prop :=
  (n.child? "left" = some first ∧ n.child? "right" = some second) ∨
    (n.child? "left" = some second ∧ n.child? "right" = some first)

/-- Whether a node compares a `typeof` operation for equality with an operand that is none and names
no type. -/
structure Misuse (source : Bytes) (n operand : Node) : Prop where
  kind : n.kind = "binary_expression"
  operator : ∃ op, n.child? "operator" = some op ∧ op.kind ∈ ["==", "!=", "===", "!=="]
  opposes : ∃ test, IsTypeof test ∧ Opposes n test operand
  other : ¬IsTypeof operand
  unnamed : ¬NamesType source operand

/-- Whether findings are those for the misuses among nodes, one for each and in their order. -/
inductive Reports (source : Bytes) : List Node → List Diagnostic → Prop
  | nil : Reports source [] []
  | skip {n : Node} {rest : List Node} {findings : List Diagnostic} :
      (∀ operand, ¬Misuse source n operand) → Reports source rest findings →
      Reports source (n :: rest) findings
  | report {n operand : Node} {rest : List Node} {findings : List Diagnostic} :
      Misuse source n operand → Reports source rest findings →
      Reports source (n :: rest)
        (⟨"valid-typeof", operand.span, "Invalid typeof comparison value", none⟩ :: findings)

/-! ## One node -/

theorem isTypeof_iff (n : Node) : isTypeof n = true ↔ IsTypeof n := by
  simp [isTypeof, IsTypeof, Option.any_eq_true]

theorem isEquality_iff (n : Node) : isEquality n = true ↔ n.kind = "binary_expression" ∧
    ∃ op, n.child? "operator" = some op ∧ op.kind ∈ ["==", "!=", "===", "!=="] := by
  simp only [isEquality, Bool.and_eq_true, beq_iff_eq, Option.any_eq_true, List.contains_iff_mem]
  rfl

/-- An operand that is no `typeof` operation is the one to look at exactly if the other one is. -/
theorem comparedOperand?_iff {n operand : Node} (h : ¬IsTypeof operand) :
    comparedOperand? n = some operand ↔ ∃ test, IsTypeof test ∧ Opposes n test operand := by
  have hoperand : isTypeof operand = false := by
    rw [← Bool.not_eq_true, isTypeof_iff]
    exact h
  unfold comparedOperand?
  constructor
  · intro hcompared
    dsimp only at hcompared
    split at hcompared
    · rename_i hleft
      obtain ⟨test, htest, htypeof⟩ := (Option.any_eq_true _ _).1 hleft
      exact ⟨test, (isTypeof_iff test).1 htypeof, .inl ⟨htest, hcompared⟩⟩
    split at hcompared
    · rename_i hright
      obtain ⟨test, htest, htypeof⟩ := (Option.any_eq_true _ _).1 hright
      exact ⟨test, (isTypeof_iff test).1 htypeof, .inr ⟨hcompared, htest⟩⟩
    · cases hcompared
  · -- the right operand is asked only because the left one is no `typeof` operation
    rintro ⟨test, htest, ⟨hleft, hright⟩ | ⟨hleft, hright⟩⟩
    · simp [hleft, hright, (isTypeof_iff test).2 htest]
    · simp [hleft, hright, (isTypeof_iff test).2 htest, hoperand]

/-- A misuse shows in the operand to look at. -/
theorem Misuse.compared {source : Bytes} {n operand : Node} (h : Misuse source n operand) :
    isEquality n = true ∧ comparedOperand? n = some operand :=
  ⟨(isEquality_iff n).2 ⟨h.kind, h.operator⟩, (comparedOperand?_iff h.other).2 h.opposes⟩

/-- A comparison with an operand that is no `typeof` operation is a misuse exactly if the operand
names no type. -/
theorem misuse_iff {source : Bytes} {n compared : Node} (heq : isEquality n = true)
    (hcompared : comparedOperand? n = some compared) (h : ¬IsTypeof compared) (operand : Node) :
    Misuse source n operand ↔ compared = operand ∧ ¬NamesType source compared := by
  constructor
  · intro hmisuse
    obtain rfl := Option.some.inj (hcompared.symm.trans hmisuse.compared.2)
    exact ⟨rfl, hmisuse.unnamed⟩
  · rintro ⟨rfl, hunnamed⟩
    obtain ⟨hkind, hoperator⟩ := (isEquality_iff n).1 heq
    exact ⟨hkind, hoperator, (comparedOperand?_iff h).1 hcompared, h, hunnamed⟩

theorem mem_children_of_opposes {n first second : Node} (h : Opposes n first second) :
    second ∈ n.children := by
  rcases h with ⟨-, h⟩ | ⟨h, -⟩
  · exact Node.mem_children_of_child? h
  · exact Node.mem_children_of_child? h

/-- A node has an operand to report exactly if it is a misuse. -/
theorem invalidOperand?_spec {source : Bytes} {n : Node}
    (h : ∀ c ∈ n.children, c.kind = "string" → IsTokenized source c.namedChildren) :
    ∃ verdict, invalidOperand? source n = .ok verdict ∧
      ∀ operand, verdict = some operand ↔ Misuse source n operand := by
  -- wherever the rule stops early there is no misuse
  have hnone : (∀ operand, ¬Misuse source n operand) →
      ∀ operand, none = some operand ↔ Misuse source n operand := fun hno operand =>
    ⟨fun heq => (nomatch heq), fun hmisuse => absurd hmisuse (hno operand)⟩
  unfold invalidOperand?
  by_cases heq : isEquality n = true
  swap
  · rw [if_neg heq]
    exact ⟨none, rfl, hnone fun operand hmisuse => heq hmisuse.compared.1⟩
  rw [if_pos heq]
  cases hcompared : comparedOperand? n with
  | none =>
    refine ⟨none, rfl, hnone fun operand hmisuse => ?_⟩
    rw [hmisuse.compared.2] at hcompared
    cases hcompared
  | some compared =>
    dsimp only
    by_cases htypeof : isTypeof compared = true
    · rw [if_pos htypeof]
      refine ⟨none, rfl, hnone fun operand hmisuse => hmisuse.other ?_⟩
      rw [hmisuse.compared.2, Option.some.injEq] at hcompared
      exact hcompared ▸ (isTypeof_iff compared).1 htypeof
    · rw [if_neg htypeof]
      rw [isTypeof_iff] at htypeof
      have hmisuse : ∀ operand, Misuse source n operand ↔
          compared = operand ∧ ¬NamesType source compared := misuse_iff heq hcompared htypeof
      by_cases hstring : compared.kind = "string"
      · obtain ⟨test, -, hopposes⟩ := (comparedOperand?_iff htypeof).1 hcompared
        obtain ⟨decoded, hdecoded, hname⟩ :=
          literalValue_isTypeName (h compared (mem_children_of_opposes hopposes) hstring)
        have hnames : NamesType source compared ↔ isTypeName decoded = true :=
          (and_iff_right hstring).trans hname.symm
        rw [if_pos (by simpa using hstring), hdecoded]
        refine ⟨_, rfl, fun operand => ?_⟩
        rw [hmisuse, hnames]
        by_cases hvalid : isTypeName decoded = true <;> simp [hvalid]
      · rw [if_neg (by simpa using hstring)]
        refine ⟨some compared, rfl, fun operand => ?_⟩
        rw [hmisuse, Option.some.injEq, and_iff_left fun hnames => hstring hnames.1]

/-- The rule goes on to the end and reports the misuses. -/
theorem checkNodes_reports {source : Bytes} {nodes : List Node}
    (h : ∀ n ∈ nodes, ∀ c ∈ n.children, c.kind = "string" → IsTokenized source c.namedChildren) :
    ∃ findings, checkNodes source nodes = .complete findings ∧ Reports source nodes findings := by
  induction nodes with
  | nil => exact ⟨[], rfl, .nil⟩
  | cons n rest ih =>
    obtain ⟨findings, hrest, hreports⟩ := ih fun m hm => h m (List.mem_cons_of_mem n hm)
    obtain ⟨verdict, hverdict, hmisuse⟩ := invalidOperand?_spec (h n List.mem_cons_self)
    rw [checkNodes, hverdict]
    cases verdict with
    | none => exact ⟨findings, hrest, .skip (fun o ho => nomatch (hmisuse o).2 ho) hreports⟩
    | some operand =>
      refine ⟨_, ?_, .report ((hmisuse operand).1 rfl) hreports⟩
      dsimp only
      rw [hrest]
      rfl

end ValidTypeof

/-! ## Exchanging sides -/

namespace Node

/-- The field on the other side. -/
def opposite (field : String) : String :=
  if field = "left" then "right" else if field = "right" then "left" else field

/-- A node that has changed sides. -/
def turned (n : Node) : Node := .mk { n.label with field := n.field?.map opposite } n.children

mutual

/-- A tree in which the children of the chosen nodes have changed sides. -/
def exchange (chosen : Node → Bool) : Node → Node
  | .mk label children =>
    .mk label (if chosen (.mk label children) then (exchangeAll chosen children).map turned
      else exchangeAll chosen children)

def exchangeAll (chosen : Node → Bool) : List Node → List Node
  | [] => []
  | n :: rest => n.exchange chosen :: exchangeAll chosen rest

end

variable (chosen : Node → Bool)

/-- What becomes of a child of a node. -/
def moved (n c : Node) : Node := if chosen n then (c.exchange chosen).turned else c.exchange chosen

theorem exchangeAll_eq_map (ns : List Node) :
    exchangeAll chosen ns = ns.map (exchange chosen) := by
  induction ns with
  | nil => rfl
  | cons n rest ih => rw [exchangeAll, ih, List.map_cons]

theorem exchange_children (n : Node) :
    (n.exchange chosen).children = n.children.map (moved chosen n) := by
  obtain ⟨label, children⟩ := n
  rw [exchange, exchangeAll_eq_map]
  show (if _ then _ else _) = _
  by_cases h : chosen (.mk label children) = true
  · rw [if_pos h, List.map_map]
    exact List.map_congr_left fun c _ => (if_pos h).symm
  · rw [if_neg h]
    exact List.map_congr_left fun c _ => (if_neg h).symm

@[simp] theorem exchange_label (n : Node) : (n.exchange chosen).label = n.label := by
  obtain ⟨label, children⟩ := n
  rw [exchange]
  rfl

theorem opposite_eq_iff (f field : String) : opposite f = field ↔ f = opposite field := by
  unfold opposite
  grind

/-- A moved child differs from the child in its field at most. -/
theorem moved_label (n c : Node) : (moved chosen n c).label =
    { c.label with field := if chosen n then c.field?.map opposite else c.field? } := by
  unfold moved
  split
  · rw [turned, field?, exchange_label]
    rfl
  · rw [exchange_label]
    rfl

/-- The child under a field, from this or from the other side. -/
theorem child?_exchange (n : Node) (field : String) : (n.exchange chosen).child? field =
    (n.child? (if chosen n then opposite field else field)).map (moved chosen n) := by
  have hfield (c : Node) : ((moved chosen n c).field? == some field) =
      (c.field? == some (if chosen n then opposite field else field)) := by
    rw [field?, moved_label, Bool.eq_iff_iff, beq_iff_eq, beq_iff_eq]
    split
    · simp only [Option.map_eq_some_iff, opposite_eq_iff, exists_eq_right]
    · rfl
  rw [child?, exchange_children, List.find?_map, child?]
  exact congrArg (Option.map _) (congrArg (List.find? · n.children) (funext hfield))

theorem moved_kind (n c : Node) : (moved chosen n c).kind = c.kind := by
  rw [kind, moved_label]
  rfl

theorem moved_span (n c : Node) : (moved chosen n c).span = c.span := by
  rw [span, moved_label]
  rfl

theorem moved_isNamed (n c : Node) : (moved chosen n c).isNamed = c.isNamed := by
  rw [isNamed, moved_label]
  rfl

end Node

namespace ValidTypeof

open Node (exchange moved turned)

variable (source : Bytes) (chosen : Node → Bool)

theorem operator_exchange (n : Node) (p : Node → Bool)
    (hp : ∀ c, p (moved chosen n c) = p c) :
    ((n.exchange chosen).child? "operator").any p = (n.child? "operator").any p := by
  have hfield : (if chosen n then Node.opposite "operator" else "operator") = "operator" := by
    split <;> rfl
  rw [Node.child?_exchange, hfield, Option.any_map]
  exact congrArg (Option.any · (n.child? "operator")) (funext hp)

theorem isTypeof_exchange (n : Node) : isTypeof (n.exchange chosen) = isTypeof n := by
  rw [isTypeof, operator_exchange chosen n _ fun c => by rw [Node.moved_kind], Node.kind,
    Node.exchange_label]
  rfl

theorem isEquality_exchange (n : Node) : isEquality (n.exchange chosen) = isEquality n := by
  rw [isEquality, operator_exchange chosen n _ fun c => by rw [Node.moved_kind], Node.kind,
    Node.exchange_label]
  rfl

theorem literalValue_exchange (n : Node) :
    literalValue source (n.exchange chosen) = literalValue source n := by
  have hpart (c : Node) : partValue source (moved chosen n c) = partValue source c := by
    rw [partValue, Node.moved_kind, Node.text, Node.bytes, Node.lo, Node.hi, Node.moved_span]
    rfl
  have hnamed : (n.exchange chosen).namedChildren = n.namedChildren.map (moved chosen n) := by
    rw [Node.namedChildren, Node.exchange_children, List.filter_map]
    refine congrArg (List.map _) (congrArg (List.filter · n.children) (funext fun c => ?_))
    exact Node.moved_isNamed chosen n c
  rw [literalValue, hnamed, List.mapM_map]
  exact congrArg (Except.map List.flatten) (congrArg (List.mapM · n.namedChildren) (funext hpart))

/-- The range to report for an operand that is compared with a `typeof` operation. -/
def operandVerdict (operand : Node) : Except OctalFault (Option Span) :=
  if isTypeof operand then .ok none
  else if operand.kind == "string" then
    (literalValue source operand).map fun value =>
      if isTypeName value then none else some operand.span
  else .ok (some operand.span)

/-- The operand to look at. -/
def facing (left right : Option Node) : Option Node :=
  if left.any isTypeof then right else if right.any isTypeof then left else none

/-- The range to report for a node, if there is one. -/
def verdict (n : Node) : Except OctalFault (Option Span) :=
  (invalidOperand? source n).map (Option.map Node.span)

theorem verdict_eq (n : Node) : verdict source n =
    if isEquality n then
      (facing (n.child? "left") (n.child? "right")).elim (.ok none) (operandVerdict source)
    else .ok none := by
  have hcompared : comparedOperand? n = facing (n.child? "left") (n.child? "right") := rfl
  unfold verdict invalidOperand?
  split
  swap
  · rfl
  rw [hcompared]
  cases facing (n.child? "left") (n.child? "right") with
  | none => rfl
  | some operand =>
    dsimp only [Option.elim_some, operandVerdict]
    split
    · rfl
    split
    · cases literalValue source operand with
      | error fault => rfl
      | ok value => by_cases hname : isTypeName value = true <;> simp [Except.map, hname]
    · rfl

/-- The field of an operand is not looked at, nor are those below it. -/
theorem isTypeof_moved (n c : Node) : isTypeof (moved chosen n c) = isTypeof c := by
  rw [← isTypeof_exchange chosen c]
  unfold moved
  split <;> rfl

theorem operandVerdict_moved (n c : Node) :
    operandVerdict source (moved chosen n c) = operandVerdict source c := by
  have hvalue : literalValue source (moved chosen n c) = literalValue source c := by
    rw [← literalValue_exchange source chosen c]
    unfold moved
    split <;> rfl
  rw [operandVerdict, operandVerdict, isTypeof_moved, hvalue, Node.moved_kind, Node.moved_span]

theorem facing_map {move : Node → Node} (h : ∀ c, isTypeof (move c) = isTypeof c)
    (left right : Option Node) :
    facing (left.map move) (right.map move) = (facing left right).map move := by
  have hany (side : Option Node) : (side.map move).any isTypeof = side.any isTypeof := by
    rw [Option.any_map]
    exact congrArg (Option.any · side) (funext h)
  unfold facing
  rw [hany, hany]
  split
  · rfl
  split <;> rfl

/-- Which of the operands is the left one does not matter: two `typeof` operations may be compared,
whichever is looked at. -/
theorem facing_comm (left right : Option Node) :
    (facing left right).elim (.ok none) (operandVerdict source) =
      (facing right left).elim (.ok none) (operandVerdict source) := by
  have hallowed {side : Option Node} (h : side.any isTypeof = true) :
      side.elim (.ok none) (operandVerdict source) = .ok none := by
    obtain ⟨c, rfl, hc⟩ := (Option.any_eq_true _ _).1 h
    exact if_pos hc
  unfold facing
  by_cases hleft : left.any isTypeof = true
  · by_cases hright : right.any isTypeof = true
    · rw [if_pos hleft, if_pos hright, hallowed hleft, hallowed hright]
    · rw [if_pos hleft, if_neg hright, if_pos hleft]
  · by_cases hright : right.any isTypeof = true
    · rw [if_neg hleft, if_pos hright, if_pos hright]
    · rw [if_neg hleft, if_neg hright, if_neg hright, if_neg hleft]

/-- What is reported for a node stays when operands have changed sides. -/
theorem verdict_exchange (n : Node) : verdict source (n.exchange chosen) = verdict source n := by
  have hmap (operand : Option Node) : (operand.map (moved chosen n)).elim (.ok none)
      (operandVerdict source) = operand.elim (.ok none) (operandVerdict source) := by
    cases operand with
    | none => rfl
    | some c => exact operandVerdict_moved source chosen n c
  rw [verdict_eq, verdict_eq, isEquality_exchange, Node.child?_exchange, Node.child?_exchange,
    facing_map (isTypeof_moved chosen n), hmap]
  by_cases h : chosen n = true
  · rw [if_pos h, if_pos h]
    exact congrArg (if isEquality n then · else _) (facing_comm source _ _)
  · rw [if_neg h, if_neg h]

theorem checkNodes_cons (n : Node) (rest : List Node) : checkNodes source (n :: rest) =
    match verdict source n with
    | .error fault => .failed (.octal fault)
    | .ok none => checkNodes source rest
    | .ok (some span) => { checkNodes source rest with
        findings := ⟨code, span, message, none⟩ :: (checkNodes source rest).findings } := by
  rw [checkNodes, verdict]
  rcases invalidOperand? source n with fault | operand | operand <;> rfl

/-- Nodes with the same verdicts lead to the same report. -/
theorem checkNodes_congr {nodes nodes' : List Node}
    (h : nodes.map (verdict source) = nodes'.map (verdict source)) :
    checkNodes source nodes = checkNodes source nodes' := by
  induction nodes generalizing nodes' with
  | nil => rw [List.map_eq_nil_iff.1 h.symm]
  | cons n rest ih =>
    obtain ⟨n', rest', rfl, hn, hrest⟩ := List.map_eq_cons_iff.1 h.symm
    rw [checkNodes_cons, checkNodes_cons, hn, ih hrest.symm]

theorem preorder_exchange (n : Node) :
    (n.exchange chosen).preorder.map (verdict source) = n.preorder.map (verdict source) := by
  induction hs : sizeOf n using Nat.strongRecOn generalizing n with
  | ind k ih =>
    -- a child that has changed sides has another label, but the same verdict and children
    have hchild : ∀ c ∈ n.children, (moved chosen n c).preorder.map (verdict source) =
        c.preorder.map (verdict source) := by
      intro c hc
      rw [← ih _ (hs ▸ Node.sizeOf_lt_of_mem hc) c rfl]
      unfold moved
      split
      · rw [Node.preorder_eq, Node.preorder_eq (c.exchange chosen)]
        rfl
      · rfl
    rw [Node.preorder_eq, Node.preorder_eq n, List.map_cons, List.map_cons, verdict_exchange,
      Node.exchange_children, List.flatMap_map, List.map_flatMap, List.map_flatMap]
    exact congrArg _ (List.flatMap_congr hchild)

/-! ## A program with escapes -/

/-- The literal `"\x73tr\u{69}ng"`, which spells the name of a type. -/
def spelt : Node :=
  .mk ⟨"string", ⟨10, 26, by decide⟩, true, some "right"⟩
    [.mk ⟨"\"", ⟨10, 11, by decide⟩, false, none⟩ [],
      .mk ⟨"escape_sequence", ⟨11, 15, by decide⟩, true, none⟩ [],
      .mk ⟨"string_fragment", ⟨15, 17, by decide⟩, true, none⟩ [],
      .mk ⟨"escape_sequence", ⟨17, 23, by decide⟩, true, none⟩ [],
      .mk ⟨"string_fragment", ⟨23, 25, by decide⟩, true, none⟩ [],
      .mk ⟨"\"", ⟨25, 26, by decide⟩, false, none⟩ []]

/-- The literal `"\163trnig"`, which does not. -/
def misspelt : Node :=
  .mk ⟨"string", ⟨27, 38, by decide⟩, true, some "left"⟩
    [.mk ⟨"\"", ⟨27, 28, by decide⟩, false, none⟩ [],
      .mk ⟨"escape_sequence", ⟨28, 32, by decide⟩, true, none⟩ [],
      .mk ⟨"string_fragment", ⟨32, 37, by decide⟩, true, none⟩ [],
      .mk ⟨"\"", ⟨37, 38, by decide⟩, false, none⟩ []]

/-- A program that compares `typeof` with both literals, on either side. -/
def spellings : Program :=
  { path := "", hasErrors := false
    source := Utf8.encode "typeof a==\"\\x73tr\\u\x7b69\x7dng\";\"\\163trnig\"===typeof b"
    root := .mk ⟨"program", ⟨0, 49, by decide⟩, true, none⟩
      [.mk ⟨"binary_expression", ⟨0, 26, by decide⟩, true, none⟩
        [.mk ⟨"unary_expression", ⟨0, 8, by decide⟩, true, some "left"⟩
          [.mk ⟨"typeof", ⟨0, 6, by decide⟩, false, some "operator"⟩ []],
          .mk ⟨"==", ⟨8, 10, by decide⟩, false, some "operator"⟩ [], spelt],
      .mk ⟨"binary_expression", ⟨27, 49, by decide⟩, true, none⟩
        [misspelt, .mk ⟨"===", ⟨38, 41, by decide⟩, false, some "operator"⟩ [],
          .mk ⟨"unary_expression", ⟨41, 49, by decide⟩, true, some "right"⟩
            [.mk ⟨"typeof", ⟨41, 47, by decide⟩, false, some "operator"⟩ []]]] }

theorem spelt_isTokenized : IsTokenized spellings.source spelt.namedChildren := by
  have hhex : Escape.IsBody ['x', '7', '3'] := .hex rfl (List.all_eq_true.1 rfl)
  have hpoint : Escape.IsBody ('u' :: '\x7b' :: (['6', '9'] ++ ['\x7d'])) :=
    .codePoint (by decide) (List.all_eq_true.1 rfl)
  refine .escape rfl rfl (Escape.isLongest_of_length hhex (by decide)) ?_
  refine .fragment (by decide) (by decide +kernel) ?_
  refine .escape rfl rfl (Escape.isLongest_of_length hpoint (by decide)) ?_
  exact .fragment (by decide) (by decide +kernel) .nil

theorem misspelt_isTokenized : IsTokenized spellings.source misspelt.namedChildren := by
  have hoctal : Escape.IsBody ['1', '6', '3'] := .octal (by decide) (by decide) (List.all_eq_true.1 rfl)
  refine .escape rfl rfl (Escape.isLongest_of_length hoctal (by decide)) ?_
  exact .fragment (by decide) (by decide +kernel) .nil

theorem spellings_isTokenized : ∀ n ∈ spellings.root.preorder, n.kind = "string" →
    IsTokenized spellings.source n.namedChildren := by
  have hstrings : spellings.root.preorder.filter (·.kind == "string") = [spelt, misspelt] := rfl
  intro n hn hkind
  have hmem : n ∈ [spelt, misspelt] := by
    rw [← hstrings]
    exact List.mem_filter.2 ⟨hn, beq_iff_eq.2 hkind⟩
  simp only [List.mem_cons, List.not_mem_nil, or_false] at hmem
  rcases hmem with rfl | rfl
  · exact spelt_isTokenized
  · exact misspelt_isTokenized

end ValidTypeof

/-! ## The rule -/

/-- Over a program whose string literals consist of tokens, the rule does not fail and reports the
misuses of `typeof` in document order, one finding without a hint for each. Wherever operands change
sides, the report stays the same. -/
theorem Rule.validTypeof_reports (context : Context) {program : Program}
    (h : ∀ n ∈ program.root.preorder, n.kind = "string" →
      ValidTypeof.IsTokenized program.source n.namedChildren) :
    (∃ findings, Rule.validTypeof.check context program = .complete findings ∧
      ValidTypeof.Reports program.source program.root.preorder findings) ∧
    ∀ chosen, Rule.validTypeof.check context
        { program with root := program.root.exchange chosen } =
      Rule.validTypeof.check context program := by
  constructor
  · exact ValidTypeof.checkNodes_reports fun n hn c hc =>
      h c (Node.mem_preorder_trans (Node.mem_preorder_child hc) hn)
  · intro chosen
    exact ValidTypeof.checkNodes_congr _ (ValidTypeof.preorder_exchange _ chosen program.root)

/-- Of the two comparisons the misspelt one is reported. -/
theorem Rule.validTypeof_reports_spellings :
    ValidTypeof.Reports ValidTypeof.spellings.source ValidTypeof.spellings.root.preorder
      [⟨"valid-typeof", ⟨27, 38, by decide⟩, "Invalid typeof comparison value", none⟩] := by
  obtain ⟨findings, hcheck, hreports⟩ :=
    (Rule.validTypeof_reports (.start none) ValidTypeof.spellings_isTokenized).1
  have hfound : Rule.validTypeof.check (.start none) ValidTypeof.spellings = .complete
      [⟨"valid-typeof", ⟨27, 38, by decide⟩, "Invalid typeof comparison value", none⟩] := rfl
  obtain rfl := congrArg Report.findings (hfound.symm.trans hcheck)
  exact hreports

end ScriptLint

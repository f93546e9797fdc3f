/-
Names of handlers tell kinds of nodes apart. A kind is made of parts with underscores between them;
its handler's name has the parts in a row, each with a capital in front, so the capitals show where
the underscores were (`kindOf_handlerName`). Hence a walk hands a node to the handler that was
written for its kind and to no other (`handlerName_separates`).
-/
import ScriptLint.Plugin.RuleClass
import ScriptLint.Proofs.Text.Split

namespace ScriptLint

namespace Visitor

/-! ## Kinds -/

/-- Whether characters are a part of a kind: a lower-case letter, and then lower-case letters and
digits. -/
def IsPart : List Char → Prop
  | [] => False
  | first :: rest => first.isLower ∧ ∀ c ∈ rest, c.isLower ∨ c.isDigit

/-- Whether a kind has the form of the grammar's kinds: parts with one underscore between them. -/
def IsKind (kind : String) : Prop :=
  ∃ parts, parts ≠ [] ∧ (∀ part ∈ parts, IsPart part) ∧ kind.toList = Text.joinWith '_' parts

instance : DecidablePred IsPart
  | [] => instDecidableFalse
  | first :: rest =>
    -- over the characters of the part, not over all characters there are
    have : Decidable (∀ c ∈ rest, c.isLower ∨ c.isDigit) := List.decidableBAll _ rest
    inferInstanceAs (Decidable (first.isLower ∧ ∀ c ∈ rest, c.isLower ∨ c.isDigit))

theorem underscore_notMem {part : List Char} (h : IsPart part) : '_' ∉ part := by
  rcases part with _ | ⟨first, rest⟩
  · exact List.not_mem_nil
  · obtain ⟨hfirst, hrest⟩ := h
    intro hmem
    rcases List.mem_cons.1 hmem with rfl | hmem
    · simp at hfirst
    · rcases hrest '_' hmem with h | h <;> simp at h

theorem isKind_iff {kind : String} :
    IsKind kind ↔ ∀ part ∈ Text.splitAt '_' kind.toList, IsPart part := by
  constructor
  · rintro ⟨parts, hne, hparts, hkind⟩
    rwa [hkind, Text.splitAt_joinWith hne fun part h => underscore_notMem (hparts part h)]
  · intro h
    exact ⟨_, Text.splitAt_ne_nil _ _, h, (Text.joinWith_splitAt _ _).symm⟩

instance (kind : String) : Decidable (IsKind kind) := decidable_of_iff _ isKind_iff.symm

/-! ## Capitals -/

/-- The lower-case letters, each with its capital. -/
theorem capital_letter : ∀ n : Fin 26,
    capitalized [Char.ofNat (97 + n)] = [Char.ofNat (65 + n)] ∧
      (Char.ofNat (65 + n)).isUpper ∧ (Char.ofNat (65 + n)).toLower = Char.ofNat (97 + n) := by
  decide

theorem range_of_isLower {c : Char} (h : c.isLower) : 97 ≤ c.toNat ∧ c.toNat ≤ 122 := by
  obtain ⟨hlo, hhi⟩ := Bool.and_eq_true_iff.1
    (show (decide ('a'.val ≤ c.val) && decide (c.val ≤ 'z'.val)) = true from h)
  exact ⟨UInt32.le_iff_toNat_le.1 (of_decide_eq_true hlo),
    UInt32.le_iff_toNat_le.1 (of_decide_eq_true hhi)⟩

theorem range_of_isUpper {c : Char} (h : c.isUpper) : 65 ≤ c.toNat ∧ c.toNat ≤ 90 := by
  obtain ⟨hlo, hhi⟩ : 'A'.val ≤ c.val ∧ c.val ≤ 'Z'.val := of_decide_eq_true h
  exact ⟨UInt32.le_iff_toNat_le.1 hlo, UInt32.le_iff_toNat_le.1 hhi⟩

theorem exists_letter {c : Char} (h : c.isLower) : ∃ n : Fin 26, c = Char.ofNat (97 + n) := by
  obtain ⟨hlo, hhi⟩ := range_of_isLower h
  refine ⟨⟨c.toNat - 97, by omega⟩, ?_⟩
  show c = Char.ofNat (97 + (c.toNat - 97))
  rw [Nat.add_sub_cancel' hlo, Char.ofNat_toNat]

theorem not_isUpper {c : Char} (h : c.isLower ∨ c.isDigit) : c.isUpper = false := by
  rw [Bool.eq_false_iff]
  intro hupper
  have hcapital := range_of_isUpper hupper
  rcases h with h | h
  · have := range_of_isLower h
    omega
  · have := Char.isDigit_iff_toNat.1 h
    have : ('9' : Char).toNat = 57 := rfl
    omega

/-! ## Reading a name back -/

/-- A character of a handler's name as the kind has it: a capital begins a part. -/
def kindChar (c : Char) : List Char := if c.isUpper then ['_', c.toLower] else [c]

/-- The kind that a handler's name is made of: what follows the five letters of `visit`, without
the underscore before the first part. -/
def kindOf (name : String) : String :=
  String.ofList ((name.toList.drop 5).flatMap kindChar).tail

/-- A part of a name reads back as the part of the kind, with an underscore before it. -/
theorem flatMap_capitalized {part : List Char} (h : IsPart part) :
    (capitalized part).flatMap kindChar = '_' :: part := by
  rcases part with _ | ⟨first, rest⟩
  · exact h.elim
  · obtain ⟨hfirst, hrest⟩ := h
    obtain ⟨n, rfl⟩ := exists_letter hfirst
    obtain ⟨hcapital, hupper, hlower⟩ := capital_letter n
    have hsplit : capitalized (Char.ofNat (97 + n) :: rest) = Char.ofNat (65 + n) :: rest := by
      show _ ++ rest = _
      rw [capitalized, List.append_nil] at hcapital
      rw [hcapital, List.singleton_append]
    have hkept : rest.flatMap kindChar = rest := by
      calc rest.flatMap kindChar
          = rest.flatMap ([·]) := List.flatMap_congr fun c hc => by
            simp [kindChar, not_isUpper (hrest c hc)]
        _ = rest := List.flatMap_singleton' rest
    rw [hsplit, List.flatMap_cons, kindChar, if_pos hupper, hlower, hkept]
    rfl

/-- The name of a handler tells the kind that it is for. -/
theorem kindOf_handlerName {kind : String} (h : IsKind kind) :
    kindOf (handlerName kind) = kind := by
  have hparts := isKind_iff.1 h
  have hname : (handlerName kind).toList.drop 5 =
      (Text.splitAt '_' kind.toList).flatMap capitalized := by
    unfold handlerName
    rw [String.toList_append]
    simp
  have hback : ((Text.splitAt '_' kind.toList).flatMap capitalized).flatMap kindChar =
      '_' :: kind.toList := by
    calc ((Text.splitAt '_' kind.toList).flatMap capitalized).flatMap kindChar
        = (Text.splitAt '_' kind.toList).flatMap fun part =>
            (capitalized part).flatMap kindChar := List.flatMap_assoc
      _ = (Text.splitAt '_' kind.toList).flatMap ('_' :: ·) :=
          List.flatMap_congr fun part h => flatMap_capitalized (hparts part h)
      _ = '_' :: Text.joinWith '_' (Text.splitAt '_' kind.toList) :=
          Text.flatMap_sep_cons (Text.splitAt_ne_nil _ _)
      _ = '_' :: kind.toList := by rw [Text.joinWith_splitAt]
  unfold kindOf
  rw [hname, hback, List.tail_cons, String.ofList_toList]

/-- Different kinds have different handlers. -/
theorem handlerName_inj {k l : String} (hk : IsKind k) (hl : IsKind l) :
    handlerName k = handlerName l ↔ k = l := by
  constructor
  · intro h
    rw [← kindOf_handlerName hk, h, kindOf_handlerName hl]
  · rintro rfl
    rfl

end Visitor

/-! ## Walks -/

namespace Ast

mutual

/-- A node and all nodes below it in document order. -/
def preorder : Ast → List Ast
  | .mk kind span named field text children =>
    .mk kind span named field text children :: preorderAll children

/-- The nodes of several trees, one tree after the other. -/
def preorderAll : List Ast → List Ast
  | [] => []
  | n :: rest => n.preorder ++ preorderAll rest

end

end Ast

namespace Visitor

section

variable {m : Type → Type} [Monad m] {handle handle' : Ast → m Bool}

mutual

/-- A walk depends only on what is done with the named nodes of its tree. -/
theorem walk_congr : (n : Ast) → (∀ x ∈ n.preorder, x.isNamed → handle x = handle' x) →
    walk handle n = walk handle' n
  | .mk kind span named field text children, h => by
    rw [Ast.preorder] at h
    have hchildren := walkAll_congr children fun x hx => h x (List.mem_cons_of_mem _ hx)
    unfold walk
    rw [hchildren]
    cases named with
    | false => rfl
    | true => rw [h _ List.mem_cons_self rfl]

theorem walkAll_congr : (ns : List Ast) →
    (∀ x ∈ Ast.preorderAll ns, x.isNamed → handle x = handle' x) →
    walkAll handle ns = walkAll handle' ns
  | [], _ => rfl
  | n :: rest, h => by
    rw [Ast.preorderAll] at h
    unfold walkAll
    rw [walk_congr n fun x hx => h x (List.mem_append_left _ hx),
      walkAll_congr rest fun x hx => h x (List.mem_append_right _ hx)]

end

end

/-- Handlers of different kinds have different names. So where two classes differ in the handler
for a kind alone, the walks with them differ in what is done with the nodes of this kind alone. -/
theorem handlerName_separates {k : String} (hk : IsKind k) :
    (∀ l, IsKind l → (handlerName k = handlerName l ↔ k = l)) ∧
    ∀ (d e : RuleParts) (methods : Handler.Methods) (root : Ast),
      (∀ name, name ≠ handlerName k → d.method? name = e.method? name) →
      (∀ n ∈ root.preorder, n.isNamed → IsKind n.kind) →
      walk (d.handle methods) root =
        walk (fun n => if n.kind = k then d.handle methods n else e.handle methods n) root := by
  refine ⟨fun l hl => handlerName_inj hk hl, ?_⟩
  intro d e methods root hsame hkinds
  refine walk_congr root fun n hn hnamed => ?_
  split
  · rfl
  · next hne =>
    have hname : handlerName n.kind ≠ handlerName k := fun heq =>
      hne ((handlerName_inj (hkinds n hn hnamed) hk).1 heq)
    unfold RuleParts.handle
    rw [hsame _ hname]

/-- With a digit at the beginning of a part, two kinds share a handler. -/
example : handlerName "arm_64" = handlerName "arm64" := by decide +kernel

/-- A class that reports conditionals and names. -/
def branchRule : RuleParts :=
  { code := some (.ok (.str "branch"))
    extendsVisitor := true
    handlers :=
      [("visitIfStatement", [.report (.text "condition") .undefined, .giveBack (.bool false)]),
       ("visitIdentifier", [.report (.text "name") .undefined])]
    collection := .inherited }

/-- The same class without its handler of conditionals. -/
def nameRule : RuleParts := { branchRule with handlers := branchRule.handlers.drop 1 }

/-- The tree of the script `if (a);`; where its nodes stand makes no difference. -/
def branchTree : Ast :=
  .mk "program" default true none none
    [.mk "if_statement" default true none none
      [.mk "if" default false none (some "if") [],
       .mk "parenthesized_expression" default true (some "condition") none
         [.mk "(" default false none (some "(") [],
          .mk "identifier" default true none (some "a") [],
          .mk ")" default false none (some ")") []],
       .mk "empty_statement" default true (some "consequence") none
         [.mk ";" default false none (some ";") []]]]

theorem handlerName_separates_conditionals :
    (IsKind "if_statement" ∧ IsKind "identifier" ∧
      (∀ name, name ≠ handlerName "if_statement" →
        branchRule.method? name = nameRule.method? name) ∧
      ∀ n ∈ branchTree.preorder, n.isNamed → IsKind n.kind) ∧
    (handlerName "if_statement" = handlerName "identifier" ↔ "if_statement" = "identifier") ∧
    walk (branchRule.handle (branchRule.methods 1)) branchTree =
      walk (fun n =>
        if n.kind = "if_statement" then branchRule.handle (branchRule.methods 1) n
        else nameRule.handle (branchRule.methods 1) n) branchTree := by
  have hif : IsKind "if_statement" := by decide +kernel
  have hidentifier : IsKind "identifier" := by decide +kernel
  have hname : handlerName "if_statement" = "visitIfStatement" := by decide +kernel
  have hsame : ∀ name, name ≠ handlerName "if_statement" →
      branchRule.method? name = nameRule.method? name := by
    intro name hne
    rw [hname] at hne
    exact (Json.member?_cons ..).trans (if_neg hne.symm)
  have hkinds : ∀ n ∈ branchTree.preorder, n.isNamed → IsKind n.kind := by decide +kernel
  exact ⟨⟨hif, hidentifier, hsame, hkinds⟩, (handlerName_separates hif).1 _ hidentifier,
    (handlerName_separates hif).2 _ _ _ _ hsame hkinds⟩

end Visitor

end ScriptLint

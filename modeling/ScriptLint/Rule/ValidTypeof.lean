/-
The rule that restricts comparisons of `typeof` to the names `typeof` can give. The other operand
must be a string literal whose value, escapes decoded, is one of these names; two `typeof`
operations may always be compared.
-/
import ScriptLint.Rule.Basic
import ScriptLint.Rule.Escape

namespace ScriptLint.ValidTypeof

def code : String := "valid-typeof"

def message : String := "Invalid typeof comparison value"

/-- The names that `typeof` can give. -/
def typeNames : List String :=
  ["undefined", "object", "boolean", "number", "string", "function", "symbol", "bigint"]

/-- The operators that compare for equality. -/
def equalityOperators : List String := ["==", "!=", "===", "!=="]

def docs : String :=
"Restricts the use of the `typeof` operator to a specific set of string literals.

When used with a value the `typeof` operator returns one of the following strings:
`\"undefined\"`, `\"object\"`, `\"boolean\"`, `\"number\"`, `\"string\"`, `\"function\"`,
`\"symbol\"` or `\"bigint\"`.

Comparing the result against any other string is almost certainly a typo.
Comparing it against a non-string value such as `undefined`, or against a
variable, is also reported since the result cannot be checked. Comparing the
results of two `typeof` operations is always allowed.

### Invalid:
```javascript
typeof foo === \"strnig\"
typeof foo == \"undefimed\"
typeof bar != \"nunber\"
typeof foo === undefined
typeof bar == Object
typeof baz === anotherVariable
typeof foo == 5
```

### Valid:
```javascript
typeof foo === \"undefined\"
typeof bar == \"object\"
typeof baz === \"string\"
typeof bar === typeof qux
```
"

/-- Whether a node is a `typeof` operation. -/
def isTypeof (n : Node) : Bool :=
  n.kind == "unary_expression" && (n.child? "operator").any fun op => op.kind == "typeof"

/-- Whether a node is a comparison for equality. -/
def isEquality (n : Node) : Bool :=
  n.kind == "binary_expression"
    && (n.child? "operator").any fun op => equalityOperators.contains op.kind

/-- The operand that a `typeof` operation is compared with. -/
def comparedOperand? (n : Node) : Option Node :=
  let left := n.child? "left"
  let right := n.child? "right"
  if left.any isTypeof then right else if right.any isTypeof then left else none

/-- The value of a part of a string literal. -/
def partValue (source : Bytes) (n : Node) : Except OctalFault (List Nat) :=
  if n.kind == "escape_sequence" then Escape.value (n.text source)
  else .ok (Escape.codePoints (n.text source).toList)

/-- The value of a string literal: its fragments and decoded escapes, joined. -/
def literalValue (source : Bytes) (n : Node) : Except OctalFault (List Nat) :=
  (n.namedChildren.mapM (partValue source)).map List.flatten

/-- Whether code points spell a name that `typeof` can give. -/
def isTypeName (value : List Nat) : Bool :=
  typeNames.any fun name => Escape.codePoints name.toList == value

/-- The operand to report for a node, if there is one. -/
def invalidOperand? (source : Bytes) (n : Node) : Except OctalFault (Option Node) :=
  if isEquality n then
    match comparedOperand? n with
    | none => .ok none
    | some operand =>
      if isTypeof operand then .ok none
      else if operand.kind == "string" then
        (literalValue source operand).map fun value =>
          if isTypeName value then none else some operand
      else .ok (some operand)
  else .ok none

/-- Reports the operands to report for some nodes, up to the first literal that has no value. -/
def checkNodes (source : Bytes) : List Node → Report
  | [] => .complete []
  | n :: rest =>
    match invalidOperand? source n with
    | .error fault => .failed (.octal fault)
    | .ok none => checkNodes source rest
    | .ok (some operand) =>
      let others := checkNodes source rest
      { others with findings := ⟨code, operand.span, message, none⟩ :: others.findings }

/-- Reports every comparison of `typeof` with something else than a type name. -/
def check (program : Program) : Report :=
  checkNodes program.source program.root.preorder

end ValidTypeof

/-- Reports comparisons of `typeof` with something it can never give. -/
def Rule.validTypeof : Rule :=
  { code := ValidTypeof.code
    owner := "ValidTypeofRule"
    docs := ValidTypeof.docs
    check := fun _ => ValidTypeof.check }

end ScriptLint

/-
The rule that reports statements control never reaches. Only the outermost such node is reported,
so nothing inside a reported one is looked at. Functions that are hoisted stay usable and are
exempt, as are comments.
-/
import ScriptLint.Rule.Basic

namespace ScriptLint.NoUnreachable

def code : String := "no-unreachable"

def message : String := "This statement is unreachable"

def hint : String := "Remove the statement or the return/throw/break/continue before it"

/-- Kinds of nodes that are never reported. -/
def exemptKinds : List String :=
  ["function_declaration", "generator_function_declaration", "comment"]

def docs : String :=
"Disallows statements that can never execute.

A statement after `return`, `throw`, `break` or `continue` in the same block
never runs. The same holds after an `if`/`else` whose branches both leave the
block. Function declarations are exempt because they are hoisted.

### Invalid:
```javascript
function foo() \x7b
  return true;
  console.log(\"done\");
\x7d
```

### Valid:
```javascript
function foo() \x7b
  return bar();
  function bar() \x7b return 1; \x7d
\x7d
```
"

/-- Whether a node starts where control never comes. -/
def isHit (flow : ControlFlow) (n : Label) : Bool :=
  !exemptKinds.contains n.kind && flow.isReachable? n.span.lo == some false

mutual

/-- The outermost hit nodes of a tree, reached through named children, in document order. -/
def hits (flow : ControlFlow) : Node → List Node
  | .mk label children =>
    if isHit flow label then [.mk label children] else hitsOfAll flow children

/-- The outermost hit nodes of the named ones of several trees. -/
def hitsOfAll (flow : ControlFlow) : List Node → List Node
  | [] => []
  | n :: rest => (if n.isNamed then hits flow n else []) ++ hitsOfAll flow rest

end

/-- The finding for a node. -/
def finding (n : Node) : Diagnostic := ⟨code, n.span, message, some hint⟩

/-- Reports every outermost hit node; without control flow nothing is known and nothing
reported. -/
def check (flow : Option ControlFlow) (program : Program) : Report :=
  match flow with
  | none => .complete []
  | some flow => .complete ((hits flow program.root).map finding)

end NoUnreachable

/-- Reports statements that can never execute. -/
def Rule.noUnreachable : Rule :=
  { code := NoUnreachable.code
    owner := "NoUnreachableRule"
    docs := NoUnreachable.docs
    check := fun context => NoUnreachable.check context.flow }

end ScriptLint

/-
What the handlers of a plugin's rule do. A handler is a list of actions that speak of the node it
was called with; running it reports findings, asks the host and throws errors. What was reported
before an error stays reported.
-/
import ScriptLint.Script.Value
import ScriptLint.Tree.Ast

namespace ScriptLint

/-- A property a handler can look up. -/
inductive Getter where
  | text
  | type
  | lo
  | hi
  | field
  | named
  /-- The number of children. -/
  | children
  /-- The number of named children. -/
  | namedChildren
  /-- Whether control reaches the node. -/
  | reachable
  /-- Whether control stops at the node. -/
  | stops
  /-- The counter of the rule. -/
  | count
  /-- The number of findings so far. -/
  | findings
  /-- The names of the node's members. -/
  | keys
  deriving DecidableEq, Repr

/-- A part of a composed text. -/
inductive Part where
  | text (s : String)
  | get (g : Getter)
  deriving Repr

/-- A message or a hint. -/
inductive Wording where
  | text (s : String)
  | undefined
  | value (v : Json)
  | composed (parts : List Part)
  deriving Repr

/-- Where to report. Fields and indexes are looked up whatever they are. -/
inductive Selector where
  | childAt (field : Json)
  | child (index : Json)
  | namedChild (index : Json)
  | range (lo hi : Json)
  deriving Repr

/-- One action of a handler. -/
inductive Action where
  | report (message hint : Wording)
  | reportAt (place : Selector) (message hint : Wording)
  /-- Adds a value to the findings as it is. -/
  | push (v : Json)
  /-- Ends the handler with a value. -/
  | giveBack (v : Json)
  | branch (g : Getter) (value : Json) (equal different : List Action)
  | throwError (error : Thrown)
  /-- Calls the host and reports its answer; an error is reported too if `caught`. -/
  | ask (operation payload : Json) (caught : Bool)
  /-- Runs actions and reports an error they throw. -/
  | attempt (actions : List Action)
  | visitChildren
  /-- Adds one to the counter. -/
  | count
  deriving Inhabited, Repr

/-- What a handler is called with. -/
inductive Subject where
  | node (n : Ast)
  /-- A thing that has a range and nothing else. -/
  | range (lo hi : Json)
  | undefined

/-- The findings that an instance holds. -/
inductive Findings where
  | list (items : List Json)
  /-- The instance holds none, as nothing has set it up. -/
  | missing
  /-- A method stands in their place. -/
  | method
  deriving Repr

/-- The state of an instance of a rule class. -/
structure Instance where
  findings : Findings
  count : Nat
  /-- Whether the instance can be used. -/
  ready : Bool

namespace Handler

open Script

/-- What a handler does: it changes its instance, asks the host and may throw. -/
abbrev Run := ExceptT Thrown (StateT Instance Script)

/-- The methods of an instance that actions call. -/
structure Methods where
  addDiagnostic : Subject → Maybe → Maybe → Run Unit
  visitChildren : Subject → Run Unit

/-- Calls the host. -/
def callHost (operation payload : Json) : Run Json :=
  .mk fun state => do return (← (Script.callHost operation payload).run, state)

/-- Uses the instance, which must be set up. -/
def useInstance : Run Unit := do
  if (← get).ready then return () else throw notInitialized

/-! ## Findings -/

/-- The JSON form of a range. -/
def spanJson (lo hi : Json) : Json := .obj [("lo", lo), ("hi", hi)]

/-- The range of what a handler is called with. -/
def spanOf : Subject → Run Json
  | .node n => return spanJson (.int n.span.lo) (.int n.span.hi)
  | .range lo hi => return spanJson lo hi
  | .undefined => throw (cannotRead "span")

/-- Adds a value to the findings. -/
def push (v : Json) : Run Unit := do
  match (← get).findings with
  | .list items => modify fun s => { s with findings := .list (items ++ [v]) }
  | .missing => throw (cannotRead "push")
  | .method => throw notAFunction

/-- The number of findings; a method counts what it is called with. -/
def findingCount : Run Nat := do
  match (← get).findings with
  | .list items => return items.length
  | .missing => throw (cannotRead "length")
  | .method => return 1

/-- Reports a finding; an undefined message is left out, an undefined hint is `null`. -/
def addFinding (s : Subject) (message hint : Maybe) : Run Unit := do
  let span ← spanOf s
  push (.obj ([("span", span)] ++ (message.map fun m => ("message", m)).toList
    ++ [("hint", hint.getD .null)]))

/-- Reports a text without a hint. -/
def addText (methods : Methods) (s : Subject) (text : String) : Run Unit := do
  useInstance
  methods.addDiagnostic s (some (.str text)) none

/-! ## Properties -/

/-- Asks the host about the control flow at a range. -/
def askFlow (s : Subject) (answer : String) : Run Maybe := do
  let span ← spanOf s
  let reply ← callHost (.str "op_query_control_flow_by_span") (.obj [("span", span)])
  return reply.get? answer

/-- The value of a property of a node. -/
def lookNode (n : Ast) : Getter → Run Maybe
  | .text => return n.text?.map .str
  | .type => return some (.str n.kind)
  | .lo => return some (.int n.span.lo)
  | .hi => return some (.int n.span.hi)
  | .field => return n.field?.map .str
  | .named => return some (.bool n.isNamed)
  | .children => return some (.int n.children.length)
  | .namedChildren => return some (.int n.namedChildren.length)
  | .reachable => askFlow (.node n) "isReachable"
  | .stops => askFlow (.node n) "stopsExecution"
  | .count => return some (.int (← get).count)
  | .findings => return some (.int (← findingCount))
  | .keys => return some (.str (",".intercalate n.memberNames))

/-- The value of a property of a thing that has only a range. -/
def lookRange (lo hi : Json) : Getter → Run Maybe
  | .text | .type | .field | .named => return none
  | .lo => return some lo
  | .hi => return some hi
  | .children => throw (cannotRead "length")
  | .namedChildren => throw (cannotRead "filter")
  | .reachable => askFlow (.range lo hi) "isReachable"
  | .stops => askFlow (.range lo hi) "stopsExecution"
  | .count => return some (.int (← get).count)
  | .findings => return some (.int (← findingCount))
  | .keys => return some (.str "span")

/-- The value of a property where there is no node. -/
def lookNowhere : Getter → Run Maybe
  | .text => throw (cannotRead "text")
  | .type => throw (cannotRead "type")
  | .lo | .hi | .reachable | .stops => throw (cannotRead "span")
  | .field => throw (cannotRead "field")
  | .named => throw (cannotRead "named")
  | .children | .namedChildren => throw (cannotRead "children")
  | .count => return some (.int (← get).count)
  | .findings => return some (.int (← findingCount))
  | .keys => throw ⟨"TypeError", "cannot convert to object"⟩

/-- The value of a property. -/
def look (s : Subject) (g : Getter) : Run Maybe := do
  if g = .count ∨ g = .findings then useInstance
  match s with
  | .node n => lookNode n g
  | .range lo hi => lookRange lo hi g
  | .undefined => lookNowhere g

/-- The text of a part. -/
def partText (s : Subject) : Part → Run String
  | .text t => return t
  | .get g => return asText (← look s g)

/-- The value of a message or a hint. -/
def wording (s : Subject) : Wording → Run Maybe
  | .text t => return some (.str t)
  | .undefined => return none
  | .value v => return some v
  | .composed parts => return some (.str (String.join (← parts.mapM (partText s))))

/-! ## Places -/

/-- The item at an index. Only whole numbers that are not negative, and their texts, are indexes. -/
def itemAt? {α : Type} (items : List α) : Json → Option α
  | .str key => (Json.indexKey? key).bind (items[·]?)
  | index => do
    let x ← number? index
    if x.isWhole ∧ 0 ≤ x.toInt then items[x.toInt.toNat]? else none

/-- What a selector names, if there is anything. -/
def place? (s : Subject) (selector : Selector) : Run (Option Subject) :=
  match selector, s with
  | .range lo hi, _ => return some (.range lo hi)
  | .childAt field, .node n => return (field.str?.bind n.childAt?).map .node
  | .child index, .node n => return (itemAt? n.children index).map .node
  | .namedChild index, .node n => return (itemAt? n.namedChildren index).map .node
  | .childAt _, .range _ _ => throw (cannotRead "Symbol.iterator")
  | .child index, .range _ _ => throw (cannotRead (asText (some index)))
  | .namedChild _, .range _ _ => throw (cannotRead "filter")
  | _, .undefined => throw (cannotRead "children")

/-- Whether a value is there and strictly equal to another. -/
def isValue (v : Json) : Maybe → Bool
  | some w => sameValue w v
  | none => false

/-! ## Actions -/

mutual

/-- Carries out an action; the value of the handler if the action ended it. -/
def act (methods : Methods) (s : Subject) : Action → Run Maybe
  | .report message hint => do
    useInstance
    let message ← wording s message
    methods.addDiagnostic s message (← wording s hint)
    return none
  | .reportAt selector message hint => do
    match ← place? s selector with
    | none => return none
    | some place => do
      useInstance
      let message ← wording s message
      methods.addDiagnostic place message (← wording s hint)
      return none
  | .push v => do
    useInstance
    push v
    return none
  | .giveBack v => return some v
  | .branch g v equal different => do
    if isValue v (← look s g) then actAll methods s equal else actAll methods s different
  | .throwError error => throw error
  | .ask operation payload caught =>
    tryCatch
      (do
        let reply ← callHost operation payload
        addText methods s ("reply " ++ reply.plainText)
        return none)
      fun error => do
        if caught then
          addText methods s ("caught " ++ error.name)
          return none
        else throw error
  | .attempt actions =>
    tryCatch (actAll methods s actions) fun error => do
      addText methods s ("caught " ++ error.name)
      return none
  | .visitChildren => do
    useInstance
    methods.visitChildren s
    return none
  | .count => do
    useInstance
    modify fun i => { i with count := i.count + 1 }
    return none

/-- Carries out actions until one of them ends the handler. -/
def actAll (methods : Methods) (s : Subject) : List Action → Run Maybe
  | [] => return none
  | a :: rest => do
    match ← act methods s a with
    | some v => return some v
    | none => actAll methods s rest

end

end Handler

end ScriptLint

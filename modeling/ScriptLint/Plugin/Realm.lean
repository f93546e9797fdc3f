/-
What the modules of a plugin share while they run: their exports, the jobs they have queued, and
the rule class that the entry module has registered. An exports object inherits from the common
parent of all objects unless a module sets another one, so a name that is not exported can still
have a value.
-/
import ScriptLint.Plugin.RuleClass
import ScriptLint.Script.Literal

namespace ScriptLint

/-- A value that a module can bind and export. -/
inductive Value where
  | undefined
  | json (v : Json)
  /-- A function that is no rule class. -/
  | function
  | ruleClass (parts : RuleParts)
  /-- The class that most rule classes extend. -/
  | visitor
  /-- The exports object with a number. -/
  | exports (object : Nat)

/-- What an object inherits from. -/
inductive Parent where
  /-- The common parent of all objects. -/
  | common
  | nothing
  | json (v : Json)
  | function
  | exports (object : Nat)

/-- The exports of a module. -/
structure Exports where
  members : List (String × Value)
  parent : Parent

/-- The state that the modules of a plugin share. -/
structure Realm where
  exports : List (Nat × Exports)
  /-- Whether a module has thrown an error that is thrown only once. -/
  thrown : Bool
  /-- The labels of the jobs to be run, in order. -/
  jobs : List String
  /-- The rule class registered by the entry module, with its code. -/
  registered : Option (Json × RuleClass)

namespace Realm

/-- A realm in which no module has run. -/
def initial : Realm := { exports := [], thrown := false, jobs := [], registered := none }

/-- An exports object; it is empty until something is exported to it. -/
def exportsOf (realm : Realm) (object : Nat) : Exports :=
  ((realm.exports.find? fun e => e.1 == object).map (·.2)).getD ⟨[], .common⟩

/-- The members of an exports object. -/
def membersOf (realm : Realm) (object : Nat) : List (String × Value) :=
  (realm.exportsOf object).members

/-- Replaces an exports object. -/
def setExports (realm : Realm) (object : Nat) (e : Exports) : Realm :=
  { realm with exports := (object, e) :: realm.exports.filter fun o => o.1 != object }

/-! ## Inheritance -/

/-- The methods of the common parent. -/
def commonMethods : List String :=
  ["constructor", "toString", "toLocaleString", "valueOf", "hasOwnProperty", "isPrototypeOf",
   "propertyIsEnumerable", "__defineGetter__", "__defineSetter__", "__lookupGetter__",
   "__lookupSetter__"]

/-- The methods that functions have besides. -/
def functionMethods : List String := ["call", "apply", "bind"]

/-- The value among methods. -/
def methodAmong (names : List String) (name : String) : Value :=
  if names.contains name then .function else .undefined

/-- The member of a JSON value that a key names. -/
def ownMember? (v : Json) (key : String) : Option Json :=
  match v with
  | .obj members => Json.member? members key
  | .arr items =>
    if key = "length" then some (.int items.length) else (Json.indexKey? key).bind (items[·]?)
  | _ => none

/-- Whether an object is, or inherits from, an exports object. Inheritance has no cycles, so no
more than all exports objects are passed. -/
def inheritsFrom (realm : Realm) (object : Nat) : (fuel : Nat) → Parent → Bool
  | fuel + 1, .exports n =>
    n == object || inheritsFrom realm object fuel (realm.exportsOf n).parent
  | _, _ => false

/-- Whether what inherits from a parent inherits from the common one. -/
def reachesCommon (realm : Realm) : (fuel : Nat) → Parent → Bool
  | _, .nothing => false
  | fuel + 1, .exports n => reachesCommon realm fuel (realm.exportsOf n).parent
  | _, _ => true

/-- The member that a parent hands down under a name. -/
def inherited (realm : Realm) (name : String) : (fuel : Nat) → Parent → Value
  | _, .common => methodAmong commonMethods name
  | _, .nothing => .undefined
  | _, .json v =>
    match ownMember? v name with
    | some w => .json w
    | none => methodAmong commonMethods name
  | _, .function => methodAmong (functionMethods ++ commonMethods) name
  | 0, .exports _ => .undefined
  | fuel + 1, .exports n =>
    (Json.member? (realm.membersOf n) name).getD
      (inherited realm name fuel (realm.exportsOf n).parent)

/-- How many objects can be passed on the way to the last parent. -/
def maxParents (realm : Realm) : Nat := realm.exports.length + 1

/-- A parent as a value. -/
def parentValue : Parent → Value
  | .common => .json (.obj [])
  | .nothing => .undefined
  | .json v => .json v
  | .function => .function
  | .exports n => .exports n

/-- The value as a parent, if it can be one. -/
def parent? : Value → Option Parent
  | .json .null => some .nothing
  | .json (.obj members) => some (.json (.obj members))
  | .json (.arr items) => some (.json (.arr items))
  | .json _ | .undefined => none
  | .function | .ruleClass _ | .visitor => some .function
  | .exports n => some (.exports n)

/-! ## Members -/

/-- The member of an exports object, its own or an inherited one; any other is undefined. -/
def exported (realm : Realm) (object : Nat) (name : String) : Value :=
  let e := realm.exportsOf object
  match Json.member? e.members name with
  | some value => value
  | none =>
    if name = Literal.parentName then
      if realm.reachesCommon realm.maxParents e.parent then parentValue e.parent else .undefined
    else realm.inherited name realm.maxParents e.parent

/-- The member of a value. -/
def memberOf (realm : Realm) (value : Value) (name : String) : Value :=
  match value with
  | .exports object => realm.exported object name
  | .json v => realm.inherited name 0 (.json v)
  | .function | .ruleClass _ | .visitor => realm.inherited name 0 .function
  | .undefined => .undefined

/-- The error of an object that would inherit from itself. -/
def circularParents : Thrown := ⟨"TypeError", "circular prototype chain"⟩

/-- Sets a member of an exports object. Setting `__proto__` sets what the object inherits from;
values that are no objects are ignored. -/
def setExport (realm : Realm) (object : Nat) (name : String) (value : Value) :
    Except Thrown Realm :=
  let e := realm.exportsOf object
  if name = Literal.parentName ∧ realm.reachesCommon realm.maxParents e.parent then
    match parent? value with
    | none => .ok realm
    | some parent =>
      if realm.inheritsFrom object realm.maxParents parent then .error circularParents
      else .ok (realm.setExports object { e with parent := parent })
  else .ok (realm.setExports object { e with members := Json.setMember e.members name value })

/-! ## Values as text -/

/-- The error of writing an object that contains itself. -/
def circular : Thrown := ⟨"TypeError", "circular reference"⟩

/-- The error of calling a class. -/
def calledClass : Thrown := ⟨"TypeError", "class constructors must be invoked with 'new'"⟩

/-- What an exported function answers. -/
def functionAnswer : Json := .int 1

/-- The JSON text of an exports object. A function `toJSON` answers for the object; members that
JSON does not have are left out. Objects nested deeper than there are objects contain themselves,
so `depth` tells them. -/
def writeExports (realm : Realm) : (depth : Nat) → Nat → Except Thrown (List Char)
  | 0, _ => .error circular
  | depth + 1, object =>
    match realm.exported object "toJSON" with
    | .function => .ok functionAnswer.plain
    | .ruleClass _ | .visitor => .error calledClass
    | _ => do
      let members ← (realm.membersOf object).filterMapM fun (name, value) =>
        match value with
        | .undefined | .function | .ruleClass _ | .visitor => return none
        | .json v => return some (name, v.plain)
        | .exports inner => return some (name, ← writeExports realm depth inner)
      return '\x7b' :: Json.separated ((Json.scriptOrder members).map fun m =>
        Json.plainString m.1 ++ ':' :: m.2) ++ ['\x7d']

/-- The text that shows a value. -/
def showValue (realm : Realm) : Value → Except Thrown String
  | .undefined => return "undefined"
  | .function | .ruleClass _ | .visitor => return "function"
  | .json v => return v.plainText
  | .exports object =>
    return String.ofList (← writeExports realm (realm.exports.length + 1) object)

end Realm

end ScriptLint

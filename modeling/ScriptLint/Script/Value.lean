/-
Values and errors of scripts, and the calls that carry them to the host: payloads are JSON texts,
and a call the host refuses is an error thrown at the caller.
-/
import ScriptLint.Json.Plain
import ScriptLint.Script.Basic

namespace ScriptLint.Script

/-- A value of a script that may be undefined. -/
abbrev Maybe := Option Json

/-! ## Numbers -/

/-- The double a number of a script is. -/
def number? : Json → Option Double
  | .int n => some (Double.ofInt n)
  | .float x => some x
  | _ => none

/-- Whether an integer fits into a machine word of 32 bits. -/
def isWord (n : Int) : Bool := decide (-0x80000000 ≤ n) && decide (n < 0x80000000)

/-- A value as it reaches the host by itself: a number is an integer if it is whole and fits into a
machine word, and a text ends at its first NUL. -/
def handOver : Json → Json
  | .int n => if isWord n then .int n else .float (Double.ofInt n)
  | .float x =>
    let n := x.toInt
    if x.isWhole ∧ ¬(x.isZero ∧ x.isNegative) ∧ isWord n then .int n
    else .float x
  | .str s => .str (textToNul s)
  | v => v

/-- Strict equality; arrays and objects are equal to nothing, not even to their likes. -/
def sameValue (v w : Json) : Bool :=
  match v, w with
  | .null, .null => true
  | .bool a, .bool b => a == b
  | .str s, .str t => s == t
  | v, w =>
    match number? v, number? w with
    | some x, some y => !x.isNaN && (x == y || (x.isZero && y.isZero))
    | _, _ => false

/-- A value as a part of a text. -/
def asText : Maybe → String
  | none => "undefined"
  | some (.str s) => s
  | some (.int n) => if Json.isExact n then toString n else NumberStyle.script.write (Double.ofInt n)
  | some v =>
    match number? v with
    | some x => NumberStyle.script.write x
    | none => v.plainText

/-! ## Errors -/

/-- The error of calling what is no function. -/
def notAFunction : Thrown := ⟨"TypeError", "not a function"⟩

/-- The error of a recursion without an end. -/
def stackOverflow : Thrown := ⟨"InternalError", "stack overflow"⟩

/-- The error of reading a property of what is undefined. -/
def cannotRead (property : String) : Thrown :=
  ⟨"TypeError", "cannot read property '" ++ property ++ "' of undefined"⟩

/-- The error of using an instance before its parent class has set it up. -/
def notInitialized : Thrown := ⟨"ReferenceError", "this is not initialized"⟩

/-- Calls the host with a value. -/
def callHost (operation payload : Json) : ExceptT Thrown Script Json :=
  .mk <| .ask (handOver operation) (.str payload.plainText) fun reply =>
    match reply with
    | .ok value => .done (.ok value)
    | .error name message => .done (.error ⟨name, message⟩)

end ScriptLint.Script

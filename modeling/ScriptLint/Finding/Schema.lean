/-
Checking that a value has the shape of a finding. All fields are checked, in the order in which
they are declared, and all that are wrong are named; unknown fields are ignored. Numbers are taken
either strictly or leniently, where truth values, whole floating point numbers and texts that
write an integer count too.
-/
import ScriptLint.Finding.Basic
import ScriptLint.Finding.Violation
import ScriptLint.Json.Basic
import ScriptLint.Json.Reader
import ScriptLint.Text.Blank

namespace ScriptLint

/-- A checked value, or everything that is wrong with it. -/
abbrev Checked (α : Type) := Except (List Violation) α

namespace Checked

/-- A single violation at the value itself. -/
def fail {α : Type} (kind : ViolationKind) : Checked α := .error [⟨[], kind⟩]

/-- Two checks, the violations of the first before those of the second. -/
def both {α β : Type} : Checked α → Checked β → Checked (α × β)
  | .ok a, .ok b => .ok (a, b)
  | .ok _, .error vs => .error vs
  | .error us, .ok _ => .error us
  | .error us, .error vs => .error (us ++ vs)

/-- The check of a part, its violations named by the step that leads to it. -/
def under {α : Type} (step : PathStep) : Checked α → Checked α
  | .ok a => .ok a
  | .error vs => .error (vs.map (·.under step))

/-- A field that must be there. -/
def field {α : Type} (check : Json → Checked α) (members : List (String × Json)) (key : String) :
    Checked α :=
  under (.key key) (match Json.member? members key with
    | some v => check v
    | none => fail .missing)

/-- A field that may be absent or `null`. -/
def optional {α : Type} (check : Json → Checked α) (members : List (String × Json))
    (key : String) : Checked (Option α) :=
  under (.key key) (match Json.member? members key with
    | none => .ok none
    | some .null => .ok none
    | some v => (check v).map some)

/-- An object, checked by its members. -/
def object {α : Type} (check : List (String × Json) → Checked α) : Json → Checked α
  | .obj members => check members
  | _ => fail .modelType

/-- Items checked one by one, each named by its index. -/
def itemsFrom {α : Type} (check : Json → Checked α) : (index : Nat) → List Json → Checked (List α)
  | _, [] => .ok []
  | i, v :: rest =>
    (both (under (.index i) (check v)) (itemsFrom check (i + 1) rest)).map fun p => p.1 :: p.2

/-- A list, checked by its items. -/
def list {α : Type} (check : Json → Checked α) : Json → Checked (List α)
  | .arr items => itemsFrom check 0 items
  | _ => fail .listType

/-- A text. -/
def text : Json → Checked String
  | .str s => .ok s
  | _ => fail .stringType

end Checked

namespace Schema

/-! ## Integers -/

/-- An integer and nothing else. -/
def strictInt : Json → Checked Int
  | .int n => .ok n
  | _ => .fail .intType

/-- What a text says when it is read as a whole number in standard form. -/
inductive WholeText where
  | number (n : Int)
  /-- It starts with more digits than are read. -/
  | tooLong
  | other
  deriving DecidableEq, Repr

/-- Reads a minus sign, perhaps, and digits without a leading zero. -/
def wholeText (cs : List Char) : WholeText :=
  let (negative, rest) := match cs with
    | '-' :: rest => (true, rest)
    | rest => (false, rest)
  let digits := rest.takeWhile Json.isDigit
  if digits.isEmpty then .other
  else if digits.head? = some '0' then if rest = ['0'] then .number 0 else .other
  else if Json.maxWhole < digits.length + (if negative then 1 else 0) then .tooLong
  else if digits.length < rest.length then .other
  else
    let n : Int := Json.digitsValue digits
    .number (if negative then -n else n)

/-- A text without its plus sign, which no minus sign may follow. -/
def withoutPlus? : List Char → Option (List Char)
  | '+' :: '-' :: _ => none
  | '+' :: rest => some rest
  | cs => some cs

/-- Whether a number without leading zeros may start with a character. -/
def startsWhole (c : Char) : Bool := (Json.isDigit c && c ≠ '0') || c = '-'

/-- A text without its leading zeros and the underscores between them. One character stays where
nothing or a point follows. -/
def withoutZeros? : List Char → Option (List Char)
  | '0' :: rest =>
    let isFiller := fun c => c = '0' || c = '_'
    let last := (rest.takeWhile isFiller).getLast?.getD '0'
    match rest.dropWhile isFiller with
    | [] => some [last]
    | '.' :: fraction => some (last :: '.' :: fraction)
    | c :: tail => if startsWhole c then some (c :: tail) else none
  | c :: rest => if startsWhole c then some (c :: rest) else none
  | [] => none

/-- A text without a point and zeros at its end. -/
def withoutZeroFraction (cs : List Char) : List Char :=
  match cs.dropWhile (· ≠ '.') with
  | _ :: d :: zeros =>
    if (d :: zeros).all (· = '0') then cs.takeWhile (· ≠ '.') else cs
  | _ => cs

/-- Whether two underscores stand side by side. -/
def hasDoubleUnderscore : List Char → Bool
  | a :: b :: rest => (a = '_' && b = '_') || hasDoubleUnderscore (b :: rest)
  | _ => false

/-- A text without its underscores if all of them are single and inside. -/
def withoutUnderscores (cs : List Char) : List Char :=
  if cs.head? = some '_' || cs.getLast? = some '_' || hasDoubleUnderscore cs then cs
  else cs.filter (· ≠ '_')

/-- A text in standard form: without blanks around it, a plus sign, leading zeros, a fraction of
zeros, and underscores between digits. -/
def standardForm? (cs : List Char) : Option (List Char) := do
  let cs ← withoutZeros? (← withoutPlus? (Text.trimBy Text.isSpace cs))
  return withoutUnderscores (withoutZeroFraction cs)

/-- The integer a text writes, in standard form or in one that can be brought to it. -/
def textInt (s : String) : Checked Int :=
  match wholeText s.toList with
  | .number n => .ok n
  | .tooLong => .fail .intParsingSize
  | .other =>
    match (standardForm? s.toList).map wholeText with
    | some (.number n) => .ok n
    | _ => .fail .intParsing

/-- An integer, a truth value as zero or one, a whole floating point number that fits into 64 bits,
or a text that writes an integer. -/
def laxInt : Json → Checked Int
  | .int n => .ok n
  | .bool b => .ok (if b then 1 else 0)
  | .float x =>
    if !x.isFinite then .fail .finiteNumber
    else if !x.isWhole then .fail .intFromFloat
    else if x.wholeMagnitude < 0x8000000000000000 then .ok x.toInt
    else .fail .intParsingSize
  | .str s => textInt s
  | _ => .fail .intType

/-- An offset: an integer that is not negative. -/
def offset (int : Json → Checked Int) (v : Json) : Checked Nat :=
  match int v with
  | .error vs => .error vs
  | .ok n => if n < 0 then .fail .greaterThanEqual else .ok n.toNat

/-! ## Findings -/

/-- A range. The order of its ends is checked only when both are fine by themselves. -/
def spanOf (int : Json → Checked Int) (members : List (String × Json)) : Checked Span :=
  match Checked.both (Checked.field (offset int) members "lo")
      (Checked.field (offset int) members "hi") with
  | .error vs => .error vs
  | .ok (lo, hi) =>
    match Span.of? lo hi with
    | some span => .ok span
    | none => .fail .valueError

/-- A range given leniently by its two offsets. -/
def laxSpan (members : List (String × Json)) : Checked Span := spanOf laxInt members

/-- A finding given as an object, its offsets leniently. -/
def laxDiagnostic (members : List (String × Json)) : Checked Diagnostic :=
  (Checked.both (Checked.field Checked.text members "rule_code")
    (Checked.both (Checked.field (Checked.object laxSpan) members "span")
      (Checked.both (Checked.field Checked.text members "message")
        (Checked.optional Checked.text members "hint")))).map
    fun (code, span, message, hint) => ⟨code, span, message, hint⟩

/-- A finding given by its parts. The range is checked before the texts. -/
def diagnosticOfParts (code lo hi message hint : Json) : Checked Diagnostic :=
  match laxSpan [("lo", lo), ("hi", hi)] with
  | .error vs => .error vs
  | .ok span =>
    let texts := [("rule_code", code), ("message", message), ("hint", hint)]
    (Checked.both (Checked.field Checked.text texts "rule_code")
      (Checked.both (Checked.field Checked.text texts "message")
        (Checked.optional Checked.text texts "hint"))).map
      fun (code, message, hint) => ⟨code, span, message, hint⟩

end Schema

end ScriptLint

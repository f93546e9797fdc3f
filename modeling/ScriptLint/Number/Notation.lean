/-
How a double is written. Which digits is decided by `Shortest`; a `Style` says how they are laid
out.
-/
import ScriptLint.Number.Shortest

namespace ScriptLint

/-- The layout of a number. A number whose leading digit stands for `10^e` is written with a point
when `minPoint ≤ e < endPoint`, with an exponent otherwise. -/
structure NumberStyle where
  candidates : Shortest.Candidates
  minPoint : Int
  endPoint : Int
  /-- What follows a number that needs no point. -/
  wholeTail : String
  /-- The least number of digits of an exponent. -/
  exponentDigits : Nat
  /-- Whether a negative zero keeps its sign. -/
  signedZero : Bool
  nan : String
  infinity : String

namespace NumberStyle

/-- Numbers in messages and replies keep `.0` and a signed zero. -/
def host : NumberStyle :=
  { candidates := .both, minPoint := -4, endPoint := 16, wholeTail := ".0", exponentDigits := 2
    signedZero := true, nan := "nan", infinity := "inf" }

/-- JSON texts the host writes differ only in the names of the values JSON does not have. -/
def hostJson : NumberStyle := { host with nan := "NaN", infinity := "Infinity" }

/-- Numbers as scripts write them. -/
def script : NumberStyle :=
  { candidates := .nearer, minPoint := -6, endPoint := 21, wholeTail := "", exponentDigits := 1
    signedZero := false, nan := "NaN", infinity := "Infinity" }

/-- Digits with leading zeros up to a width. -/
def padded (width n : Nat) : String :=
  let s := toString n
  String.ofList (List.replicate (width - s.length) '0') ++ s

/-- The layout of the decimal `± digits · 10^exponent`. -/
def layout (style : NumberStyle) (d : Shortest.Decimal) : String :=
  let ds := (toString d.digits).toList
  let lead := d.exponent + ds.length - 1
  if style.minPoint ≤ lead ∧ lead < style.endPoint then
    if 0 ≤ d.exponent then
      String.ofList (ds ++ List.replicate d.exponent.toNat '0') ++ style.wholeTail
    else if 0 ≤ lead then
      String.ofList (ds.take (lead.toNat + 1) ++ '.' :: ds.drop (lead.toNat + 1))
    else String.ofList ('0' :: '.' :: List.replicate (-lead - 1).toNat '0' ++ ds)
  else
    let mantissa := match ds with
      | [c] => [c]
      | c :: rest => c :: '.' :: rest
      | [] => []
    String.ofList mantissa ++ "e" ++ (if lead < 0 then "-" else "+")
      ++ padded style.exponentDigits lead.natAbs

/-- The text of a number. -/
def write (style : NumberStyle) (x : Double) : String :=
  if x.isNaN then style.nan
  else
    let sign := if x.isNegative then "-" else ""
    if x.isInfinite then sign ++ style.infinity
    else if x.isZero then (if style.signedZero then sign else "") ++ "0" ++ style.wholeTail
    else sign ++ style.layout (Shortest.ofDouble style.candidates x)

end NumberStyle

end ScriptLint

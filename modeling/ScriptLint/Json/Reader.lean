/-
Reading JSON texts. Blanks may stand around every token, of members with one key the last counts,
and nothing may follow the value. A `Dialect` says how deep containers may nest, how long whole
numbers may be and whether the names of the numbers JSON lacks are taken. Raw control characters,
lone surrogates and leading zeros are refused.
-/
import ScriptLint.Json.Basic
import ScriptLint.Text.Hex

namespace ScriptLint.Json

/-- The most characters, sign and digits, of a whole number that is read from a text. -/
def maxWhole : Nat := 4300

/-- What a reader accepts beyond the standard, and how deep containers that hold something may
nest. -/
structure Dialect where
  maxDepth : Nat
  /-- The most characters of the whole part of a number, if there is a limit. -/
  wholeLimit : Option Nat
  nonFinite : Bool

/-- The texts that scripts send to the host. -/
def Dialect.wire : Dialect :=
  { maxDepth := 200, wholeLimit := some maxWhole, nonFinite := true }

/-- Standard texts, nested as deep as they like. -/
def Dialect.standard : Dialect :=
  { maxDepth := 1000000, wholeLimit := none, nonFinite := false }

/-- Whether a dialect takes a whole part of so many characters. -/
def Dialect.takesWhole (d : Dialect) (length : Nat) : Bool :=
  d.wholeLimit.all fun limit => decide (length ≤ limit)

/-! ## Tokens -/

/-- The four blanks of the standard. -/
def isSpace (c : Char) : Bool := c = ' ' || c = '\n' || c = '\r' || c = '\t'

def skipSpace (cs : List Char) : List Char := cs.dropWhile isSpace

def isDigit (c : Char) : Bool := decide (0x30 ≤ c.toNat) && decide (c.toNat ≤ 0x39)

/-- The number that decimal digits write. -/
def digitsValue (ds : List Char) : Nat := ds.foldl (fun n c => 10 * n + (c.toNat - 0x30)) 0

/-- The rest of the text when it starts with the given word. -/
def afterWord? : (word : List Char) → List Char → Option (List Char)
  | [], cs => some cs
  | _ :: _, [] => none
  | w :: ws, c :: cs => if w = c then afterWord? ws cs else none

/-- Four hexadecimal digits and the rest. -/
def unit? : List Char → Option (Nat × List Char)
  | a :: b :: c :: d :: rest => do
    let a ← Text.hexValue? a
    let b ← Text.hexValue? b
    let c ← Text.hexValue? c
    let d ← Text.hexValue? d
    some (((a * 16 + b) * 16 + c) * 16 + d, rest)
  | _ => none

/-- The character of a `\u` escape whose digits come next; a surrogate must be followed by its
other half. -/
def unicodeEscape? (cs : List Char) : Option (Char × List Char) := do
  let (n, rest) ← unit? cs
  if 0xD800 ≤ n ∧ n < 0xDC00 then
    match rest with
    | '\\' :: 'u' :: rest =>
      let (m, rest) ← unit? rest
      if 0xDC00 ≤ m ∧ m < 0xE000 then
        some (Char.ofNat (0x10000 + (n - 0xD800) * 0x400 + (m - 0xDC00)), rest)
      else none
    | _ => none
  else if 0xDC00 ≤ n ∧ n < 0xE000 then none
  else some (Char.ofNat n, rest)

/-- The character of an escape of one letter. -/
def simpleEscape? (c : Char) : Option Char :=
  if c = '"' ∨ c = '\\' ∨ c = '/' then some c
  else if c = 'n' then some '\n'
  else if c = 'r' then some '\r'
  else if c = 't' then some '\t'
  else if c = 'b' then some (Char.ofNat 0x08)
  else if c = 'f' then some (Char.ofNat 0x0C)
  else none

/-- The rest of a string whose opening mark has been read. -/
def string? : (fuel : Nat) → List Char → Option (List Char × List Char)
  | 0, _ => none
  | _ + 1, [] => none
  | _ + 1, '"' :: rest => some ([], rest)
  | fuel + 1, '\\' :: 'u' :: rest => do
    let (c, rest) ← unicodeEscape? rest
    let (cs, rest) ← string? fuel rest
    some (c :: cs, rest)
  | fuel + 1, '\\' :: e :: rest => do
    let c ← simpleEscape? e
    let (cs, rest) ← string? fuel rest
    some (c :: cs, rest)
  | fuel + 1, c :: rest =>
    if c = '\\' ∨ c.toNat < 0x20 then none
    else (string? fuel rest).map fun (cs, rest) => (c :: cs, rest)

/-- The fraction digits of a number, when a point comes next. -/
def fraction? (cs : List Char) : Option (Option (List Char) × List Char) :=
  match cs with
  | '.' :: rest =>
    let ds := rest.takeWhile isDigit
    if ds.isEmpty then none else some (some ds, rest.dropWhile isDigit)
  | _ => some (none, cs)

/-- The exponent of a number, when its letter comes next. -/
def exponent? (cs : List Char) : Option (Option Int × List Char) :=
  match cs with
  | [] => some (none, [])
  | c :: rest =>
    if c = 'e' ∨ c = 'E' then
      let (negative, rest) := match rest with
        | '-' :: r => (true, r)
        | '+' :: r => (false, r)
        | r => (false, r)
      let ds := rest.takeWhile isDigit
      if ds.isEmpty then none
      else
        let e : Int := digitsValue ds
        some (some (if negative then -e else e), rest.dropWhile isDigit)
    else some (none, cs)

/-- The double a decimal reads as. Exponents far outside the range give zero or infinity. -/
def decimalFloat (negative : Bool) (digits : List Char) (exponent : Int) : Double :=
  let n := digitsValue digits
  let size : Int := digits.length
  if n = 0 then Double.ofDecimal negative 0 0
  else if exponent + size > 400 then if negative then Double.negInfinity else Double.infinity
  else if exponent + size < -400 then Double.ofDecimal negative 0 0
  else Double.ofDecimal negative n exponent

/-- A number whose sign has been read. -/
def number? (d : Dialect) (negative : Bool) (cs : List Char) : Option (Json × List Char) := do
  let whole := cs.takeWhile isDigit
  let rest := cs.dropWhile isDigit
  if whole.isEmpty || (whole.length > 1 && whole.head? == some '0')
      || !d.takesWhole (whole.length + if negative then 1 else 0) then none
  else
    let (fraction, rest) ← fraction? rest
    let (exponent, rest) ← exponent? rest
    match fraction, exponent with
    | none, none =>
      let n : Int := digitsValue whole
      some (.int (if negative then -n else n), rest)
    | _, _ =>
      let digits := fraction.getD []
      some (.float (decimalFloat negative (whole ++ digits)
        (exponent.getD 0 - digits.length)), rest)

/-- A value that is no string and no container. -/
def scalar? (d : Dialect) (cs : List Char) : Option (Json × List Char) :=
  match cs with
  | 'n' :: rest => (afterWord? "ull".toList rest).map (.null, ·)
  | 't' :: rest => (afterWord? "rue".toList rest).map (.bool true, ·)
  | 'f' :: rest => (afterWord? "alse".toList rest).map (.bool false, ·)
  | 'N' :: rest =>
    if d.nonFinite then (afterWord? "aN".toList rest).map (.float Double.nan, ·) else none
  | 'I' :: rest =>
    if d.nonFinite then (afterWord? "nfinity".toList rest).map (.float Double.infinity, ·)
    else none
  | '-' :: 'I' :: rest =>
    if d.nonFinite then (afterWord? "nfinity".toList rest).map (.float Double.negInfinity, ·)
    else none
  | '-' :: rest => number? d true rest
  | cs => number? d false cs

/-! ## Values -/

mutual

/-- A value at the start of the text. `depth` containers may still be opened. -/
def value? (d : Dialect) : (fuel depth : Nat) → List Char → Option (Json × List Char)
  | 0, _, _ => none
  | fuel + 1, depth, cs =>
    match cs with
    | '"' :: rest =>
      (string? (rest.length + 1) rest).map fun (s, rest) => (.str (String.ofList s), rest)
    | '[' :: rest =>
      match skipSpace rest with
      | ']' :: rest => some (.arr [], rest)
      | rest =>
        match depth with
        | 0 => none
        | depth + 1 => (items? d fuel depth rest).map fun (vs, rest) => (.arr vs, rest)
    | '\x7b' :: rest =>
      match skipSpace rest with
      | '\x7d' :: rest => some (.obj [], rest)
      | rest =>
        match depth with
        | 0 => none
        | depth + 1 =>
          (members? d fuel depth rest).map fun (ms, rest) => (.obj (distinctMembers ms), rest)
    | cs => scalar? d cs

/-- The items of an array up to its end; one comes next. -/
def items? (d : Dialect) : (fuel depth : Nat) → List Char → Option (List Json × List Char)
  | 0, _, _ => none
  | fuel + 1, depth, cs => do
    let (v, rest) ← value? d fuel depth cs
    match skipSpace rest with
    | ']' :: rest => some ([v], rest)
    | ',' :: rest =>
      let (vs, rest) ← items? d fuel depth (skipSpace rest)
      some (v :: vs, rest)
    | _ => none

/-- The members of an object up to its end; one comes next. -/
def members? (d : Dialect) : (fuel depth : Nat) → List Char →
    Option (List (String × Json) × List Char)
  | 0, _, _ => none
  | fuel + 1, depth, cs =>
    match cs with
    | '"' :: rest => do
      let (key, rest) ← string? (rest.length + 1) rest
      match skipSpace rest with
      | ':' :: rest =>
        let (v, rest) ← value? d fuel depth (skipSpace rest)
        match skipSpace rest with
        | '\x7d' :: rest => some ([(String.ofList key, v)], rest)
        | ',' :: rest =>
          let (ms, rest) ← members? d fuel depth (skipSpace rest)
          some ((String.ofList key, v) :: ms, rest)
        | _ => none
      | _ => none
    | _ => none

end

/-- The value of a text, blanks around it allowed. -/
def read? (d : Dialect) (text : String) : Option Json := do
  let cs := skipSpace text.toList
  let (v, rest) ← value? d (2 * cs.length + 2) d.maxDepth cs
  if (skipSpace rest).isEmpty then some v else none

end ScriptLint.Json

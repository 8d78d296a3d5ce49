import TraceRelay.Text.Numeral
import TraceRelay.Text.Scan

/-!
# Numbers and times of a TOML document

A value that begins with a digit or a sign is a time if one stands at the front, else a float if one
does, else an integer. Underscores may stand between digits. Of floats and times only the extent is
of interest, save that a float must not be so large that it rounds to infinity.
-/

namespace TraceRelay.Toml

open Text

/-- The text after one character of a class. -/
def afterChar? (p : Char → Bool) : List Char → Option (List Char)
  | [] => none
  | c :: cs => if p c then some cs else none

/-- A number of exactly `width` digits within bounds. -/
def fixedNumber? (width low high : Nat) (cs : List Char) : Option (Nat × List Char) :=
  let digits := cs.take width
  let n := ofDigits 10 digits
  if digits.length = width ∧ digits.all isDigit ∧ low ≤ n ∧ n ≤ high then some (n, cs.drop width)
  else none

/-! ## Times -/

/-- The number of days of a month. -/
def daysInMonth (year month : Nat) : Nat :=
  if month = 2 then
    if year % 4 = 0 ∧ (year % 100 ≠ 0 ∨ year % 400 = 0) then 29 else 28
  else if month = 4 ∨ month = 6 ∨ month = 9 ∨ month = 11 then 30
  else 31

/-- Reads a date. -/
def date? (cs : List Char) : Option (List Char) := do
  let (year, cs) ← fixedNumber? 4 0 9999 cs
  let cs ← after? ['-'] cs
  let (month, cs) ← fixedNumber? 2 1 12 cs
  let cs ← after? ['-'] cs
  let (_, cs) ← fixedNumber? 2 1 (daysInMonth year month) cs
  return cs

/-- Reads a time of day; a fraction of a second may follow. -/
def timeOfDay? (cs : List Char) : Option (List Char) := do
  let (_, cs) ← fixedNumber? 2 0 23 cs
  let cs ← after? [':'] cs
  let (_, cs) ← fixedNumber? 2 0 59 cs
  let cs ← after? [':'] cs
  let (_, cs) ← fixedNumber? 2 0 60 cs
  return ((after? ['.'] cs).bind (run? isDigit)).elim cs (·.2)

/-- Reads the distance from universal time. -/
def timeOffset? (cs : List Char) : Option (List Char) :=
  match afterChar? (fun c => c = 'Z' || c = 'z') cs with
  | some cs => some cs
  | none => do
    let cs ← afterChar? (fun c => c = '+' || c = '-') cs
    let (_, cs) ← fixedNumber? 2 0 23 cs
    let cs ← after? [':'] cs
    let (_, cs) ← fixedNumber? 2 0 59 cs
    return cs

/-- Reads a date, a time of day, or a date with a time of day and perhaps an offset. -/
def dateTime? (cs : List Char) : Option (List Char) :=
  match date? cs with
  | none => timeOfDay? cs
  | some cs =>
    match (afterChar? (fun c => c = 'T' || c = 't' || c = ' ') cs).bind timeOfDay? with
    | none => some cs
    | some cs => some ((timeOffset? cs).getD cs)

/-! ## Digits -/

/-- Digits of a class, with single underscores between them: the digits and the rest. -/
def digitGroups (p : Char → Bool) : List Char → List Char × List Char
  | [] => ([], [])
  | c :: cs =>
    if p c then
      let (digits, rest) := digitGroups p cs
      (c :: digits, rest)
    else if c = '_' && cs.head?.any p then digitGroups p cs
    else ([], c :: cs)

/-- At least one digit of a class, with single underscores between digits. -/
def digits? (p : Char → Bool) (cs : List Char) : Option (List Char × List Char) :=
  if cs.head?.any p then some (digitGroups p cs) else none

/-- A decimal number without a sign: zero, or digits of which the first is not zero. -/
def decimal? : List Char → Option (List Char × List Char)
  | '0' :: cs => some (['0'], cs)
  | cs => digits? isDigit cs

/-- An optional sign: whether it is a minus, and the rest. -/
def optionalSign : List Char → Bool × List Char
  | '+' :: cs => (false, cs)
  | '-' :: cs => (true, cs)
  | cs => (false, cs)

/-! ## Floats -/

/-- The least number that rounds to infinity instead of to a float of 64 bits. -/
def floatLimit : Nat := 1 <<< 1024 - 1 <<< 970

/-- Whether `mantissa * 10 ^ exponent` is too large for a float. The number of digits decides where
the power would be out of all proportion. -/
def overflows (mantissa : Nat) (exponent : Int) : Bool :=
  let size := (Nat.toDigits 10 mantissa).length + exponent
  if mantissa = 0 || size < 300 then false
  else if 320 < size then true
  else if 0 ≤ exponent then floatLimit ≤ mantissa * Nat.pow 10 exponent.toNat
  else floatLimit * Nat.pow 10 (-exponent).toNat ≤ mantissa

/-- The fraction of a float: its digits and the rest. -/
def fraction? (cs : List Char) : Option (List Char × List Char) := do
  let cs ← after? ['.'] cs
  digits? isDigit cs

/-- The exponent of a float: its value and the rest. -/
def exponent? (cs : List Char) : Option (Int × List Char) := do
  let cs ← afterChar? (fun c => c = 'e' || c = 'E') cs
  let (isNegative, cs) := optionalSign cs
  let (digits, cs) ← digits? isDigit cs
  let n := ofDigits 10 digits
  return (if isNegative then -(n : Int) else n, cs)

/-- Reads a float that has a fraction, an exponent or both. -/
def decimalFloat? (cs : List Char) : Option (List Char) := do
  let (isNegative, cs) := optionalSign cs
  let (whole, cs) ← decimal? cs
  let (digits, exponent, cs) ←
    match fraction? cs with
    | none => do
      let (exponent, cs) ← exponent? cs
      some (whole, exponent, cs)
    | some (part, cs) =>
      let (exponent, cs) := (exponent? cs).getD (0, cs)
      some (whole ++ part, exponent - part.length, cs)
  if !isNegative && overflows (ofDigits 10 digits) exponent then none
  return cs

/-- Reads infinity or not-a-number, with an optional sign. -/
def specialFloat? (cs : List Char) : Option (List Char) :=
  let (_, cs) := optionalSign cs
  match after? ['i', 'n', 'f'] cs with
  | some cs => some cs
  | none => after? ['n', 'a', 'n'] cs

/-! ## Integers -/

/-- A number that fits 64 bits with a sign. -/
def bounded (n : Int) : Option Int :=
  if Int64.minValue.toInt ≤ n ∧ n ≤ Int64.maxValue.toInt then some n else none

/-- The value of digits after one of the marks for another base than ten. -/
def basedInteger? (base : Nat) (p : Char → Bool) (cs : List Char) : Option (Int × List Char) := do
  let (digits, cs) ← digits? p cs
  return (← bounded (ofDigits base digits), cs)

/-- Reads an integer. -/
def integer? : List Char → Option (Int × List Char)
  | '0' :: 'x' :: cs => basedInteger? 16 isHexDigit cs
  | '0' :: 'o' :: cs => basedInteger? 8 isOctalDigit cs
  | '0' :: 'b' :: cs => basedInteger? 2 (fun c => c = '0' || c = '1') cs
  | cs => do
    let (isNegative, cs) := optionalSign cs
    let (digits, cs) ← decimal? cs
    let n := ofDigits 10 digits
    return (← bounded (if isNegative then -(n : Int) else n), cs)

end TraceRelay.Toml

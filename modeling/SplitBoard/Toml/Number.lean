import SplitBoard.Text.Numeral
import SplitBoard.Toml.Value

/-!
# TOML numbers, dates and truth values

The scalars that are not strings. An integer fits 64 bits with sign; it is decimal with an optional
sign and no leading zero, or hexadecimal, octal or binary without sign. A single underscore may
stand between two digits. A float has a fraction or an exponent or both; one that would round to
positive infinity is refused, where an exponent of more than five digits is cut short. Dates and
times are those of the calendar and the clock.
-/

namespace SplitBoard.Toml

/-- Digits, newest first, and what follows them. At least one digit was found before; an underscore
counts only between two digits. -/
def digitsFrom (base : Nat) (found : List Char) : List Char → List Char × List Char
  | '_' :: c :: rest =>
    if (Text.digitIn? base c).isSome then digitsFrom base (c :: found) rest
    else (found, '_' :: c :: rest)
  | c :: rest =>
    if (Text.digitIn? base c).isSome then digitsFrom base (c :: found) rest
    else (found, c :: rest)
  | [] => (found, [])

/-- At least one digit, leading zeros included. -/
def digitRun (base : Nat) : Reader (List Char)
  | c :: rest =>
    if (Text.digitIn? base c).isSome then
      let (found, rest) := digitsFrom base [c] rest
      some (found.reverse, rest)
    else none
  | [] => none

/-- An optional sign: whether it is a minus. -/
def sign : List Char → Bool × List Char
  | '+' :: rest => (false, rest)
  | '-' :: rest => (true, rest)
  | text => (false, text)

/-- Digits without a leading zero. -/
def plainDigits : Reader (List Char)
  | '0' :: rest => some (['0'], rest)
  | text => digitRun 10 text

/-- A decimal number with its sign, as it is in front of a fraction or an exponent. -/
def signedDigits (text : List Char) : Option ((Bool × List Char) × List Char) := do
  let (negative, text) := sign text
  let (digits, rest) ← plainDigits text
  return ((negative, digits), rest)

/-- The integer of a size and a sign, if it fits 64 bits with sign. -/
def fits64? (negative : Bool) (size : Nat) : Option Int :=
  if negative then some (-size) else if size < 0x8000000000000000 then some size else none

/-- One more than the size of the least integer of 64 bits with sign. -/
def sizeBound : Nat := 0x8000000000000001

/-- An integer. -/
def integer : Reader Value
  | '0' :: 'x' :: text => based 16 text
  | '0' :: 'o' :: text => based 8 text
  | '0' :: 'b' :: text => based 2 text
  | text => do
    let ((negative, digits), rest) ← signedDigits text
    let size ← Text.digitsBelow? 10 sizeBound 0 digits
    return (.integer (← fits64? negative size), rest)
where
  based (base : Nat) (text : List Char) : Option (Value × List Char) := do
    let (digits, rest) ← digitRun base text
    let size ← Text.digitsBelow? base sizeBound 0 digits
    return (.integer (← fits64? false size), rest)

/-- Whether a number rounds to infinity, that is reaches the middle between the largest finite
number and the power of two above it. The number is written by digits, of which `places` stand in
front of the point. The middle is an integer, so what stands behind the point does not matter, and
it has 309 digits. -/
def roundsToInfinity (digits : List Char) (places : Int) : Bool :=
  let significant := digits.dropWhile (· = '0')
  let places := places - (digits.length - significant.length)
  if significant.isEmpty then false
  else if 309 < places then true
  else
    let whole := significant.take places.toNat
    let value := (Text.digits? 10 0 whole).getD 0 * Nat.pow 10 (places.toNat - whole.length)
    (Nat.pow 2 54 - 1) * Nat.pow 2 970 ≤ value

/-- A point and digits, which may be missing. -/
def fraction? : List Char → Option (List Char × List Char)
  | '.' :: text => digitRun 10 text
  | text => some ([], text)

/-- The size of an exponent, going on from `size`. The digits count up to the one that makes it
65536 or more; any behind it say nothing. So a size below 655360 is exact, and every larger one
is still far out of the reach of floats, unless about as many digits stand in front of it. -/
def exponentSize (size : Nat) : List Char → Nat
  | [] => size
  | c :: rest =>
    if size < 0x10000 then exponentSize (size * 10 + (Text.digitIn? 10 c).getD 0) rest else size

/-- An exponent, which may be missing. -/
def exponent? (text : List Char) : Option (Int × List Char) :=
  match text with
  | 'e' :: rest => signed rest
  | 'E' :: rest => signed rest
  | _ => some (0, text)
where
  signed (text : List Char) : Option (Int × List Char) := do
    let (negative, text) := sign text
    let (digits, rest) ← digitRun 10 text
    let size : Int := exponentSize 0 digits
    return (if negative then -size else size, rest)

/-- Infinity and what is no number, with an optional sign. -/
def specialFloat : Reader Value := fun text =>
  match (sign text).2 with
  | 'i' :: 'n' :: 'f' :: rest => some (.float, rest)
  | 'n' :: 'a' :: 'n' :: rest => some (.float, rest)
  | _ => none

/-- Whether a fraction or an exponent begins here. -/
def goesOnAsFloat : List Char → Bool
  | c :: _ => c = '.' || c = 'e' || c = 'E'
  | [] => false

/-- A number with a fraction or an exponent. -/
def decimalFloat : Reader Value := fun text => do
  let ((negative, whole), afterWhole) ← signedDigits text
  if !goesOnAsFloat afterWhole then none
  else
    let (fraction, afterFraction) ← fraction? afterWhole
    let (exponent, rest) ← exponent? afterFraction
    let infinite := roundsToInfinity (whole ++ fraction) (whole.length + exponent)
    if !negative && infinite then none
    else return (.float, rest)

/-! ## Dates and times -/

/-- Exactly so many digits. -/
def fixedDigits (count : Nat) (text : List Char) : Option (Nat × List Char) := do
  let digits := text.take count
  if digits.length = count then
    return (← Text.digits? 10 0 digits, text.drop count)
  else none

/-- Two digits whose value is at least `low` and at most `high`. -/
def twoDigits (low high : Nat) (text : List Char) : Option (Nat × List Char) := do
  let (n, rest) ← fixedDigits 2 text
  if low ≤ n ∧ n ≤ high then return (n, rest) else none

/-- The text behind a character, if it begins with it. -/
def expect (c : Char) : List Char → Option (List Char)
  | [] => none
  | d :: rest => if d = c then some rest else none

/-- Days of a month. -/
def daysInMonth (year month : Nat) : Nat :=
  if month = 2 then
    if year % 4 = 0 ∧ (year % 100 ≠ 0 ∨ year % 400 = 0) then 29 else 28
  else if month = 4 ∨ month = 6 ∨ month = 9 ∨ month = 11 then 30
  else 31

/-- The text behind a date. -/
def skipDate (text : List Char) : Option (List Char) := do
  let (year, text) ← fixedDigits 4 text
  let (month, text) ← twoDigits 1 12 (← expect '-' text)
  let (_, rest) ← twoDigits 1 (daysInMonth year month) (← expect '-' text)
  return rest

/-- The text behind a time of day, which may have a fraction of a second. -/
def skipTime (text : List Char) : Option (List Char) := do
  let (_, text) ← twoDigits 0 23 text
  let (_, text) ← twoDigits 0 59 (← expect ':' text)
  let (_, text) ← twoDigits 0 60 (← expect ':' text)
  match text with
  | '.' :: rest =>
    let digits := rest.takeWhile Char.isDigit
    if digits.isEmpty then none else return rest.drop digits.length
  | _ => return text

/-- The text behind a time zone, if there is one. -/
def skipOffset (text : List Char) : Option (List Char) :=
  match text with
  | 'Z' :: rest => some rest
  | 'z' :: rest => some rest
  | '+' :: rest => hoursAndMinutes rest
  | '-' :: rest => hoursAndMinutes rest
  | _ => some text
where
  hoursAndMinutes (text : List Char) : Option (List Char) := do
    let (_, text) ← twoDigits 0 23 text
    let (_, rest) ← twoDigits 0 59 (← expect ':' text)
    return rest

/-- The text behind the time that goes with a date, if there is one. -/
def skipTimeOfDate (text : List Char) : List Char :=
  match text with
  | c :: rest =>
    if c = 'T' ∨ c = 't' ∨ c = ' ' then ((skipTime rest).bind skipOffset).getD text else text
  | [] => text

/-- A date with or without a time, or a time. -/
def dateTime : Reader Value := fun text => do
  let rest ← ((skipDate text).map skipTimeOfDate).or (skipTime text)
  return (.dateTime, rest)

/-- Any of the scalars that are not strings. -/
def scalar : Reader Value := fun text =>
  match text with
  | 't' :: 'r' :: 'u' :: 'e' :: rest => some (.boolean true, rest)
  | 'f' :: 'a' :: 'l' :: 's' :: 'e' :: rest => some (.boolean false, rest)
  | _ =>
    match dateTime text with
    | some result => some result
    | none =>
      match decimalFloat text with
      | some result => some result
      | none =>
        match specialFloat text with
        | some result => some result
        | none => integer text

end SplitBoard.Toml

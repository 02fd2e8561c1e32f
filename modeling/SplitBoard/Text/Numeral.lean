import SplitBoard.Text.Hexadecimal

/-!
# Numerals

How numbers in arguments, colors and record files are read: an optional plus sign, then at least one
digit, and nothing else. Minus signs, blanks and separators are refused. Whether the number fits the
place it is meant for is the reader's business.
-/

namespace SplitBoard.Text

/-- The value of a digit in the given base, of at most sixteen. -/
def digitIn? (base : Nat) (c : Char) : Option Nat :=
  (digitValue? c).filter (· < base)

/-- The number that a row of digits stands for, going on from `value`. -/
def digits? (base : Nat) (value : Nat) : List Char → Option Nat
  | [] => some value
  | c :: rest => do
    let d ← digitIn? base c
    digits? base (value * base + d) rest

/-- An optional plus sign and at least one digit. -/
def numeral? (base : Nat) : List Char → Option Nat
  | [] => none
  | '+' :: c :: rest => digits? base 0 (c :: rest)
  | text => digits? base 0 text

/-- The number that a row of digits stands for, going on from `value`, if it is below `bound`. It
never becomes smaller by further digits, so the first value that is too large decides. -/
def digitsBelow? (base bound value : Nat) : List Char → Option Nat
  | [] => some value
  | c :: rest => do
    let d ← digitIn? base c
    let value := value * base + d
    if value < bound then digitsBelow? base bound value rest else none

/-- A numeral whose value is below `bound`. -/
def numeralBelow? (base bound : Nat) : List Char → Option Nat
  | [] => none
  | '+' :: c :: rest => digitsBelow? base bound 0 (c :: rest)
  | text => digitsBelow? base bound 0 text

/-- A sign in front of a digit changes nothing. -/
theorem numeral?_plus_cons (base : Nat) (c : Char) (rest : List Char) (h : c ≠ '+') :
    numeral? base ('+' :: c :: rest) = numeral? base (c :: rest) := by
  simp [numeral?, h]

end SplitBoard.Text

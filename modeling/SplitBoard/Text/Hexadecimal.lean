/-!
# Hexadecimal text

Digits, bytes and words in base sixteen. Addresses and check values are printed in upper case with a
least width and leading zeros; byte strings are printed in lower case, two digits a byte.

**Every digit value has one digit of either case, and reading gives the value back**
(`digitValue?_upperDigit`, `digitValue?_lowerDigit`).
-/

namespace SplitBoard.Text

/-- The value of a hexadecimal digit of either case. -/
def digitValue? (c : Char) : Option Nat :=
  if '0' ≤ c ∧ c ≤ '9' then some (c.toNat - '0'.toNat)
  else if 'a' ≤ c ∧ c ≤ 'f' then some (c.toNat - 'a'.toNat + 10)
  else if 'A' ≤ c ∧ c ≤ 'F' then some (c.toNat - 'A'.toNat + 10)
  else none

/-- The upper case digit of a value below sixteen. -/
def upperDigit (n : Nat) : Char :=
  if n < 10 then Char.ofNat ('0'.toNat + n) else Char.ofNat ('A'.toNat + (n - 10))

/-- The lower case digit of a value below sixteen. -/
def lowerDigit (n : Nat) : Char :=
  if n < 10 then Char.ofNat ('0'.toNat + n) else Char.ofNat ('a'.toNat + (n - 10))

theorem digitValue?_upperDigit {n : Nat} (h : n < 16) : digitValue? (upperDigit n) = some n :=
  (by decide : ∀ m : Fin 16, digitValue? (upperDigit m) = some m.val) ⟨n, h⟩

theorem digitValue?_lowerDigit {n : Nat} (h : n < 16) : digitValue? (lowerDigit n) = some n :=
  (by decide : ∀ m : Fin 16, digitValue? (lowerDigit m) = some m.val) ⟨n, h⟩

/-- A number in upper case digits, filled up with zeros on the left to the given width. -/
def upperHex (width n : Nat) : String :=
  let digits := (Nat.toDigits 16 n).map Char.toUpper
  String.ofList (List.replicate (width - digits.length) '0' ++ digits)

/-- A number in lower case digits, as short as it can be. -/
def lowerHex (n : Nat) : String :=
  String.ofList (Nat.toDigits 16 n)

/-- A byte as two upper case digits. -/
def upperByte (byte : UInt8) : String :=
  upperHex 2 byte.toNat

/-- A byte as two lower case digits. -/
def lowerByteDigits (byte : UInt8) : List Char :=
  [lowerDigit (byte.toNat / 16), lowerDigit (byte.toNat % 16)]

/-- A byte string in lower case, two digits a byte and nothing between them. -/
def lowerBytes (bytes : List UInt8) : String :=
  String.ofList (bytes.flatMap lowerByteDigits)

/-- Bytes written two digits each, with nothing between them. -/
def bytesOfHex? : List Char → Option (List UInt8)
  | [] => some []
  | [_] => none
  | a :: b :: rest => do
    let high ← digitValue? a
    let low ← digitValue? b
    let bytes ← bytesOfHex? rest
    return UInt8.ofNat (16 * high + low) :: bytes

theorem bytesOfHex?_flatMap_lowerByteDigits (bytes : List UInt8) :
    bytesOfHex? (bytes.flatMap lowerByteDigits) = some bytes := by
  induction bytes with
  | nil => rfl
  | cons b rest ih =>
    have hb : b.toNat < 256 := b.toNat_lt
    have high : b.toNat / 16 < 16 := by omega
    have low : b.toNat % 16 < 16 := by omega
    have whole : UInt8.ofNat (16 * (b.toNat / 16) + b.toNat % 16) = b := by
      rw [Nat.div_add_mod, UInt8.ofNat_toNat]
    simp only [List.flatMap_cons, lowerByteDigits, List.cons_append, List.nil_append, bytesOfHex?,
      digitValue?_lowerDigit high, digitValue?_lowerDigit low, ih, whole, Option.bind_eq_bind,
      Option.bind_some, Option.pure_def]

end SplitBoard.Text

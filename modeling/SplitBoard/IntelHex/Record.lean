import SplitBoard.Text.Blank
import SplitBoard.Text.Numeral
import SplitBoard.Text.Utf8

/-!
# Intel HEX records

A record is one line of an Intel HEX file: a colon, then bytes in pairs of digits. The first byte
says how many data bytes there are, the next three are an address and a type, then come the data and
a byte that brings the sum of all bytes to a multiple of 256.
-/

namespace SplitBoard.IntelHex

/-- What is wrong with a line. -/
inductive LineFault where
  /-- There is no colon in front. -/
  | missingStart
  /-- One digit is left without a partner. -/
  | oddDigits
  /-- The pair at this position behind the colon is not a byte. -/
  | badPair (position : Nat)
  /-- There is not even room for count, address, type and checksum. -/
  | tooShort
  /-- The count is not the number of data bytes. -/
  | wrongCount (expected actual : Nat)
  /-- The sum of the bytes is no multiple of 256. -/
  | badChecksum
  /-- A base address that is not two bytes long. -/
  | badAddressLength
  /-- There is no such type of record. -/
  | unknownType (code : UInt8)
  deriving DecidableEq, Repr

/-- The fault of a line with a given number, and its cause, outermost first. -/
def LineFault.chain (number : Nat) : LineFault → List String
  | missingStart => [s!"line {number}: missing start code ':'"]
  | oddDigits => [s!"line {number}: invalid hex data", "odd number of hex characters"]
  | badPair position =>
    [s!"line {number}: invalid hex data", s!"invalid hex at position {position}"]
  | tooShort => [s!"line {number}: record too short"]
  | wrongCount expected actual =>
    [s!"line {number}: expected {expected} data bytes, got {actual}"]
  | badChecksum => [s!"line {number}: checksum mismatch"]
  | badAddressLength => [s!"line {number}: address record must be 2 bytes"]
  | unknownType code =>
    [s!"line {number}: unsupported record type 0x{Text.upperByte code}"]

/-- What a line says. -/
inductive Record where
  /-- Bytes, at an address behind the base in force. -/
  | data (address : UInt16) (bytes : List UInt8)
  /-- Nothing more follows. -/
  | endOfFile
  /-- A new base, in units of 16 bytes. -/
  | segmentBase (paragraph : UInt16)
  /-- A new base, in units of 64 KiB. -/
  | linearBase (page : UInt16)
  /-- Where a program starts; of no interest here. -/
  | startAddress
  deriving DecidableEq, Repr

/-- The bytes written in pairs of digits, of which the first stands at the given position. A pair is
read as a numeral, so a plus sign may stand in for its first digit. -/
def pairs (position : Nat) : List UInt8 → Except LineFault (List UInt8)
  | a :: b :: rest =>
    match Text.numeral? 16 [Char.ofNat a.toNat, Char.ofNat b.toNat] with
    | some n => do
      let bytes ← pairs (position + 2) rest
      return UInt8.ofNat n :: bytes
    | none => .error (.badPair position)
  | _ => .ok []

/-- The bytes of a record, from what stands behind its colon. -/
def recordBytes (digits : List Char) : Except LineFault (List UInt8) :=
  let bytes := Text.encodeUtf8 digits
  if bytes.length % 2 = 0 then pairs 0 bytes else .error .oddDigits

/-- The sum of bytes, without what overflows. -/
def byteSum : List UInt8 → UInt8
  | [] => 0
  | byte :: rest => byte + byteSum rest

/-- Two bytes with the high one first. -/
def bigEndian (high low : UInt8) : UInt16 :=
  (high.toUInt16 <<< 8) ||| low.toUInt16

namespace Record

/-- The record of a type, an address and data. -/
def ofParts (type : UInt8) (address : UInt16) (data : List UInt8) : Except LineFault Record :=
  match type.toNat with
  | 0 => .ok (.data address data)
  | 1 => .ok .endOfFile
  | 2 =>
    match data with
    | [high, low] => .ok (.segmentBase (bigEndian high low))
    | _ => .error .badAddressLength
  | 4 =>
    match data with
    | [high, low] => .ok (.linearBase (bigEndian high low))
    | _ => .error .badAddressLength
  | 3 => .ok .startAddress
  | 5 => .ok .startAddress
  | _ => .error (.unknownType type)

/-- The record that bytes form: count, address, type, data and checksum. -/
def ofBytes (bytes : List UInt8) : Except LineFault Record :=
  match bytes with
  | count :: high :: low :: type :: rest =>
    if rest = [] then .error .tooShort
    else if rest.length ≠ count.toNat + 1 then
      .error (.wrongCount count.toNat (rest.length - 1))
    else if byteSum bytes ≠ 0 then .error .badChecksum
    else ofParts type (bigEndian high low) rest.dropLast
  | _ => .error .tooShort

/-- The record on a line that is not blank and has no blanks around it. -/
def parse (line : List Char) : Except LineFault Record :=
  match line with
  | ':' :: digits => recordBytes digits >>= ofBytes
  | _ => .error .missingStart

end Record
end SplitBoard.IntelHex

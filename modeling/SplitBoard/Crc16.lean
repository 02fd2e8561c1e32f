/-!
# The 16-bit redundancy check

Frames and firmware images are checked with the reflected CRC of generator `x^16 + x^15 + x^2 + 1`.
Data enters least significant bit first, so the register shifts to the right and the generator is
written `0xA001`. The register starts full of ones and is not inverted at the end.

**One data byte is eight shifts of the register, whatever the register holds**, so the check of a
message is a fold over its bytes and can be taken up again in the middle.
-/

namespace SplitBoard.Crc16

/-- The generator without its leading term, reflected. -/
def generator : UInt16 := 0xA001

/-- The register before any data. -/
def start : UInt16 := 0xFFFF

/-- Shift one bit out; a one that falls out adds the generator. -/
def shift (crc : UInt16) : UInt16 :=
  if crc &&& 1 = 0 then crc >>> 1 else (crc >>> 1) ^^^ generator

/-- Shift `n` bits out. -/
def shifts : Nat → UInt16 → UInt16
  | 0, crc => crc
  | n + 1, crc => shifts n (shift crc)

/-- Take in one byte. -/
def update (crc : UInt16) (byte : UInt8) : UInt16 :=
  shifts 8 (crc ^^^ byte.toUInt16)

/-- The check of a message. -/
def ofList (bytes : List UInt8) : UInt16 :=
  bytes.foldl update start

/-- The check of the bytes from position `first` up to, but not including, position `stop`. -/
def ofRange (bytes : Array UInt8) (first stop : Nat) : UInt16 :=
  bytes.foldl update start first stop

/-- The check of a whole array. -/
def ofArray (bytes : Array UInt8) : UInt16 :=
  bytes.foldl update start

theorem ofArray_eq_ofList (bytes : Array UInt8) : ofArray bytes = ofList bytes.toList := by
  simp [ofArray, ofList]

/-- A message in two parts: the check of the first part goes on into the second. -/
theorem ofList_append (a b : List UInt8) : ofList (a ++ b) = b.foldl update (ofList a) := by
  simp [ofList]

end SplitBoard.Crc16

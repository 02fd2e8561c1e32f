import SplitBoard.Crc16
import SplitBoard.Firmware.Phase
import SplitBoard.Profile

/-!
# Firmware images

The bytes of a program for a half, and where its pages go in the half's 64 KiB of flash. An image is
written page by page; its pages follow each other from a base address or have an address each.

The first four bytes are the reset vector, which the bootloader keeps pointing at itself, so no
check value covers them.
-/

namespace SplitBoard.Firmware

/-- Where the pages of an image go. -/
inductive Placement where
  /-- One behind the other from a base address. -/
  | contiguous (base : UInt16)
  /-- Each at an address of its own. -/
  | explicit (offsets : Array UInt16)
  deriving DecidableEq

/-- The bytes of a program and where its pages go. -/
structure Image where
  data : Array UInt8
  placement : Placement
  deriving DecidableEq

/-- Bytes of the reset vector. -/
def resetVectorLength : Nat := 4

/-- Bytes that a half's flash can address. -/
def addressSpace : Nat := 0x10000

/-- Data bytes that one frame can carry. -/
def maxFrameSize : Nat := 64

/-- The number as an address, unless it is too large for one. -/
def address? (n : Nat) : Option UInt16 :=
  if n < addressSpace then some (UInt16.ofNat n) else none

namespace Image

/-- Number of bytes. -/
def size (image : Image) : Nat :=
  image.data.size

/-- Number of pages of the given size; none if pages hold nothing. -/
def pageCount (image : Image) (pageSize : UInt16) : Nat :=
  partsFor image.size pageSize.toNat

/-- The address of a page, unless it has none. -/
def pageOffset? (image : Image) (page : Nat) (pageSize : UInt16) : Option UInt16 :=
  match image.placement with
  | .contiguous base => address? (base.toNat + page * pageSize.toNat)
  | .explicit offsets => offsets[page]?

/-- The check value of the image once it is in the flash. -/
def expectedCrc (image : Image) : UInt16 :=
  Crc16.ofRange image.data resetVectorLength image.size

/-- The address behind the reset vector, where the check value begins. -/
def crcOffset? (image : Image) : Option UInt16 :=
  (image.pageOffset? 0 0).bind fun first => address? (first.toNat + resetVectorLength)

/-- Number of bytes that the check value covers. -/
def crcLength (image : Image) : UInt16 :=
  UInt16.ofNat (image.size - resetVectorLength)

/-- Whether pages are whole numbers of frames that can be sent. -/
def framesFit (format : FlashFormat) : Bool :=
  format.pageSize ≠ 0 ∧ format.frameSize ≠ 0 ∧ format.frameSize.toNat ≤ maxFrameSize ∧
    format.pageSize.toNat % format.frameSize.toNat = 0

/-- Whether the image is longer than its reset vector, but not so long that its length behind the
vector is no word. -/
def lengthFits (image : Image) : Bool :=
  resetVectorLength < image.size ∧ image.size - resetVectorLength < addressSpace

/-- Whether every page has an address and the last one ends inside the flash. -/
def pagesFit (image : Image) (pageSize : UInt16) : Bool :=
  let offsets := (List.range (image.pageCount pageSize)).map (image.pageOffset? · pageSize)
  offsets.all Option.isSome ∧
    (offsets.getLast?.join.getD 0).toNat + pageSize.toNat ≤ addressSpace

/-- Whether the image can be written in the given format. -/
def isFlashable (image : Image) (format : FlashFormat) : Bool :=
  framesFit format ∧ image.lengthFits ∧ image.pagesFit format.pageSize ∧ image.crcOffset?.isSome

/-- Refuses an image that cannot be written in the given format. -/
def validate (image : Image) (format : FlashFormat) : Except Failure Unit :=
  if image.isFlashable format then .ok () else .error .invalidImage

/-- The data of one frame: so many bytes from a position on, with the blank behind the end. -/
def frameData (image : Image) (format : FlashFormat) (start : Nat) : List UInt8 :=
  (List.range format.frameSize.toNat).map fun i => image.data.getD (start + i) format.blank

end Image
end SplitBoard.Firmware

import SplitBoard.Firmware.Image
import SplitBoard.IntelHex.Segments

/-!
# Loading firmware images

An image is loaded from the bytes of a file, which are either the image itself, for a given base
address, or an Intel HEX file, which has addresses of its own. Either way it must not be empty and
must lie inside the 64 KiB of a half's flash.
-/

namespace SplitBoard.Firmware

/-- Why a file is no image. -/
inductive LoadError where
  /-- The HEX file is not text. -/
  | notText (malformed : Text.Malformed)
  /-- The HEX file cannot be read. -/
  | badHex (fault : IntelHex.Fault)
  /-- The segments of the HEX file form no image. -/
  | badSegments (fault : IntelHex.Fault)
  /-- There are no bytes. -/
  | empty
  /-- The image goes past the end of the flash. -/
  | tooLarge (size base : Nat)
  deriving DecidableEq

/-- The error and its causes, outermost first. -/
def LoadError.chain : LoadError → List String
  | notText malformed => ["HEX file is not text", malformed.message]
  | badHex fault => "parsing Intel HEX file" :: fault.chain
  | badSegments fault => "flattening HEX segments" :: fault.chain
  | empty => ["image is empty"]
  | tooLarge size base =>
    [s!"image of {size} bytes at 0x{Text.upperHex 4 base} does not fit " ++
      "the 64 KiB peripheral address space"]

/-- The bytes of an image and the address of the first one. -/
structure LoadedImage where
  base : UInt16
  data : Array UInt8
  deriving DecidableEq

/-- The image as something to write. -/
def LoadedImage.image (loaded : LoadedImage) : Image :=
  ⟨loaded.data, .contiguous loaded.base⟩

/-- Refuses no bytes, and more than the flash holds from a base address on. -/
def checkExtent (base size : Nat) : Except LoadError Unit :=
  if size = 0 then .error .empty
  else if addressSpace < base + size then .error (.tooLarge size base)
  else .ok ()

/-- Load an Intel HEX file. Its segments are laid out only if they fit. -/
def loadHex (file : Array UInt8) (blank : UInt8) : Except LoadError LoadedImage := do
  let text ← (Text.decodeUtf8 file.toList).mapError .notText
  let segments ← (IntelHex.parse text).mapError .badHex
  let extent ← (IntelHex.extent segments).mapError .badSegments
  checkExtent extent.base extent.size
  return ⟨UInt16.ofNat extent.base, IntelHex.layOut segments extent blank⟩

/-- Load plain bytes, the first of which goes to the base address. -/
def loadPlain (file : Array UInt8) (base : UInt16) : Except LoadError LoadedImage := do
  checkExtent base.toNat file.size
  return ⟨base, file⟩

/-- Load the bytes of a file. The base is for plain bytes, the blank byte for gaps in a HEX file. -/
def load (file : Array UInt8) (isHex : Bool) (base : UInt16) (blank : UInt8) :
    Except LoadError LoadedImage :=
  if isHex then loadHex file blank else loadPlain file base

end SplitBoard.Firmware

import SplitBoard.Bus.Wire
import SplitBoard.Crc16
import SplitBoard.Firmware.Image
import SplitBoard.Memory

/-!
# A simulated bootloader

A bus with one device on it, the bootloader of a half: 64 KiB of flash that can be erased, written
frame by frame and checked. It answers one address. **An accepted frame ends with a data NACK, as on
the real device**, and every request for the version and check value leaves one answer, which the
next read takes.

It keeps a log of all transactions, its own and those it did not answer, and adds up the time
waited. Its clock is a word of 64 bits and its counters are words of 32 bits, which wrap around. It
can be told to misbehave: to reject a frame, to store frames damaged, to be busy after an erase.
-/

namespace SplitBoard.Firmware

/-- A transaction as a bootloader logs it. -/
inductive LoggedTransaction where
  | write (address : UInt8) (bytes : List UInt8) (status : Transmission)
  | read (address : UInt8) (length : Nat) (bytes : List UInt8)
  deriving DecidableEq

namespace LoggedTransaction

private def padded3 (n : Nat) : String :=
  let digits := toString n
  String.ofList (List.replicate (3 - digits.length) ' ') ++ digits

/-- A transaction as a line of text. Of a write only the first eight bytes are shown. -/
def line : LoggedTransaction → String
  | write address bytes status =>
    let shown := (bytes.take 8).map fun b => " " ++ Text.upperByte b
    let more := if 8 < bytes.length then " .." else ""
    s!"W 0x{Text.upperByte address} [{padded3 bytes.length}]" ++ String.join shown ++ more ++
      s!" -> {status.code.toNat}"
  | read address length bytes =>
    s!"R 0x{Text.upperByte address} [{padded3 length}] " ++
      "[" ++ ", ".intercalate (bytes.map Text.upperByte) ++ "]"

end LoggedTransaction

/-- The bootloader and all that is known of its past. -/
structure Bootloader where
  address : UInt8
  format : FlashFormat
  flash : Vector UInt8 0x10000 := Vector.replicate 0x10000 0xFF
  /-- Version of the program in the flash; 0xFF if there is none. -/
  version : UInt8 := 1
  /-- Transactions, in order. -/
  log : Array LoggedTransaction := #[]
  /-- Nanoseconds waited. -/
  elapsed : UInt64 := 0
  eraseCount : UInt32 := 0
  framesWritten : UInt32 := 0
  /-- Whether the program was started. -/
  executed : Bool := false
  /-- The frame to reject, counted from the first one ever sent. -/
  rejectFrame : Option Nat := none
  /-- Store every frame with the lowest bit of its first byte flipped. -/
  corruptWrites : Bool := false
  /-- Check requests to ignore after an erase. -/
  busyAfterErase : UInt16 := 0
  /-- Check requests still to ignore. -/
  busy : UInt16 := 0
  /-- Address of the page being written. -/
  page : UInt16 := 0
  /-- Frames of that page accepted so far. -/
  frameInPage : Nat := 0
  /-- Frames sent so far, whether or not they were accepted. -/
  framesSeen : Nat := 0
  /-- An answer that has not been read. -/
  pending : Option (UInt8 × UInt8 × UInt8) := none

namespace Bootloader

/-- Write bytes into a flash from an address on. What would go past the end is dropped. -/
def store (flash : Vector UInt8 0x10000) (start : Nat) (bytes : List UInt8) :
    Vector UInt8 0x10000 :=
  ⟨overwrite flash.toArray start bytes, by simp⟩

/-- The check value of a range of the flash, cut off at its end. -/
def rangeCrc (flash : Vector UInt8 0x10000) (offset length : Nat) : UInt16 :=
  Crc16.ofRange flash.toArray offset (min (offset + length) addressSpace)

/-- Bytes of the flash from an address on. -/
def peek (flash : Vector UInt8 0x10000) (start length : Nat) : List UInt8 :=
  (flash.toArray.extract start (start + length)).toList

/-- The bytes of the writes that the bootloader received, in order. -/
def writes (b : Bootloader) : List (List UInt8) :=
  b.log.toList.filterMap fun
    | .write address bytes _ => if address = b.address then some bytes else none
    | .read .. => none

/-- Whole milliseconds waited. -/
def elapsedMilliseconds (b : Bootloader) : UInt64 :=
  b.elapsed / 1000000

/-- Asked for the version and check value. -/
def takeReportRequest (b : Bootloader) (arguments : List UInt8) : Transmission × Bootloader :=
  if b.busy ≠ 0 then (.addressNack, { b with busy := b.busy - 1 })
  else
    match arguments with
    | [offsetLow, offsetHigh, lengthLow, lengthHigh] =>
      let offset := offsetLow.toNat + 256 * offsetHigh.toNat
      let length := lengthLow.toNat + 256 * lengthHigh.toNat
      let crc := rangeCrc b.flash offset length
      (.complete, { b with pending := some (b.version, crc.toUInt8, (crc >>> 8).toUInt8) })
    | _ => (.fault, b)

/-- Told to erase. -/
def takeErase (b : Bootloader) : Transmission × Bootloader :=
  (.complete, { b with
    flash := Vector.replicate 0x10000 0xFF
    eraseCount := b.eraseCount + 1
    busy := b.busyAfterErase })

/-- Told which page comes next. -/
def takePageAddress (b : Bootloader) (arguments : List UInt8) : Transmission × Bootloader :=
  match arguments with
  | [low, high] =>
    (.complete, { b with
      page := low.toUInt16 ||| (high.toUInt16 <<< 8)
      frameInPage := 0 })
  | _ => (.fault, b)

/-- The data of a frame of the given size, if its check value is right: the data, the check value
with its low byte first, and one byte more. -/
def frameData? (size : Nat) (arguments : List UInt8) : Option (List UInt8) :=
  if arguments.length = size + 3 then
    let data := arguments.take size
    match arguments.drop size with
    | low :: high :: _ =>
      if Crc16.ofList data = (low.toUInt16 ||| (high.toUInt16 <<< 8)) then some data else none
    | _ => none
  else none

/-- The flash with the lowest bit of one byte flipped. -/
def flipLowestBit (flash : Vector UInt8 0x10000) (position : Nat) : Vector UInt8 0x10000 :=
  match flash[position]? with
  | some byte => flash.setIfInBounds position (byte ^^^ 1)
  | none => flash

/-- Keep an accepted frame. -/
def storeFrame (b : Bootloader) (start : Nat) (data : List UInt8) : Bootloader :=
  let flash := store b.flash start data
  { b with
    flash := if b.corruptWrites then flipLowestBit flash start else flash
    frameInPage := b.frameInPage + 1
    framesWritten := b.framesWritten + 1 }

/-- Given a frame of the page. -/
def takeFrame (b : Bootloader) (arguments : List UInt8) : Transmission × Bootloader :=
  let index := b.framesSeen
  let b := { b with framesSeen := index + 1 }
  let size := b.format.frameSize.toNat
  if b.rejectFrame = some index then (.fault, b)
  else
    match frameData? size arguments with
    | none => (.fault, b)
    | some data =>
      let start := b.page.toNat + b.frameInPage * size
      if start + size ≤ addressSpace then (.dataNack, b.storeFrame start data)
      else (.fault, b)

/-- Given a write at its own address. -/
def take (b : Bootloader) : List UInt8 → Transmission × Bootloader
  | [] => (.complete, b)
  | command :: arguments =>
    let commands := b.format.commands
    if command = commands.getVersionAndCrc then b.takeReportRequest arguments
    else if command = commands.eraseProgram then b.takeErase
    else if command = commands.pageAddress then b.takePageAddress arguments
    else if command = commands.continuePage then b.takeFrame arguments
    else if command = commands.execute then (.complete, { b with executed := true })
    else (.dataNack, b)

/-- A write at any address. -/
def answerWrite (b : Bootloader) (address : UInt8) (bytes : List UInt8) :
    Transmission × Bootloader :=
  let (status, b) := if address = b.address then b.take bytes else (.addressNack, b)
  (status, { b with log := b.log.push (.write address bytes status) })

/-- A read at any address. An answer that was waiting is gone afterwards. -/
def answerRead (b : Bootloader) (address : UInt8) (length : Nat) : Delivery length × Bootloader :=
  let waiting := match b.pending with
    | some (version, low, high) => if address = b.address then [version, low, high] else []
    | none => []
  let delivery := Delivery.ofList length waiting
  (delivery, { b with pending := none, log := b.log.push (.read address length delivery.bytes) })

/-- The bus with the bootloader on it. -/
def partner : Partner Bus.vocabulary Bootloader
  | .write address bytes, b => b.answerWrite address bytes
  | .hold address bytes, b => b.answerWrite address bytes
  | .read address length, b => b.answerRead address length
  | .wait nanoseconds, b => ((), { b with elapsed := b.elapsed + .ofNat nanoseconds })
  | .tell _, b => ((), b)

end Bootloader
end SplitBoard.Firmware

import SplitBoard.Bus.Wire
import SplitBoard.Firmware.Image
import SplitBoard.Half.State

/-!
# Updating the firmware of a half

An update talks to the half's bootloader. It asks for the version and check value of what is there,
and leaves alone a device that cannot report one. It then erases, writes every page as an address
followed by frames, asks for the check value again, and starts the new program only if that is the
one of the image.

**An accepted frame does not complete**: the bootloader refuses the byte behind the check value, and
the profile says which status that shows as.

Whatever the outcome, the half restarts, so it is probed again before it is next talked to.
-/

namespace SplitBoard.Firmware

/-- What an update that succeeded did. -/
structure Report where
  /-- Version that the bootloader reported before the erase. -/
  previousVersion : UInt8
  /-- Check value that the bootloader reported before the erase. -/
  previousCrc : UInt16
  /-- Check value afterwards. -/
  crc : UInt16
  pages : Nat
  bytes : Nat
  deriving DecidableEq, Repr

/-- What an update works on: the half, and the phase reached. -/
structure Session where
  half : Half
  phase : Phase := .idle

/-- A step of an update. -/
abbrev UpdateOp (α : Type) : Type := ExceptT Failure (StateT Session Wire) α

/-- The two bytes of a word, the low one first. -/
def wordBytes (w : UInt16) : List UInt8 :=
  [w.toUInt8, (w >>> 8).toUInt8]

/-- The word with these two bytes. -/
def wordOfBytes (low high : UInt8) : UInt16 :=
  low.toUInt16 ||| (high.toUInt16 <<< 8)

/-- What a frame looks like on the wire: the command, the data, their check value and one byte for
the bootloader to refuse. -/
def frameBytes (commands : BootloaderCommands) (data : List UInt8) : List UInt8 :=
  commands.continuePage :: data ++ wordBytes (Crc16.ofList data) ++ [0]

/-- The request for the version and check value of an image's place in the flash. -/
def reportRequest? (commands : BootloaderCommands) (image : Image) : Option (List UInt8) :=
  image.crcOffset?.map fun offset =>
    commands.getVersionAndCrc :: wordBytes offset ++ wordBytes image.crcLength

/-- The version and check value that three bytes carry, the low byte of the value first. -/
def reportOfBytes? : List UInt8 → Option (UInt8 × UInt16)
  | [version, low, high] => some (version, wordOfBytes low high)
  | _ => none

/-- Ask a bootloader for its version and check value. -/
def askReport (address : UInt8) (format : FlashFormat) (image : Image) :
    Wire (Option (UInt8 × UInt16)) := do
  match reportRequest? format.commands image with
  | none => return none
  | some request =>
    let status ← Wire.hold address request
    if status.isComplete then
      Wire.waitMilliseconds format.crcSettle.toNat
      return reportOfBytes? (← Wire.read address 3).bytes
    else
      return none

/-- Ask up to so many times, with a pause after each time that fails. Gives the check value. -/
def askCrcRepeatedly (address : UInt8) (format : FlashFormat) (image : Image) :
    Nat → Wire (Option UInt16)
  | 0 => return none
  | attempts + 1 => do
    match ← askReport address format image with
    | some (_, crc) => return some crc
    | none =>
      Wire.waitMilliseconds format.reverifyDelay.toNat
      askCrcRepeatedly address format image attempts

/-- Begin a phase. -/
def enter (phase : Phase) : StateT Session Wire Unit := do
  Wire.tell (.phase phase)
  modify fun session => { session with phase }

/-- Send the given frames of a page, in order. -/
def sendFrames (address : UInt8) (format : FlashFormat) (image : Image) (page : Nat)
    (offset : UInt16) : List Nat → ExceptT Failure Wire Unit
  | [] => return ()
  | frame :: rest => do
    let start := page * format.pageSize.toNat + frame * format.frameSize.toNat
    let data := image.frameData format start
    let status ← Wire.write address (frameBytes format.commands data)
    Wire.tell (.frameSent offset frame (Crc16.ofList data) status)
    if status.code = format.frameAck then
      Wire.waitMilliseconds format.delay.toNat
      sendFrames address format image page offset rest
    else
      throw (.pageRefused offset)

/-- Send one page: its address, then its frames. -/
def sendPage (address : UInt8) (format : FlashFormat) (image : Image) (page : Nat) :
    ExceptT Failure Wire Unit := do
  match image.pageOffset? page format.pageSize with
  | none => throw .invalidImage
  | some offset =>
    let status ← Wire.write address (format.commands.pageAddress :: wordBytes offset)
    Wire.waitMilliseconds format.delay.toNat
    if status.isComplete then
      sendFrames address format image page offset (List.range format.framesPerPage)
    else
      throw (.pageRefused offset)

/-- Send the given pages, in order, and tell after each how many of all pages are done. -/
def sendPages (address : UInt8) (format : FlashFormat) (image : Image) (total : Nat) :
    List Nat → ExceptT Failure Wire Unit
  | [] => return ()
  | page :: rest => do
    sendPage address format image page
    Wire.tell (.page (page + 1) total)
    sendPages address format image total rest

/-- Work on the bus as a step of an update. -/
def onWire {α : Type} (work : ExceptT Failure Wire α) : UpdateOp α :=
  ExceptT.mk (liftM (ExceptT.run work))

/-- The report of a device that can be updated: one with a program and a check value. -/
def usable? : Option (UInt8 × UInt16) → Option (UInt8 × UInt16)
  | some (version, crc) => if version = 0xFF ∨ crc = 0xFFFF then none else some (version, crc)
  | none => none

/-- Ask what is on the device before anything is written to it. -/
def reportBefore (image : Image) : UpdateOp (UInt8 × UInt16) := do
  let half := (← get).half
  let address := half.bootloaderAddress
  enter .verifying
  -- The bootloader may still hold an old answer; a read takes it away.
  let _ ← Wire.read address 3
  let report ← askReport address half.profile.flasher image
  match usable? report with
  | none => throw .noReport
  | some (version, crc) =>
    Wire.tell (.reported address version crc)
    return (version, crc)

/-- Erase the program. -/
def erase : UpdateOp Unit := do
  let half := (← get).half
  let format := half.profile.flasher
  enter .erasing
  let status ← Wire.write half.bootloaderAddress [format.commands.eraseProgram]
  Wire.waitMilliseconds format.eraseDelay.toNat
  if status.isComplete then return () else throw .eraseRefused

/-- Write every page of the image. -/
def writePages (image : Image) : UpdateOp Unit := do
  let half := (← get).half
  let format := half.profile.flasher
  enter .writing
  let pages := image.pageCount format.pageSize
  onWire (sendPages half.bootloaderAddress format image pages (List.range pages))

/-- Ask for the check value again and compare it with that of the image. -/
def verifyWritten (image : Image) : UpdateOp UInt16 := do
  let half := (← get).half
  let format := half.profile.flasher
  enter .reverifying
  let answer ← askCrcRepeatedly half.bootloaderAddress format image format.reverifyAttempts.toNat
  match answer with
  | none => throw .silentAfterwards
  | some actual =>
    if actual = image.expectedCrc then return actual
    else
      modify fun session => { session with half := session.half.recordCrcError }
      throw (.mismatch image.expectedCrc actual)

/-- Start the new program. -/
def startProgram : UpdateOp Unit := do
  let half := (← get).half
  let status ← Wire.write half.bootloaderAddress [half.profile.flasher.commands.execute, 0]
  if status.isComplete then return () else throw .executeRefused

/-- Write an image that can be written. -/
def writeImage (image : Image) : UpdateOp Report := do
  let format := (← get).half.profile.flasher
  let (previousVersion, previousCrc) ← reportBefore image
  erase
  writePages image
  let crc ← verifyWritten image
  startProgram
  return { previousVersion, previousCrc, crc, pages := image.pageCount format.pageSize
           bytes := image.size }

/-- The half restarts, whatever came of the update. -/
def conclude (result : Except Failure Report) : StateT Session Wire (Except Failure Report) := do
  let session ← get
  set { session with half := session.half.markUnavailable }
  match result with
  | .ok _ => enter .done
  | .error failure =>
    Wire.tell (.updateFailed session.half.bootloaderAddress session.phase failure)
    enter .failed
  return result

/-- Update the half, which must already be in its bootloader. -/
def update (image : Image) : StateT Session Wire (Except Failure Report) := do
  match image.validate (← get).half.profile.flasher with
  | .ok () => conclude (← ExceptT.run (writeImage image))
  | .error failure => conclude (.error failure)

end SplitBoard.Firmware

import SplitBoard.Led.Color

/-!
# Hardware profiles

Everything that differs between hardware revisions of a half: its bus addresses, how its LEDs are
grouped and corrected, and how its bootloader wants to be fed. `Profile.raise` describes the
reference halves.
-/

namespace SplitBoard

/-- How the LEDs of a half are grouped on the wire. -/
structure LedLayout where
  /-- LEDs of one half. -/
  count : UInt8
  /-- LEDs sent in one transaction. -/
  perBank : UInt8
  deriving DecidableEq, Repr

/-- Parts of size `part` needed to hold `whole`; none if parts hold nothing. -/
def partsFor (whole part : Nat) : Nat :=
  if part = 0 then 0 else (whole + part - 1) / part

/-- Groups needed for all LEDs. -/
def LedLayout.banks (layout : LedLayout) : Nat :=
  partsFor layout.count.toNat layout.perBank.toNat

/-- Color bytes of one group. -/
def LedLayout.bankBytes (layout : LedLayout) : Nat :=
  3 * layout.perBank.toNat

/-- The codes of a bootloader's commands. -/
structure BootloaderCommands where
  pageAddress : UInt8
  continuePage : UInt8
  execute : UInt8
  eraseProgram : UInt8
  getVersionAndCrc : UInt8
  deriving DecidableEq, Repr

/-- Page format and timing of a bootloader. -/
structure FlashFormat where
  pageSize : UInt16
  /-- Data bytes of one frame. Pages are whole numbers of frames. -/
  frameSize : UInt16
  /-- What fills the last page behind the image. -/
  blank : UInt8
  /-- Milliseconds after every page address and every frame. -/
  delay : UInt32
  /-- Milliseconds after an erase, which ends without a signal. -/
  eraseDelay : UInt32
  /-- Milliseconds that the bootloader needs to compute a check value. -/
  crcSettle : UInt32
  /-- Status code that an accepted frame ends with. -/
  frameAck : UInt8
  /-- Times the check value is asked for after writing. -/
  reverifyAttempts : UInt16
  /-- Milliseconds after each of these that fails. -/
  reverifyDelay : UInt32
  commands : BootloaderCommands
  deriving DecidableEq, Repr

/-- Frames that make up one page. -/
def FlashFormat.framesPerPage (format : FlashFormat) : Nat :=
  format.pageSize.toNat / format.frameSize.toNat

/-- The constants of one hardware revision. -/
structure Profile where
  /-- Bus address of a half's scanner, without its two select bits. -/
  scannerBase : UInt8
  /-- Bus address of a half's bootloader, without its two select bits. -/
  bootloaderBase : UInt8
  /-- Microseconds between a register request and reading the answer. -/
  settleDelay : UInt32
  /-- Operations to wait after a failed probe before the next one. -/
  retryBackoff : UInt16
  /-- Scan interval given to both halves when one comes online. -/
  keyscanInterval : UInt8
  /-- Which of the three bytes of an LED is its red channel. -/
  redChannel : UInt8
  /-- Taken off corrected red levels that are at least this large. -/
  redCompensation : UInt8
  /-- The LED that only one of the two key layouts has. -/
  isoOnlyLed : UInt8
  leds : LedLayout
  gamma : Gamma
  flasher : FlashFormat

namespace Profile

/-- The reference halves. -/
def raise : Profile where
  scannerBase := 0x58
  bootloaderBase := 0x50
  settleDelay := 40
  retryBackoff := 255
  keyscanInterval := 50
  redChannel := 0
  redCompensation := 26
  isoOnlyLed := 19
  leds := { count := 72, perBank := 8 }
  gamma := Gamma.power28
  flasher := {
    pageSize := 64
    frameSize := 16
    blank := 0xFF
    delay := 1
    eraseDelay := 1000
    crcSettle := 100
    frameAck := 3
    reverifyAttempts := 50
    reverifyDelay := 100
    commands := {
      pageAddress := 1
      continuePage := 2
      execute := 3
      eraseProgram := 4
      getVersionAndCrc := 6 } }

/-- Bus address of the scanner of the half with these select bits; only two of them count. -/
def scannerAddress (profile : Profile) (select : UInt8) : UInt8 :=
  profile.scannerBase ||| (select &&& 3)

/-- Bus address of the bootloader of the half with these select bits; only two of them count. -/
def bootloaderAddress (profile : Profile) (select : UInt8) : UInt8 :=
  profile.bootloaderBase ||| (select &&& 3)

end Profile
end SplitBoard

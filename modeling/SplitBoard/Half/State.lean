import SplitBoard.Key.State
import SplitBoard.Led.Frame
import SplitBoard.Side

/-!
# One half as the main controller sees it

What the controller remembers about a half: whether it answers, its LED colors, its keys. Nothing in
this module talks to the half.

A half that is unplugged must not hold up the others, so a countdown stands before every operation:
at zero the half is known to be there, at one it is probed, above one the operation is given up and
only the countdown moves.
-/

namespace SplitBoard

/-- Rows of keys on one half. -/
abbrev halfRows : Nat := 5

/-- Columns of keys on one half. -/
abbrev halfCols : Nat := 8

/-- The clock between a half's controller and its LED driver. -/
inductive SpiClock where
  | off
  | khz64
  | khz128
  | khz256
  | khz512
  | mhz1
  | mhz2
  | mhz4
  deriving DecidableEq, Repr

namespace SpiClock

/-- The clock that shows the least flicker. -/
def standard : SpiClock := khz512

/-- The number that stands for a clock. -/
def code : SpiClock → UInt8
  | off => 0
  | khz64 => 1
  | khz128 => 2
  | khz256 => 3
  | khz512 => 4
  | mhz1 => 5
  | mhz2 => 6
  | mhz4 => 7

/-- The clock that a number stands for. -/
def ofCode? (n : UInt8) : Option SpiClock :=
  match n.toNat with
  | 0 => some off
  | 1 => some khz64
  | 2 => some khz128
  | 3 => some khz256
  | 4 => some khz512
  | 5 => some mhz1
  | 6 => some mhz2
  | 7 => some mhz4
  | _ => none

/-- The name of a clock. -/
def name : SpiClock → String
  | off => "Off"
  | khz64 => "Khz64"
  | khz128 => "Khz128"
  | khz256 => "Khz256"
  | khz512 => "Khz512"
  | mhz1 => "Mhz1"
  | mhz2 => "Mhz2"
  | mhz4 => "Mhz4"

theorem ofCode?_code (clock : SpiClock) : ofCode? clock.code = some clock := by
  cases clock <;> rfl

end SpiClock

/-- Why an operation on a half has no result. All of them pass: the half is probed again later. -/
inductive LinkError where
  /-- The half is taken to be absent, and the bus was left alone but for a probe. -/
  | unavailable
  /-- A request was not acknowledged, or its answer did not arrive. -/
  | noResponse
  /-- An answer arrived but makes no sense. -/
  | badFrame
  deriving DecidableEq, Repr

/-- The wording of an error. -/
def LinkError.message : LinkError → String
  | unavailable => "peripheral unavailable"
  | noResponse => "peripheral did not respond"
  | badFrame => "malformed reply frame"

/-- One half. -/
structure Half where
  profile : Profile
  /-- The two select bits wired on the half. -/
  select : UInt8
  online : Bool
  /-- Zero for a half that is there, otherwise the operations until the next probe. -/
  countdown : UInt16
  /-- Check values that turned out wrong. -/
  crcErrors : UInt16
  /-- Taken off every color level; the complement of the brightness. -/
  dimming : UInt8
  leds : LedBuffer
  keys : Keys halfRows halfCols

namespace Half

/-- A half that has not been seen yet and is probed on first use. -/
def new (select : UInt8) (profile : Profile) : Half where
  profile
  select := select &&& 3
  online := false
  countdown := 1
  crcErrors := 0
  dimming := 0
  leds := .new profile.leds
  keys := .released

/-- Bus address of the half's scanner. -/
def address (half : Half) : UInt8 :=
  half.profile.scannerAddress half.select

/-- Bus address of the half's bootloader. -/
def bootloaderAddress (half : Half) : UInt8 :=
  half.profile.bootloaderAddress half.select

/-- Something went wrong; probe the half before the next operation. -/
def markUnavailable (half : Half) : Half :=
  { half with online := false, countdown := 1 }

/-- Count a wrong check value, as far as the counter goes. -/
def recordCrcError (half : Half) : Half :=
  { half with crcErrors := if half.crcErrors = 0xFFFF then 0xFFFF else half.crcErrors + 1 }

/-- How bright the LEDs shine. -/
def brightness (half : Half) : UInt8 :=
  255 - half.dimming

/-- Set how bright the LEDs shine. -/
def setBrightness (half : Half) (brightness : UInt8) : Half :=
  { half with dimming := 255 - brightness }

/-- Change the LED buffer. -/
def mapLeds (half : Half) (f : LedBuffer → LedBuffer) : Half :=
  { half with leds := f half.leds }

/-- Change the key state. -/
def mapKeys (half : Half) (f : Keys halfRows halfCols → Keys halfRows halfCols) : Half :=
  { half with keys := f half.keys }

/-- The frame that would tell the half the colors of a bank now. -/
def bankFrame (half : Half) (bank : Nat) : List UInt8 :=
  half.leds.frame half.profile half.dimming bank

end Half
end SplitBoard

import SplitBoard.Profile

/-!
# LED buffers

The colors of one half, as they should be, and which banks of them the half has not been told yet.
A bank is a run of LEDs that is sent in one transaction. Banks are sent in turn, and `nextBank` is
the one whose turn it is.

The layout of a profile is clamped to what the buffer can hold: at most 72 LEDs in at most 16 banks
of one to 16 LEDs each. A color that does not change its LED leaves the bank clean.
-/

namespace SplitBoard

/-- The LEDs of one half. -/
structure LedBuffer where
  /-- Number of LEDs. -/
  count : Nat
  /-- LEDs of one bank. -/
  perBank : Nat
  colors : Vector Color 72
  /-- The bank whose turn it is. -/
  nextBank : Nat
  /-- A one for every bank that changed since it was last sent. -/
  dirty : BitVec 16
  deriving DecidableEq

namespace LedBuffer

/-- LEDs that a buffer can hold. -/
def capacity : Nat := 72

/-- Banks that a buffer can have. -/
def maxBanks : Nat := 16

/-- LEDs that a bank can have. -/
def maxPerBank : Nat := 16

/-- A dark buffer with nothing to send. -/
def new (layout : LedLayout) : LedBuffer :=
  let perBank := min (max layout.perBank.toNat 1) maxPerBank
  { count := min (min layout.count.toNat capacity) (perBank * maxBanks)
    perBank
    colors := Vector.replicate 72 .black
    nextBank := 0
    dirty := 0 }

/-- Number of banks. -/
def banks (leds : LedBuffer) : Nat :=
  partsFor leds.count leds.perBank

/-- Color bytes of one bank. -/
def bankBytes (leds : LedBuffer) : Nat :=
  3 * leds.perBank

/-- The color of an LED. -/
def get? (leds : LedBuffer) (index : Nat) : Option Color :=
  if index < leds.count then leds.colors[index]? else none

/-- Give one LED a color. Its bank becomes dirty if that changes the LED. -/
def set (leds : LedBuffer) (index : Nat) (color : Color) : LedBuffer :=
  match leds.get? index with
  | none => leds
  | some old =>
    if old = color then leds
    else
      { leds with
        colors := leds.colors.setIfInBounds index color
        dirty := leds.dirty ||| (1#16 <<< (index / leds.perBank)) }

/-- Give every LED the same color. -/
def fill (leds : LedBuffer) (color : Color) : LedBuffer :=
  (List.range leds.count).foldl (fun leds index => leds.set index color) leds

/-- Make it a bank's turn. -/
def setNextBank (leds : LedBuffer) (bank : Nat) : LedBuffer :=
  if bank < leds.banks then { leds with nextBank := bank } else leds

/-- The bank whose turn it is; after it, it is the following one's. -/
def takeNextBank (leds : LedBuffer) : Nat × LedBuffer :=
  (leds.nextBank, { leds with nextBank := (leds.nextBank + 1) % max leds.banks 1 })

/-- Every bank has to be sent again. -/
def markAllDirty (leds : LedBuffer) : LedBuffer :=
  { leds with dirty := ~~~(BitVec.allOnes 16 <<< leds.banks) }

/-- Whether a bank changed since it was last sent. -/
def isDirty (leds : LedBuffer) (bank : Nat) : Bool :=
  bank < leds.banks && leds.dirty.getLsbD bank

/-- The first dirty bank, beginning with the one whose turn it is and going round. -/
def nextDirtyBank? (leds : LedBuffer) : Option Nat :=
  ((List.range leds.banks).map fun n => (leds.nextBank + n) % leds.banks).find? leds.isDirty

/-- A bank has been sent. -/
def clearDirty (leds : LedBuffer) (bank : Nat) : LedBuffer :=
  if bank < leds.banks then { leds with dirty := leds.dirty &&& ~~~(1#16 <<< bank) } else leds

/-- The colors of a bank. Places behind the last LED are dark. -/
def bankColors (leds : LedBuffer) (bank : Nat) : List Color :=
  (List.range leds.perBank).map fun place =>
    (leds.get? (bank * leds.perBank + place)).getD .black

/-- The color bytes of a bank in the order in which they are sent. -/
def bankChannels (leds : LedBuffer) (bank : Nat) : List UInt8 :=
  (leds.bankColors bank).flatMap Color.channels

/-- Write the color bytes of a bank over the beginning of `out`, as far as they fit. Gives the
number of bytes written. -/
def writeBank (leds : LedBuffer) (bank : Nat) (out : List UInt8) : Nat × List UInt8 :=
  let bytes := (leds.bankChannels bank).take out.length
  (bytes.length, bytes ++ out.drop bytes.length)

end LedBuffer
end SplitBoard

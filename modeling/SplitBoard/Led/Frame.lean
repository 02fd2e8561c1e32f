import SplitBoard.Led.Buffer

/-!
# Bank frames

What is sent for a bank of LEDs: a byte that names the bank, then three bytes for each LED. Every
byte is dimmed, then corrected by the gamma table, and red bytes are lowered a little more, because
red LEDs see a higher voltage.
-/

namespace SplitBoard

/-- The byte that is sent for a color level: less the dimming, corrected, and for red less the
compensation where the level is large enough. -/
def Profile.encodeLevel (profile : Profile) (dimming : UInt8) (isRed : Bool) (level : UInt8) :
    UInt8 :=
  let corrected := profile.gamma.apply (level - min level dimming)
  if isRed ∧ profile.redCompensation ≤ corrected then corrected - profile.redCompensation
  else corrected

namespace LedBuffer

/-- The number that the commands for the banks begin at. -/
def bankCommand : UInt8 := 0x80

/-- Encode the color bytes of a bank; every third of them is red. -/
def encodeChannels (profile : Profile) (dimming : UInt8) (channels : List UInt8) : List UInt8 :=
  channels.mapIdx fun i level =>
    profile.encodeLevel dimming (i % 3 = profile.redChannel.toNat) level

/-- The frame that tells a half the colors of a bank. -/
def frame (leds : LedBuffer) (profile : Profile) (dimming : UInt8) (bank : Nat) : List UInt8 :=
  (bankCommand + UInt8.ofNat bank) :: encodeChannels profile dimming (leds.bankChannels bank)

theorem length_writeBank (leds : LedBuffer) (bank : Nat) (out : List UInt8) :
    (leds.writeBank bank out).2.length = out.length := by
  simp only [writeBank, List.length_append, List.length_take, List.length_drop]
  omega

theorem length_encodeChannels (profile : Profile) (dimming : UInt8) (channels : List UInt8) :
    (encodeChannels profile dimming channels).length = channels.length :=
  List.length_mapIdx

end LedBuffer

/-- The place in which frames are built, one after the other. It has room for the largest bank. -/
structure FrameBuffer where
  bytes : List UInt8
  length_eq : bytes.length = 1 + 3 * LedBuffer.maxPerBank

/-- Build the frame of a bank over the beginning of what is there. Gives the number of color bytes
too. -/
def LedBuffer.assemble (leds : LedBuffer) (profile : Profile) (dimming : UInt8) (bank : Nat)
    (buffer : FrameBuffer) : Nat × FrameBuffer :=
  let written := leds.writeBank bank (buffer.bytes.drop 1)
  let encoded := encodeChannels profile dimming (written.2.take written.1)
  (written.1, {
    bytes := (bankCommand + UInt8.ofNat bank) :: (encoded ++ written.2.drop written.1)
    length_eq := by
      have room := buffer.length_eq
      have kept : written.2.length = (buffer.bytes.drop 1).length :=
        leds.length_writeBank bank (buffer.bytes.drop 1)
      rw [List.length_drop] at kept
      rw [List.length_cons, List.length_append, length_encodeChannels, ← List.length_append,
        List.take_append_drop]
      omega })

end SplitBoard

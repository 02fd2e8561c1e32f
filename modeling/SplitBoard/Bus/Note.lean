import SplitBoard.Bus.Transmission
import SplitBoard.Firmware.Phase
import SplitBoard.Side

/-!
# Notes

What the program tells about its work while it goes on: log records, and the progress of an update.
A note is a fact; its importance and its wording follow from it.
-/

namespace SplitBoard

/-- How important a log record is. -/
inductive Importance where
  | trace
  | debug
  | info
  | warning
  deriving DecidableEq, Repr

/-- Something worth telling. -/
inductive Note where
  /-- A half answered its probe. -/
  | present (address : UInt8)
  /-- A half did not answer its probe and is left alone for a number of operations. -/
  | absent (address : UInt8) (cycles : UInt16)
  /-- A request was not acknowledged. -/
  | writeFailed (command address : UInt8) (status : Transmission)
  /-- A request was acknowledged, but its answer did not arrive in full. -/
  | noAnswer (command address : UInt8)
  /-- A key frame came short or with the wrong tag. -/
  | badKeyFrame (address : UInt8) (received : Nat) (tag : UInt8)
  /-- A bank of colors is about to be sent. -/
  | sendingBank (bank : Nat) (address : UInt8)
  /-- An update enters a phase. -/
  | phase (phase : Firmware.Phase)
  /-- So many pages of all pages are on the device. -/
  | page (written total : Nat)
  /-- An update failed. -/
  | updateFailed (address : UInt8) (phase : Firmware.Phase) (failure : Firmware.Failure)
  /-- What the bootloader said before anything was written. -/
  | reported (address version : UInt8) (crc : UInt16)
  /-- A frame of a page was sent and ended with a status. -/
  | frameSent (offset : UInt16) (frame : Nat) (crc : UInt16) (status : Transmission)
  | connected (side : Side)
  | disconnected (side : Side)
  /-- The layout of the board is another one than before. -/
  | layoutChanged (layout : KeyLayout)
  /-- An update of a half begins. -/
  | flashing (side : Side)
  deriving DecidableEq, Repr

namespace Note

private def byteText (b : UInt8) : String := "0x" ++ Text.upperHex 2 b.toNat

private def wordText (w : UInt16) : String := "0x" ++ Text.upperHex 4 w.toNat

/-- The log record of a note. Progress by pages is not logged. -/
def record? : Note → Option (Importance × String)
  | present address => some (.debug, s!"peripheral {byteText address} is back")
  | absent address cycles =>
    some (.debug, s!"peripheral {byteText address} absent, next probe in {cycles.toNat} cycles")
  | writeFailed command address status =>
    some (.warning, s!"write of {byteText command} to {byteText address} failed: " ++
      s!"status {status.code.toNat}")
  | noAnswer command address =>
    some (.warning, s!"no answer to {byteText command} from {byteText address}")
  | badKeyFrame address received tag =>
    some (.warning, s!"bad key frame from {byteText address}: {received} bytes, " ++
      s!"tag {byteText tag}")
  | sendingBank bank address => some (.trace, s!"bank {bank} -> {byteText address}")
  | phase p => some (.debug, s!"flash phase: {p.description}")
  | page .. => none
  | updateFailed address p failure =>
    some (.warning, s!"flashing {byteText address} failed in {p.name}: {failure.message}")
  | reported address version crc =>
    some (.debug, s!"bootloader {byteText address}: version {version.toNat}, " ++
      s!"crc {wordText crc}")
  | frameSent offset frame crc status =>
    some (.trace, s!"page {wordText offset} frame {frame}: crc {wordText crc}, " ++
      s!"status {status.code.toNat}")
  | connected side => some (.info, s!"{side.name} half connected")
  | disconnected side => some (.info, s!"{side.name} half disconnected")
  | layoutChanged layout => some (.debug, s!"layout is now {layout.name}")
  | flashing side => some (.info, s!"flashing {side.name} half")

end Note
end SplitBoard

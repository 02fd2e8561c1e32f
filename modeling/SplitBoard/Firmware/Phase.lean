import SplitBoard.Text.Hexadecimal

/-!
# Phases and failures of an update

Where a firmware update stands, and the ways in which it can end badly.
-/

namespace SplitBoard.Firmware

/-- Where an update stands. -/
inductive Phase where
  | idle
  | verifying
  | erasing
  | writing
  | reverifying
  | done
  | failed
  deriving DecidableEq, Repr

namespace Phase

/-- The name of a phase. -/
def name : Phase → String
  | idle => "Idle"
  | verifying => "Verifying"
  | erasing => "Erasing"
  | writing => "Writing"
  | reverifying => "ReVerifying"
  | done => "Done"
  | failed => "Failed"

/-- What goes on in a phase. -/
def description : Phase → String
  | idle => "Idle"
  | verifying => "Reading bootloader version and CRC"
  | erasing => "Erasing application"
  | writing => "Writing pages"
  | reverifying => "Verifying written image"
  | done => "Done"
  | failed => "Failed"

end Phase

/-- Why an update ended without the new firmware running. -/
inductive Failure where
  /-- The image cannot be split into addressable pages. -/
  | invalidImage
  /-- The bootloader reported no version and check value; nothing was written. -/
  | noReport
  /-- The erase command was not acknowledged. -/
  | eraseRefused
  /-- A page address or a frame was not acknowledged as it should be; the device may be left half
  written. -/
  | pageRefused (offset : UInt16)
  /-- The check value read back is not that of the image. -/
  | mismatch (expected actual : UInt16)
  /-- The check value could not be read back. -/
  | silentAfterwards
  /-- The command that starts the new firmware was not acknowledged. -/
  | executeRefused
  deriving DecidableEq, Repr

/-- The wording of a failure. -/
def Failure.message : Failure → String
  | invalidImage => "invalid firmware image"
  | noReport => "peripheral bootloader did not report a usable CRC"
  | eraseRefused => "erase command failed"
  | pageRefused offset => s!"write failed for page at 0x{Text.upperHex 4 offset.toNat}"
  | mismatch expected actual =>
    s!"CRC mismatch after write: expected 0x{Text.upperHex 4 expected.toNat}, " ++
      s!"got 0x{Text.upperHex 4 actual.toNat}"
  | silentAfterwards => "peripheral stopped answering during verification"
  | executeRefused => "execute command failed"

end SplitBoard.Firmware

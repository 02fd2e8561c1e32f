import SplitBoard.Board
import SplitBoard.Firmware.Bootloader
import SplitBoard.Firmware.Load

/-!
# Dry runs

An update of one half of a board, played against a simulated bootloader.
-/

namespace SplitBoard.Firmware

/-- What a dry run shows. -/
structure DryRun where
  report : Report
  /-- Whole milliseconds that the update would have taken on the bus. -/
  milliseconds : UInt64
  /-- All transactions. -/
  log : List LoggedTransaction

/-- A dry run that failed: the half, and why. -/
structure DryRunError where
  side : Side
  failure : Failure

/-- The error and its cause, outermost first. -/
def DryRunError.chain (error : DryRunError) : List String :=
  [s!"flashing the {error.side.name} half", error.failure.message]

/-- Play the update of one half. -/
def dryRun (loaded : LoadedImage) (side : Side) (profile : Profile) : Except DryRunError DryRun :=
  let device : Bootloader :=
    { address := profile.bootloaderAddress side.select, format := profile.flasher }
  let work := (Board.flash side loaded.image).run (Board.new profile)
  let ((result, _), device) := work.run Bootloader.partner device
  match result with
  | .ok report => .ok ⟨report, device.elapsedMilliseconds, device.log.toList⟩
  | .error failure => .error ⟨side, failure⟩

end SplitBoard.Firmware

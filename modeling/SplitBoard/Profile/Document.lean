import SplitBoard.Profile
import SplitBoard.Toml.Library

/-!
# Profile documents

A profile can be written as a TOML document and read back, with a library that does both. What the
tables of such a document are is declared here, field by field.

**What a document leaves out keeps the value of the reference halves**: each table says on its own
what it is filled in from. The gamma table is no part of a document.
-/

namespace SplitBoard

open Toml (Declaration Library)

/-- The table of the LED layout. -/
def LedLayout.declaration : Declaration LedLayout :=
  Declaration.filledFrom Profile.raise.leds
  |>.byte "count" count ({ · with count := · })
  |>.byte "per_bank" perBank ({ · with perBank := · })

/-- The table of the bootloader's commands. -/
def BootloaderCommands.declaration : Declaration BootloaderCommands :=
  Declaration.filledFrom Profile.raise.flasher.commands
  |>.byte "page_address" pageAddress ({ · with pageAddress := · })
  |>.byte "continue_page" continuePage ({ · with continuePage := · })
  |>.byte "execute" execute ({ · with execute := · })
  |>.byte "erase_program" eraseProgram ({ · with eraseProgram := · })
  |>.byte "get_version_and_crc" getVersionAndCrc ({ · with getVersionAndCrc := · })

/-- The table of the flash format. -/
def FlashFormat.declaration : Declaration FlashFormat :=
  Declaration.filledFrom Profile.raise.flasher
  |>.word "page_size" pageSize ({ · with pageSize := · })
  |>.word "frame_size" frameSize ({ · with frameSize := · })
  |>.byte "blank" blank ({ · with blank := · })
  |>.long "delay_ms" delay ({ · with delay := · })
  |>.long "erase_delay_ms" eraseDelay ({ · with eraseDelay := · })
  |>.long "crc_settle_ms" crcSettle ({ · with crcSettle := · })
  |>.byte "frame_ack" frameAck ({ · with frameAck := · })
  |>.word "reverify_attempts" reverifyAttempts ({ · with reverifyAttempts := · })
  |>.long "reverify_delay_ms" reverifyDelay ({ · with reverifyDelay := · })
  |>.table "commands" BootloaderCommands.declaration commands ({ · with commands := · })

namespace Profile

/-- The table that a document is. -/
def declaration : Declaration Profile :=
  Declaration.filledFrom { raise with gamma := Gamma.power28 }
  |>.byte "scanner_address_base" scannerBase ({ · with scannerBase := · })
  |>.byte "bootloader_address_base" bootloaderBase ({ · with bootloaderBase := · })
  |>.long "settle_delay_us" settleDelay ({ · with settleDelay := · })
  |>.word "retry_backoff" retryBackoff ({ · with retryBackoff := · })
  |>.byte "keyscan_interval" keyscanInterval ({ · with keyscanInterval := · })
  |>.byte "red_channel" redChannel ({ · with redChannel := · })
  |>.byte "red_compensation" redCompensation ({ · with redCompensation := · })
  |>.byte "iso_only_led" isoOnlyLed ({ · with isoOnlyLed := · })
  |>.table "leds" LedLayout.declaration leds ({ · with leds := · })
  |>.table "flasher" FlashFormat.declaration flasher ({ · with flasher := · })

/-- Read a profile. Nothing comes of a text that is no TOML document or describes no profile. -/
def parse (library : Library) (text : String) : Option Profile := do
  library.decode declaration (.table (← library.read text))

/-- Print every number of a profile. -/
def print (library : Library) (profile : Profile) : Option String :=
  library.write (library.encode declaration profile)

end Profile
end SplitBoard

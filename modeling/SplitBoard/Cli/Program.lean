import SplitBoard.Cli.Arguments
import SplitBoard.Cli.Files
import SplitBoard.Firmware.DryRun
import SplitBoard.Led.Preview
import SplitBoard.Profile.Document

/-!
# The command line program

What each command reads, checks and prints. The program is a dialogue with the file system, so all
of it but the reading itself is plain computation.

An error is a row of texts, what went wrong first and its causes behind it. The profile is loaded
before anything else, so its errors come before those of the command. Profiles are read and printed
by a library for documents.
-/

namespace SplitBoard.Cli

/-- How a run ends. -/
structure Outcome where
  exit : UInt8
  stdout : String := ""
  stderr : String := ""
  deriving DecidableEq

/-- An error and its causes, outermost first. -/
structure Trouble where
  text : String
  causes : List String := []
  deriving DecidableEq

/-- The trouble that a row of texts stands for. -/
def Trouble.ofChain : List String → Trouble
  | [] => { text := "" }
  | text :: causes => { text, causes }

/-- The trouble as the cause of another one. -/
def Trouble.within (trouble : Trouble) (text : String) : Trouble :=
  { text, causes := trouble.text :: trouble.causes }

/-- The causes as lines, numbered if there are more than one. -/
def causeLines : List String → List String
  | [cause] => ["    " ++ cause]
  | causes => causes.mapIdx fun i cause =>
      let number := toString i
      String.ofList (List.replicate (5 - number.length) ' ') ++ number ++ ": " ++ cause

/-- Trouble as it is printed. -/
def Trouble.print (trouble : Trouble) : String :=
  let causes :=
    if trouble.causes.isEmpty then ""
    else "\n\nCaused by:\n" ++ "\n".intercalate (causeLines trouble.causes)
  "Error: " ++ trouble.text ++ causes ++ "\n"

/-- Work that reads files and may get into trouble. -/
abbrev Task (α : Type) : Type := ExceptT Trouble Reading α

/-- A result, or the trouble that its error stands for. -/
def orTrouble {ε α : Type} (trouble : ε → Trouble) (result : Except ε α) : Task α :=
  match result with
  | .ok a => return a
  | .error e => throw (trouble e)

/-- The bytes of a file. -/
def readBytes (path : String) : Task (Array UInt8) := do
  let result : Except ReadFault (Array UInt8) ← (readFile path : Reading _)
  orTrouble (fun fault => { text := s!"reading {path}", causes := [fault.message] }) result

/-- The profile in a file, or that of the reference halves. -/
def loadProfile (library : Toml.Library) : Option String → Task Profile
  | none => return Profile.raise
  | some path => do
    let bytes ← readBytes path
    match Text.decodeUtf8 bytes.toList with
    | .error _ =>
      throw { text := s!"reading {path}", causes := ["stream did not contain valid UTF-8"] }
    | .ok text =>
      match Profile.parse library (String.ofList text) with
      | some profile => return profile
      | none => throw { text := s!"parsing {path}", causes := ["not a profile"] }

/-- Whether a path names an Intel HEX file. -/
def isHexPath (path : String) : Bool :=
  match extension? path with
  | some ext => ext.toLower = "hex"
  | none => false

/-- The image in a file. -/
def loadImage (path : String) (base : UInt16) (profile : Profile) :
    Task Firmware.LoadedImage := do
  let bytes ← readBytes path
  orTrouble (fun e => (Trouble.ofChain e.chain).within s!"loading {path}")
    (Firmware.load bytes (isHexPath path) base profile.flasher.blank)

/-- A word as an address or check value. -/
def wordText (w : UInt16) : String :=
  "0x" ++ Text.upperHex 4 w.toNat

/-- Show what is to know about an image. -/
def inspect (profile : Profile) (path : String) (base : UInt16) : Task String := do
  let loaded ← loadImage path base profile
  let image := loaded.image
  let format := profile.flasher
  let flashable := match image.validate format with
    | .ok () => "yes"
    | .error failure => s!"no ({failure.message})"
  return s!"Image:        {path}\n" ++
    s!"Size:         {image.size} bytes\n" ++
    s!"Base address: {wordText loaded.base}\n" ++
    s!"Pages:        {image.pageCount format.pageSize} x {format.pageSize.toNat} bytes, " ++
    s!"{format.framesPerPage} frames of {format.frameSize.toNat} bytes each\n" ++
    s!"Expected CRC: {wordText image.expectedCrc}\n" ++
    s!"Flashable:    {flashable}\n"

/-- Where a part of a file ends: so many bytes behind its beginning, or at the end of the file. -/
def rangeEnd (size offset : Nat) : Option Nat → Task Nat
  | none => return size
  | some length =>
    if offset + length < UInt64.size then return offset + length
    else throw { text := "range overflows" }

/-- The check value of a part of a file. -/
def crc (path : String) (offset : Nat) (length : Option Nat) : Task String := do
  let bytes ← readBytes path
  let stop ← rangeEnd bytes.size offset length
  if offset ≤ stop ∧ stop ≤ bytes.size then
    return wordText (Crc16.ofRange bytes offset stop) ++ "\n"
  else
    throw { text := s!"range {offset}..{stop} is outside the {bytes.size} byte file" }

/-- What a dry run did. -/
def dryRunText (run : Firmware.DryRun) : String :=
  let r := run.report
  s!"Flashed {r.bytes} bytes in {r.pages} pages, CRC {wordText r.crc} " ++
    s!"(was version {r.previousVersion.toNat}, CRC {wordText r.previousCrc})\n" ++
    s!"Simulated bus time: {run.milliseconds} ms\n"

/-- Update a half. Only the simulated bootloader is at hand. -/
def flash (profile : Profile) (verbose : Bool) (path : String) (side : Side) (dryRun : Bool)
    (base : UInt16) : Task String := do
  unless dryRun do
    throw { text := "no host bus adapter is supported; the main controller flashes halves " ++
      "itself. Pass --dry-run to exercise the update against a simulated bootloader." }
  let loaded ← loadImage path base profile
  let run ← orTrouble (fun e => Trouble.ofChain e.chain) (Firmware.dryRun loaded side profile)
  let log := if verbose then String.join (run.log.map fun t => t.line ++ "\n") else ""
  return log ++ dryRunText run

/-- The frames for a color. -/
def ledPreview (profile : Profile) (text : String) (brightness : UInt8) : Task String := do
  let color ← orTrouble (fun e => Trouble.ofChain e.chain) (Color.parse text)
  let frames := previewFrames profile color brightness
  return String.join (frames.mapIdx fun bank frame => s!"bank {bank}: {frameText frame}\n")

/-- A profile as a document. -/
def printProfile (library : Toml.Library) (profile : Profile) : Task String :=
  match profile.print library with
  | some text => return text
  | none => throw { text := "serializing profile" }

/-- What a command prints. -/
def Command.run (command : Command) (library : Toml.Library) (profile : Profile) (verbose : Bool) :
    Task String :=
  match command with
  | .inspect image base => Cli.inspect profile image base
  | .crc file offset length => Cli.crc file offset length
  | .flash image side dryRun base => Cli.flash profile verbose image side dryRun base
  | .ledPreview color brightness => Cli.ledPreview profile color brightness
  | .profile => printProfile library profile

/-- How to use the program. -/
def usage : String :=
  "Split keyboard peripheral link tooling\n\n" ++
  "Usage: splitboard [OPTIONS] <COMMAND>\n\n" ++
  "Commands:\n" ++
  "  inspect      Show size, page layout and expected CRC of a firmware image\n" ++
  "  crc          Compute the bootloader CRC16 of a byte range\n" ++
  "  flash        Flash an image onto one half\n" ++
  "  led-preview  Print the LED bank frames for a solid color\n" ++
  "  profile      Print the active peripheral profile as TOML\n" ++
  "  help         Print this message\n\n" ++
  "Options:\n" ++
  "      --profile <PROFILE>  TOML file overriding fields of the built-in peripheral profile\n" ++
  "  -v, --verbose            Log protocol details\n" ++
  "  -h, --help               Print help\n"

/-- Do what the words of a command line ask for. -/
def program (library : Toml.Library) (words : List String) : Reading Outcome := do
  match Invocation.ofWords words with
  | .help => return { exit := 0, stdout := usage }
  | .misuse => return { exit := 2, stderr := usage }
  | .run path verbose command =>
    let task : Task String := do
      let profile ← loadProfile library path
      command.run library profile verbose
    match ← ExceptT.run task with
    | .ok text => return { exit := 0, stdout := text }
    | .error trouble => return { exit := 1, stderr := trouble.print }

end SplitBoard.Cli

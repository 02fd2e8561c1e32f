import SplitBoard.Bus.Wire
import SplitBoard.Half.State

/-!
# Talking to a half

A request is one write: a command byte and its arguments. A register is read by writing its command,
giving the half a moment to prepare the answer, and reading that in a transaction of its own. Key
data needs no command; a read alone delivers it.

**Every operation first consults the countdown**, and every transaction that fails makes the next
operation begin with a probe.
-/

namespace SplitBoard

/-- An operation on a half: work on the bus that may change what is known of the half, and may fail.
What was learned before a failure is kept. -/
abbrev HalfOp (α : Type) : Type := ExceptT LinkError (StateT Half Wire) α

namespace Half

/-! ## The commands of a half's scanner -/

namespace Command

def version : UInt8 := 0x01
def keyscanInterval : UInt8 := 0x02
def setAllLeds : UInt8 := 0x03
def setOneLed : UInt8 := 0x04
def colsUsePullups : UInt8 := 0x05
def ledSpiClock : UInt8 := 0x06
def globalBrightness : UInt8 := 0x07
def sledStatus : UInt8 := 0x08
def ledOpen : UInt8 := 0x09
def ledShort : UInt8 := 0x0A
def joined : UInt8 := 0x0B
def layout : UInt8 := 0x0C
def sledCurrent : UInt8 := 0x0D
def sledSelfTest : UInt8 := 0x0E

end Command

/-- The first byte of key data. -/
def keyDataTag : UInt8 := 0x01

/-- Bytes of key data: the tag, then one byte for each row. -/
def keyDataLength : Nat := 1 + halfRows

/-- Run an operation on a half. -/
def perform {α : Type} (op : HalfOp α) (half : Half) : Wire (Except LinkError α × Half) :=
  (ExceptT.run op).run half

/-- Say something about the half. -/
def tell (note : Half → Note) : StateT Half Wire Unit := do
  Wire.tell (note (← get))

/-- Consult the countdown. Answers whether the operation may go on. -/
def checkAvailable : StateT Half Wire Bool := do
  let half ← get
  if half.countdown = 0 then return true
  else if half.countdown = 1 then
    let status ← Wire.probe half.address
    if status.isComplete then
      tell fun half => .present half.address
      set { half with online := true, countdown := 0 }
      return true
    else
      tell fun half => .absent half.address half.profile.retryBackoff
      set { half with online := false, countdown := max half.profile.retryBackoff 1 }
      return false
  else
    set { half with countdown := half.countdown - 1 }
    return false

/-- Give the operation up unless the half may be talked to. -/
def requireAvailable : HalfOp Unit := do
  unless ← checkAvailable do throw .unavailable

/-- Give the operation up because a transaction failed. -/
def fail {α : Type} (error : LinkError) : HalfOp α := do
  modify markUnavailable
  throw error

/-- Send one request. -/
def send (request : List UInt8) : HalfOp Unit := do
  requireAvailable
  let half ← get
  let status ← Wire.write half.address request
  if status.isComplete then
    set { half with online := true }
  else
    tell fun half => .writeFailed (request.headD 0) half.address status
    fail .noResponse

/-- Read the answer to a command, all of it. -/
def readAnswer (command : UInt8) (length : Nat) : HalfOp (List UInt8) := do
  send [command]
  let half ← get
  Wire.waitMicroseconds half.profile.settleDelay.toNat
  let delivery ← Wire.read half.address length
  if delivery.isFull then
    return delivery.bytes
  else
    tell fun half => .noAnswer command half.address
    fail .noResponse

/-- Read a register of one byte. -/
def readRegister (command : UInt8) : HalfOp UInt8 := do
  return (← readAnswer command 1).headD 0

/-- Write a register of one byte. -/
def writeRegister (command value : UInt8) : HalfOp Unit :=
  send [command, value]

/-- The rows that key data carries behind its tag. -/
def rowsOfKeyData (bytes : List UInt8) : KeyRows halfRows halfCols :=
  Vector.ofFn fun row => (bytes.getD (row.val + 1) 0).toBitVec

/-- Read the keys. They are only changed by key data that is complete and has the right tag. -/
def readKeys : HalfOp (Keys halfRows halfCols) := do
  requireAvailable
  let half ← get
  let delivery ← Wire.read half.address keyDataLength
  let tag := delivery.bytes.headD 0
  if delivery.isFull ∧ tag = keyDataTag then
    let keys := half.keys.update (rowsOfKeyData delivery.bytes)
    set { half with keys, online := true }
    return keys
  else
    tell fun half => .badKeyFrame half.address delivery.bytes.length tag
    fail .badFrame

/-! ## Registers -/

/-- Version of the scanner's firmware. -/
def readVersion : HalfOp UInt8 := readRegister Command.version

/-- Pause between two scans of the matrix. -/
def readKeyscanInterval : HalfOp UInt8 := readRegister Command.keyscanInterval

/-- Set the pause between two scans of the matrix. -/
def setKeyscanInterval (interval : UInt8) : HalfOp Unit :=
  writeRegister Command.keyscanInterval interval

/-- Clock of the LED driver. A number that stands for no clock is a bad frame, but the half is
there. -/
def readSpiClock : HalfOp SpiClock := do
  match SpiClock.ofCode? (← readRegister Command.ledSpiClock) with
  | some clock => return clock
  | none => throw .badFrame

/-- Set the clock of the LED driver. -/
def setSpiClock (clock : SpiClock) : HalfOp Unit :=
  writeRegister Command.ledSpiClock clock.code

/-- Turn the pull-ups of the columns on or off. -/
def setColsUsePullups (enabled : Bool) : HalfOp Unit :=
  writeRegister Command.colsUsePullups (if enabled then 1 else 0)

/-- Set the brightness of the LED driver itself. -/
def setGlobalBrightness (level : UInt8) : HalfOp Unit :=
  writeRegister Command.globalBrightness level

/-- Version of the LED driver. -/
def readSledStatus : HalfOp UInt8 := readRegister Command.sledStatus

/-- Current of the LED driver. -/
def readSledCurrent : HalfOp UInt8 := readRegister Command.sledCurrent

/-- Set the current of the LED driver. -/
def setSledCurrent (current : UInt8) : HalfOp Unit :=
  writeRegister Command.sledCurrent current

/-- Let the LED driver test itself. -/
def sledSelfTest : HalfOp Unit := send [Command.sledSelfTest]

/-- LEDs found open by the self test. -/
def readOpenLeds : HalfOp UInt8 := readRegister Command.ledOpen

/-- LEDs found shorted by the self test. -/
def readShortedLeds : HalfOp UInt8 := readRegister Command.ledShort

/-- The layout that the half was built for. -/
def readLayout : HalfOp KeyLayout := do
  return KeyLayout.ofReport (← readRegister Command.layout)

/-- The sensor that tells whether the halves are joined, a word with its low byte first. -/
def readJoint : HalfOp UInt16 := do
  let bytes ← readAnswer Command.joined 2
  return (bytes.getD 0 0).toUInt16 ||| ((bytes.getD 1 0).toUInt16 <<< 8)

/-- The corrected levels of a color in the order in which they are sent. -/
def correctedLevels (half : Half) (color : Color) : List UInt8 :=
  color.channels.map half.profile.gamma.apply

/-- Show one color on all LEDs, without going through the buffer. -/
def showOnAll (color : Color) : HalfOp Unit := do
  send (Command.setAllLeds :: correctedLevels (← get) color)

/-- Show a color on one LED, without going through the buffer. -/
def showOnOne (led : UInt8) (color : Color) : HalfOp Unit := do
  send (Command.setOneLed :: led :: correctedLevels (← get) color)

end Half
end SplitBoard

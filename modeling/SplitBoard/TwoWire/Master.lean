import SplitBoard.Bus.Wire
import SplitBoard.TwoWire.Unit

/-!
# The bus master

How the main controller carries out what is asked of the bus, by steps of its two-wire unit. After
every step it waits for the flag, but not for ever: a unit that stays silent is a bus fault.

**Every transaction ends with a stop**, except a write that keeps the bus and went well.
-/

namespace SplitBoard.TwoWire

/-- The bit rate register for 100 kHz from a clock of 16 MHz. -/
def bitRate : UInt8 := 72

/-- How often the flag is looked at before a step is given up. -/
def patience : Nat := 65535

/-- Set the unit up. -/
def setUp : Registers Unit := do
  writeRegister .bitRate bitRate
  writeRegister .status 0
  writeRegister .control Control.enable

/-- Look at the flag up to so many times. Answers whether it was seen. -/
def awaitFlag : Nat → Registers Bool
  | 0 => return false
  | looks + 1 => do
    let control ← readRegister .control
    if control &&& Control.flag ≠ 0 then return true else awaitFlag looks

/-- Start a step with further bits of the control register, and wait for its end. Gives the status,
or nothing if the end does not come. -/
def step (bits : UInt8) : Registers (Option UInt8) := do
  writeRegister .control (Control.flag ||| Control.enable ||| bits)
  if ← awaitFlag patience then
    return some ((← readRegister .status) &&& Status.mask)
  else
    return none

/-- Send a start, or a repeated start if the bus was kept. -/
def sendStart : Registers Bool := do
  let status ← step Control.start
  return status = some Status.started ∨ status = some Status.restarted

/-- Send a stop. Nobody waits for it. -/
def sendStop : Registers Unit :=
  writeRegister .control (Control.flag ||| Control.enable ||| Control.stop)

/-- Send one byte. Gives the status, or nothing if the end does not come. -/
def sendByte (byte : UInt8) : Registers (Option UInt8) := do
  writeRegister .data byte
  step 0

/-- Receive one byte, and acknowledge it or not. -/
def receiveByte (acknowledge : Bool) : Registers (Option UInt8) := do
  let status ← step (if acknowledge then Control.acknowledge else 0)
  let expected := if acknowledge then Status.receivedAcknowledged else Status.receivedRefused
  if status = some expected then return some (← readRegister .data) else return none

/-- The byte that addresses a device to be written to. -/
def writeAddress (address : UInt8) : UInt8 := address <<< 1

/-- The byte that addresses a device to be read from. -/
def readAddress (address : UInt8) : UInt8 := (address <<< 1) ||| 1

/-- Send data bytes up to the first that is not acknowledged. -/
def sendBytes : List UInt8 → Registers Transmission
  | [] => return .complete
  | byte :: rest => do
    let status ← sendByte byte
    if status = some Status.byteAcknowledged then sendBytes rest
    else if status = some Status.byteRefused then return .dataNack
    else return .fault

/-- Send a start, the address and the data, but no stop. -/
def transmit (address : UInt8) (bytes : List UInt8) : Registers Transmission := do
  if ← sendStart then
    let status ← sendByte (writeAddress address)
    if status = some Status.writeAcknowledged then sendBytes bytes
    else if status = some Status.writeRefused then return .addressNack
    else return .fault
  else
    return .fault

/-- Write and release the bus. -/
def write (address : UInt8) (bytes : List UInt8) : Registers Transmission := do
  let status ← transmit address bytes
  sendStop
  return status

/-- Write and keep the bus, unless something went wrong. -/
def hold (address : UInt8) (bytes : List UInt8) : Registers Transmission := do
  let status ← transmit address bytes
  unless status.isComplete do sendStop
  return status

/-- Receive up to so many bytes, as long as they come as they should, behind those received so far,
of which the newest stands first. All but the last one are acknowledged. -/
def receiveBytes (received : List UInt8) : (left : Nat) → Registers (List UInt8)
  | 0 => return received.reverse
  | left + 1 => do
    match ← receiveByte (left ≠ 0) with
    | none => return received.reverse
    | some byte => receiveBytes (byte :: received) left

/-- Send a start and the address, then receive. A read of nothing asks for nothing. -/
def receive (address : UInt8) (length : Nat) : Registers (Delivery length) := do
  if length = 0 then return ⟨[], Nat.zero_le _⟩
  else if ← sendStart then
    let status ← sendByte (readAddress address)
    if status = some Status.readAcknowledged then
      return .ofList length (← receiveBytes [] length)
    else return ⟨[], Nat.zero_le _⟩
  else
    return ⟨[], Nat.zero_le _⟩

/-- Read and release the bus. -/
def read (address : UInt8) (length : Nat) : Registers (Delivery length) := do
  let delivery ← receive address length
  sendStop
  return delivery

/-- Receive over what is in a buffer, byte after byte, as long as they come as they should. All but
the last one are acknowledged. Gives how many came, and the buffer. -/
def receiveOver : (buffer : List UInt8) → Registers (Nat × List UInt8)
  | [] => return (0, [])
  | old :: rest => do
    match ← receiveByte (rest ≠ []) with
    | none => return (0, old :: rest)
    | some byte =>
      let (count, filled) ← receiveOver rest
      return (count + 1, byte :: filled)

/-- Send a start and the address, then receive into a buffer. For an empty buffer nothing is asked
for. -/
def receiveInto (address : UInt8) (buffer : List UInt8) : Registers (Nat × List UInt8) := do
  if buffer = [] then return (0, buffer)
  else if ← sendStart then
    let status ← sendByte (readAddress address)
    if status = some Status.readAcknowledged then receiveOver buffer else return (0, buffer)
  else
    return (0, buffer)

/-- Read into a buffer and release the bus, for a caller who keeps memory for the answer. -/
def readInto (address : UInt8) (buffer : List UInt8) : Registers (Nat × List UInt8) := do
  let outcome ← receiveInto address buffer
  sendStop
  return outcome

/-- Carry out what is asked of the bus. Waiting and telling leave the unit alone. -/
def carryOut : (request : Bus.Request) → Registers request.Reply
  | .write address bytes => write address bytes
  | .hold address bytes => hold address bytes
  | .read address length => read address length
  | .wait _ => return ()
  | .tell _ => return ()

/-- Work on the bus as work on the registers. -/
def onRegisters {α : Type} (work : Wire α) : Registers α :=
  work.through carryOut

end SplitBoard.TwoWire

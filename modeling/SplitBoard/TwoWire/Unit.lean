import SplitBoard.Dialogue

/-!
# The two-wire unit

The main controller reaches the bus through a unit with four registers: the bit rate, the status,
the data byte and the control register. Setting bits of the control register starts a step; the unit
raises its flag when the step is over and shows in the status how it went.

`Unit.partner` is a simulation of the unit that follows a script. Every step takes one event from
it, which can replace the status and the data byte and let the flag come late or not at all. **The
unit keeps its place in the transaction whatever the script says**, so a script can make it lie but
not lose count.
-/

namespace SplitBoard.TwoWire

/-- The registers of the unit. -/
inductive Register where
  | bitRate
  | status
  | data
  | control
  deriving DecidableEq, Repr

/-- What can be done to a register. -/
inductive Access where
  | write (register : Register) (value : UInt8)
  | read (register : Register)
  deriving DecidableEq, Repr

/-- Reading gives a byte. -/
def Access.Reply : Access → Type
  | write .. => Unit
  | read _ => UInt8

/-- The registers as something to talk to. -/
def vocabulary : Vocabulary := ⟨Access, Access.Reply⟩

/-- Work on the registers that ends with a result. -/
abbrev Registers (α : Type) : Type := Dialogue vocabulary α

/-- Write a register. -/
def writeRegister (register : Register) (value : UInt8) : Registers Unit :=
  Dialogue.say (V := vocabulary) (.write register value)

/-- Read a register. -/
def readRegister (register : Register) : Registers UInt8 :=
  Dialogue.say (V := vocabulary) (.read register)

/-! ## Bits and statuses -/

namespace Control

/-- Shows, when read, that the step is over; written, it starts the next one. -/
def flag : UInt8 := 0x80
/-- Acknowledge the byte to be received. -/
def acknowledge : UInt8 := 0x40
/-- Send a start. -/
def start : UInt8 := 0x20
/-- Send a stop. -/
def stop : UInt8 := 0x10
/-- Keep the unit running. -/
def enable : UInt8 := 0x04

end Control

namespace Status

/-- A start was sent. -/
def started : UInt8 := 0x08
/-- A start was sent on a bus that was not released. -/
def restarted : UInt8 := 0x10
/-- A device took the address to be written to. -/
def writeAcknowledged : UInt8 := 0x18
/-- No device took the address to be written to. -/
def writeRefused : UInt8 := 0x20
/-- The device took a byte. -/
def byteAcknowledged : UInt8 := 0x28
/-- The device did not take a byte. -/
def byteRefused : UInt8 := 0x30
/-- A device took the address to be read from. -/
def readAcknowledged : UInt8 := 0x40
/-- A byte came and was acknowledged. -/
def receivedAcknowledged : UInt8 := 0x50
/-- A byte came and was not acknowledged. -/
def receivedRefused : UInt8 := 0x58
/-- The bits of the status register that hold the status. -/
def mask : UInt8 := 0xF8

end Status

/-! ## A scripted unit -/

/-- What a script says about one step. -/
structure Event where
  /-- The status to show in place of the usual one. -/
  status : Option UInt8 := none
  /-- How often the flag still reads clear. -/
  busy : Nat := 0
  /-- The data byte to show in place of the usual one. -/
  data : Option UInt8 := none
  deriving DecidableEq, Repr

/-- Where a transaction stands. -/
inductive Phase where
  | idle
  | started
  | sending
  | receiving
  deriving DecidableEq, Repr

/-- The scripted unit. -/
structure ScriptedUnit where
  phase : Phase := .idle
  data : UInt8 := 0
  status : UInt8 := 0
  /-- Whether the flag will show, once it has read clear for as long as it is busy. -/
  flag : Bool := false
  busy : Nat := 0
  script : List Event := []
  deriving DecidableEq

namespace ScriptedUnit

/-- The next event of the script; there is always one more in which nothing special happens. -/
def nextEvent (u : ScriptedUnit) : Event × ScriptedUnit :=
  match u.script with
  | [] => ({}, u)
  | event :: rest => (event, { u with script := rest })

/-- The usual outcome of a step: status, data byte and phase. -/
def usual (u : ScriptedUnit) (control : UInt8) : UInt8 × UInt8 × Phase :=
  if control &&& Control.start ≠ 0 then
    (if u.phase = .idle then Status.started else Status.restarted, u.data, .started)
  else
    match u.phase with
    | .started =>
      if u.data &&& 1 = 0 then (Status.writeAcknowledged, u.data, .sending)
      else (Status.readAcknowledged, u.data, .receiving)
    | .sending => (Status.byteAcknowledged, u.data, .sending)
    | .receiving =>
      (if control &&& Control.acknowledge ≠ 0 then Status.receivedAcknowledged
        else Status.receivedRefused, 0xFF, .receiving)
    | .idle => (u.status, u.data, .idle)

/-- The control register is written. Without the flag bit nothing happens. A stop is no step; it
releases the bus at once. -/
def control (u : ScriptedUnit) (value : UInt8) : ScriptedUnit :=
  if value &&& Control.flag = 0 then u
  else if value &&& Control.stop ≠ 0 then { u with phase := .idle, flag := false, busy := 0 }
  else
    let (event, u) := u.nextEvent
    let (status, data, phase) := u.usual value
    { u with
      phase
      status := event.status.getD status
      data := event.data.getD data
      flag := true
      busy := event.busy }

/-- Read the control register, of which only the flag shows. -/
def readControl (u : ScriptedUnit) : UInt8 × ScriptedUnit :=
  if u.flag then
    if u.busy = 0 then (Control.flag, u) else (0, { u with busy := u.busy - 1 })
  else (0, u)

/-- A unit that follows its script. -/
def partner : Partner vocabulary ScriptedUnit
  | .write .data value, u => ((), { u with data := value })
  | .write .control value, u => ((), u.control value)
  | .write .bitRate _, u => ((), u)
  | .write .status _, u => ((), u)
  | .read .data, u => (u.data, u)
  | .read .status, u => (u.status, u)
  | .read .control, u => u.readControl
  | .read .bitRate, u => ((0 : UInt8), u)

end ScriptedUnit
end SplitBoard.TwoWire

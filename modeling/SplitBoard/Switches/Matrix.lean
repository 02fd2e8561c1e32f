import SplitBoard.Dialogue
import SplitBoard.Key.State

/-!
# The main controller's own switches

Besides the halves there is a matrix of 6 by 7 switches wired to pins of the main controller. A row
is sampled by driving its pin low, while all others are high, and reading the column pins, which
pull themselves high unless a closed switch connects them to the driven row.

The pins come in groups, and every group has a register for the directions of its pins, one for
their outputs and one for their inputs.

`Panel` is the matrix itself: the switches that are closed and the registers, with inputs that
follow from both.
-/

namespace SplitBoard.Switches

/-- The groups that have pins of the matrix. -/
inductive PinGroup where
  | b
  | d
  | f
  deriving DecidableEq, Repr

/-- A register that can be written. -/
inductive Register where
  /-- A one makes a pin an output. -/
  | direction (group : PinGroup)
  /-- The level of an output; a one pulls an input high. -/
  | output (group : PinGroup)
  deriving DecidableEq, Repr

/-- What can be done to the pins. -/
inductive Access where
  | write (register : Register) (value : UInt8)
  | read (register : Register)
  /-- Read the levels of a group's pins. -/
  | sample (group : PinGroup)
  deriving DecidableEq, Repr

/-- Reading gives a byte. -/
def Access.Reply : Access → Type
  | write .. => Unit
  | read _ => UInt8
  | sample _ => UInt8

/-- The pins as something to talk to. -/
def vocabulary : Vocabulary := ⟨Access, Access.Reply⟩

/-- Work on the pins that ends with a result. -/
abbrev Pins (α : Type) : Type := Dialogue vocabulary α

/-- Change a register. -/
def modifyRegister (register : Register) (f : UInt8 → UInt8) : Pins Unit := do
  let value ← Dialogue.say (V := vocabulary) (.read register)
  Dialogue.say (V := vocabulary) (.write register (f value))

/-- Read the levels of a group's pins. -/
def sampleGroup (group : PinGroup) : Pins UInt8 :=
  Dialogue.say (V := vocabulary) (.sample group)

/-- Set bits of a register. -/
def setBits (register : Register) (bits : UInt8) : Pins Unit :=
  modifyRegister register (· ||| bits)

/-- Clear bits of a register. -/
def clearBits (register : Register) (bits : UInt8) : Pins Unit :=
  modifyRegister register (· &&& ~~~bits)

/-! ## The matrix -/

/-- Rows of the matrix, one for each driven pin. -/
abbrev rows : Nat := 6

/-- Columns of the matrix, one for each pin that is read. -/
abbrev cols : Nat := 7

/-- The width of a row as it is sampled; the bit above the last column is never set. -/
abbrev sampleBits : Nat := 8

/-- The pins of group B that are driven, the first four rows. -/
def drivenB : UInt8 := 0x0F

/-- The pins of group D that are driven, the last two rows. -/
def drivenD : UInt8 := 0x0C

/-- The pins of group F that are read, the first six columns. -/
def readF : UInt8 := 0xF3

/-- The pin of group B that is read, the last column. -/
def readB : UInt8 := 0x40

/-- Make the driven pins outputs, all of them high, and the others inputs that pull themselves
high. -/
def setUp : Pins Unit := do
  setBits (.direction .b) drivenB
  setBits (.output .b) drivenB
  setBits (.direction .d) drivenD
  setBits (.output .d) drivenD
  clearBits (.direction .f) readF
  setBits (.output .f) readF
  clearBits (.direction .b) readB
  setBits (.output .b) readB

/-- Drive no row. -/
def releaseRows : Pins Unit := do
  setBits (.output .b) drivenB
  setBits (.output .d) drivenD

/-- Where the pin of a row is. -/
def rowPin (row : Fin rows) : PinGroup × UInt8 :=
  if row.val < 4 then (.b, 1 <<< UInt8.ofNat row.val)
  else (.d, 1 <<< UInt8.ofNat (row.val - 2))

/-- Drive one row and no other. -/
def driveRow (row : Fin rows) : Pins Unit := do
  releaseRows
  let (group, pin) := rowPin row
  clearBits (.output group) pin

/-- The columns, from the levels of the pins: the six pins of group F close ranks, and the pin of
group B is already in its place. A low pin is a closed switch. -/
def columnsOfLevels (levelsF levelsB : UInt8) : UInt8 :=
  let lowest : UInt8 := levelsF &&& 0x03
  let middle : UInt8 := (levelsF >>> 2) &&& 0x3C
  ~~~(lowest ||| middle ||| (levelsB &&& readB)) &&& 0x7F

/-- The closed switches of the driven row. -/
def readColumns : Pins UInt8 := do
  let levelsF ← sampleGroup .f
  let levelsB ← sampleGroup .b
  return columnsOfLevels levelsF levelsB

/-- Sample the given rows, in order. -/
def sampleRows : List (Fin rows) → Pins (List UInt8)
  | [] => return []
  | row :: rest => do
    driveRow row
    let columns ← readColumns
    return columns :: (← sampleRows rest)

/-- Sample every row, and then drive none. -/
def scan : Pins (KeyRows rows sampleBits) := do
  let sampled ← sampleRows (List.finRange rows)
  releaseRows
  return Vector.ofFn fun row => (sampled.getD row.val 0).toBitVec

/-! ## The panel -/

/-- The switches and the registers. -/
structure Panel where
  /-- The closed switches of each row. -/
  closed : KeyRows rows sampleBits
  /-- Levels of the pins of group B that are no column. -/
  otherB : UInt8
  /-- Levels of the pins of group F that are no column. -/
  otherF : UInt8
  directionB : UInt8
  outputB : UInt8
  directionD : UInt8
  outputD : UInt8
  directionF : UInt8
  outputF : UInt8
  deriving DecidableEq

namespace Panel

/-- The value of a register. -/
def register (panel : Panel) : Register → UInt8
  | .direction .b => panel.directionB
  | .output .b => panel.outputB
  | .direction .d => panel.directionD
  | .output .d => panel.outputD
  | .direction .f => panel.directionF
  | .output .f => panel.outputF

/-- The panel with a register changed. -/
def setRegister (panel : Panel) (register : Register) (value : UInt8) : Panel :=
  match register with
  | .direction .b => { panel with directionB := value }
  | .output .b => { panel with outputB := value }
  | .direction .d => { panel with directionD := value }
  | .output .d => { panel with outputD := value }
  | .direction .f => { panel with directionF := value }
  | .output .f => { panel with outputF := value }

/-- Whether a row is driven low: its pin is an output and its level is zero. -/
def isDriven (panel : Panel) (row : Fin rows) : Bool :=
  let (group, pin) := rowPin row
  panel.register (.direction group) &&& pin ≠ 0 ∧ panel.register (.output group) &&& pin = 0

/-- Whether a column is pulled low: one of its switches is closed and lies in a driven row. -/
def isLow (panel : Panel) (col : Nat) : Bool :=
  (List.finRange rows).any fun row => panel.isDriven row && panel.closed[row].getLsbD col

/-- Bit `pin` with the level of a column. -/
def columnLevel (panel : Panel) (col : Nat) (pin : UInt8) : UInt8 :=
  if panel.isLow col then 0 else pin

/-- The levels of a group's pins. -/
def levels (panel : Panel) : PinGroup → UInt8
  | .b => (panel.otherB &&& ~~~readB) ||| panel.columnLevel 6 0x40
  | .f =>
    (panel.otherF &&& ~~~readF) ||| panel.columnLevel 0 0x01 ||| panel.columnLevel 1 0x02 |||
      panel.columnLevel 2 0x10 ||| panel.columnLevel 3 0x20 ||| panel.columnLevel 4 0x40 |||
      panel.columnLevel 5 0x80
  | .d => panel.outputD

/-- The panel as what the pins lead to. -/
def partner : Partner vocabulary Panel
  | .write register value, panel => ((), panel.setRegister register value)
  | .read register, panel => (panel.register register, panel)
  | .sample group, panel => (panel.levels group, panel)

end Panel
end SplitBoard.Switches

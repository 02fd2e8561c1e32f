import SplitBoard.Firmware.Update
import SplitBoard.Half.Streaming

/-!
# The board

Both halves on one bus, and the work that the main controller does in every cycle: poll each half
for its keys, notice halves that come and go, and send the banks of colors that changed.

Keys are addressed in the main matrix, of which the left half has columns 0 to 7 in order and the
right half columns 15 down to 8. A half built for the ANSI layout has a few switches wired to other
places of its matrix; `ansiRemap` puts them where they belong.

**A half that appears makes both halves start over**: layout and scan interval are settled anew and
every color is sent again.
-/

namespace SplitBoard

/-- Columns of the main matrix. -/
abbrev mainCols : Nat := 2 * halfCols

/-- One side of the board: its half, whether the half was there when last polled, and whether it is
left alone for the time being. -/
structure Seat where
  half : Half
  online : Bool := false
  suspended : Bool := false

/-- Both sides, and what holds for the board as a whole. -/
structure Board where
  left : Seat
  right : Seat
  layout : KeyLayout
  keyscanInterval : UInt8

/-- A half came or went. -/
inductive BoardEvent where
  | connected (side : Side)
  | disconnected (side : Side)
  deriving DecidableEq, Repr

/-- Whether a half came. -/
def BoardEvent.isArrival : BoardEvent → Bool
  | connected _ => true
  | disconnected _ => false

/-- What one cycle of polling found. -/
structure ScanReport where
  /-- At most one event for each side, the left one first. -/
  events : List BoardEvent
  /-- Whether there are key changes that have not been acknowledged. -/
  keysChanged : Bool
  deriving DecidableEq, Repr

/-- Put the switches of an ANSI half where they belong. On the left two keys of one row change
places, on the right two keys of one column. -/
def ansiRemap (side : Side) (rows : KeyRows halfRows halfCols) : KeyRows halfRows halfCols :=
  match side with
  | .left =>
    let row := rows[3]
    rows.set 3 ((row &&& ~~~3#8) ||| ((row &&& 1#8) <<< 1) ||| ((row &&& 2#8) >>> 1))
  | .right =>
    let upper := rows[1]
    let lower := rows[2]
    (rows.set 1 ((upper &&& ~~~1#8) ||| (lower &&& 1#8))).set 2
      ((lower &&& ~~~1#8) ||| (upper &&& 1#8))

/-- Put the keys of a half where they belong, if they were just read. -/
def Half.placeKeys {α : Type} (half : Half) (side : Side) (layout : KeyLayout)
    (result : Except LinkError α) : Half :=
  match result, layout with
  | .ok _, .ansi => half.mapKeys fun keys => keys.update (ansiRemap side keys.current)
  | _, _ => half

/-- The column of the main matrix that a column of a half is. -/
def mainCol (side : Side) (col : Fin halfCols) : Fin mainCols :=
  match side with
  | .left => ⟨col, Nat.lt_of_lt_of_le col.isLt (by decide)⟩
  | .right => ⟨mainCols - 1 - col, Nat.sub_lt_of_lt (by decide)⟩

namespace Board

/-- Two halves that have not been seen yet. -/
def new (profile : Profile) : Board where
  left := { half := .new Side.left.select profile }
  right := { half := .new Side.right.select profile }
  layout := .iso
  keyscanInterval := profile.keyscanInterval

/-- One side of the board. -/
def seat (board : Board) : Side → Seat
  | .left => board.left
  | .right => board.right

/-- Change one side of the board. -/
def setSeat (board : Board) (side : Side) (seat : Seat) : Board :=
  match side with
  | .left => { board with left := seat }
  | .right => { board with right := seat }

/-- The half on one side. -/
def half (board : Board) (side : Side) : Half :=
  (board.seat side).half

/-- Change the half on one side. -/
def mapHalf (board : Board) (side : Side) (f : Half → Half) : Board :=
  let seat := board.seat side
  board.setSeat side { seat with half := f seat.half }

/-- Change the halves on both sides. -/
def mapHalves (board : Board) (f : Half → Half) : Board :=
  (board.mapHalf .left f).mapHalf .right f

/-- The profile of the halves. -/
def profile (board : Board) : Profile :=
  board.left.half.profile

/-! ## Keys -/

/-- Key changes that have not been acknowledged, by their places in the main matrix. -/
def transitions (board : Board) : List (KeyTransition halfRows mainCols) :=
  Side.both.flatMap fun side =>
    (board.half side).keys.transitions.map fun t => ⟨t.row, mainCol side t.col, t.pressed⟩

/-- The key changes have been seen. -/
def acknowledge (board : Board) : Board :=
  board.mapHalves fun half => half.mapKeys Keys.acknowledge

/-- Whether the key at a place of the main matrix is pressed. -/
def isPressed (board : Board) (row col : Nat) : Bool :=
  if halfRows ≤ row ∨ mainCols ≤ col then false
  else if col < halfCols then (board.half .left).keys.isPressed row col
  else (board.half .right).keys.isPressed row (mainCols - 1 - col)

/-- Number of pressed keys. -/
def pressedCount (board : Board) : Nat :=
  (board.half .left).keys.current.pressedCount + (board.half .right).keys.current.pressedCount

/-- Whether there are key changes that have not been acknowledged. -/
def hasKeyChanges (board : Board) : Bool :=
  (board.half .left).keys.hasChanges || (board.half .right).keys.hasChanges

/-! ## Colors -/

/-- Give one LED a color. An ANSI board lacks one LED of the left half, which stays dark. -/
def setLed (board : Board) (side : Side) (index : Nat) (color : Color) : Board :=
  if side = .left ∧ index = board.profile.isoOnlyLed.toNat ∧ board.layout = .ansi then board
  else board.mapHalf side fun half => half.mapLeds (·.set index color)

/-- The color of one LED. -/
def led? (board : Board) (side : Side) (index : Nat) : Option Color :=
  (board.half side).leds.get? index

/-- Give all LEDs of one side the same color. -/
def fillSide (board : Board) (side : Side) (color : Color) : Board :=
  (List.range (board.half side).leds.count).foldl
    (fun board index => board.setLed side index color) board

/-- Give all LEDs the same color. -/
def fill (board : Board) (color : Color) : Board :=
  (board.fillSide .left color).fillSide .right color

/-- Every bank has to be sent again. The LED that only ISO boards have is blanked, because the driver
would go on showing its last color. -/
def resendAll (board : Board) : Board :=
  let blanked := board.mapHalf .left fun half =>
    half.mapLeds (·.set board.profile.isoOnlyLed.toNat .black)
  blanked.mapHalves fun half => half.mapLeds (·.markAllDirty)

/-- How bright the LEDs shine. -/
def brightness (board : Board) : UInt8 :=
  (board.half .left).brightness

/-- Set how bright the LEDs shine. Every bank looks different afterwards. -/
def setBrightness (board : Board) (brightness : UInt8) : Board :=
  board.mapHalves fun half => (half.setBrightness brightness).mapLeds (·.markAllDirty)

/-! ## Suspension -/

/-- Leave a half alone. -/
def suspend (board : Board) (side : Side) : Board :=
  board.setSeat side { board.seat side with suspended := true }

/-- Take a half up again. It is probed, and started over once it answers. -/
def resume (board : Board) (side : Side) : Board :=
  board.setSeat side
    { half := (board.half side).markUnavailable, online := false, suspended := false }

/-! ## Work on the bus -/

/-- Work on one half, unless it is suspended. -/
def onActive {α : Type} (side : Side) (op : HalfOp α) :
    StateT Board Wire (Option (Except LinkError α)) := do
  let board ← get
  if (board.seat side).suspended then return none
  let (result, half) ← Half.perform op (board.half side)
  set (board.mapHalf side fun _ => half)
  return some result

/-- Work on both halves, unless they are suspended, whatever comes of the first. The last error
counts. -/
def onBoth (op : HalfOp Unit) : StateT Board Wire (Except LinkError Unit) := do
  let left ← onActive .left op
  let right ← onActive .right op
  match left, right with
  | _, some (.error error) => return .error error
  | some (.error error), _ => return .error error
  | _, _ => return .ok ()

/-- Poll one half, unless it is suspended, and notice whether it came or went. A half that went has
its keys released. -/
def pollSide (side : Side) : StateT Board Wire (Option BoardEvent) := do
  let board ← get
  let seat := board.seat side
  if seat.suspended then return none
  let (result, half) ← Half.perform Half.readKeys seat.half
  let half := half.placeKeys side board.layout result
  if half.online ∧ ¬seat.online then
    Wire.tell (.connected side)
    set (board.setSeat side { seat with half, online := true })
    return some (.connected side)
  else if ¬half.online ∧ seat.online then
    Wire.tell (.disconnected side)
    set (board.setSeat side { seat with half := half.mapKeys Keys.clear, online := false })
    return some (.disconnected side)
  else
    set (board.setSeat side { seat with half })
    return none

/-- The layout of the board: ANSI if one of the halves says so. -/
def askLayout : StateT Board Wire KeyLayout := do
  let left ← onActive .left Half.readLayout
  let right ← onActive .right Half.readLayout
  match left, right with
  | some (.ok .ansi), _ => return .ansi
  | _, some (.ok .ansi) => return .ansi
  | _, _ => return .iso

/-- Bring both halves to a known state after one of them appeared. -/
def startOver : StateT Board Wire Unit := do
  let before := (← get).layout
  let layout ← askLayout
  unless layout = before do Wire.tell (.layoutChanged layout)
  modify fun board => { board with layout }
  let _ ← onBoth (Half.setKeyscanInterval (← get).keyscanInterval)
  modify resendAll

/-- Poll both halves. -/
def scanCycle : StateT Board Wire ScanReport := do
  let left ← pollSide .left
  let right ← pollSide .right
  let events := left.toList ++ right.toList
  if events.any BoardEvent.isArrival then startOver
  return { events, keysChanged := (← get).hasKeyChanges }

/-- Send at most one dirty bank to each half. What does not arrive is tried again later. -/
def syncLeds : StateT Board Wire Unit := do
  let _ ← onActive .left Half.sendNextDirtyBank
  let _ ← onActive .right Half.sendNextDirtyBank
  return ()

/-- Set the scan interval of both halves. A half that is away gets it when it comes back. -/
def setKeyscanInterval (interval : UInt8) : StateT Board Wire (Except LinkError Unit) := do
  modify fun board => { board with keyscanInterval := interval }
  onBoth (Half.setKeyscanInterval interval)

/-- Set the LED driver's current of both halves. -/
def setSledCurrent (current : UInt8) : StateT Board Wire (Except LinkError Unit) :=
  onBoth (Half.setSledCurrent current)

/-- The firmware versions of the halves that answer, the left one first. -/
def versions : StateT Board Wire (Option UInt8 × Option UInt8) := do
  let left ← onActive .left Half.readVersion
  let right ← onActive .right Half.readVersion
  return (left.bind Except.toOption, right.bind Except.toOption)

/-- Update a half that is already in its bootloader. It is left alone meanwhile, and started over
once it answers again. -/
def flash (side : Side) (image : Firmware.Image) :
    StateT Board Wire (Except Firmware.Failure Firmware.Report) := do
  Wire.tell (.flashing side)
  modify fun board => (board.suspend side).mapHalf side fun half => half.mapKeys Keys.clear
  let (result, session) ← (Firmware.update image).run { half := (← get).half side }
  modify fun board => (board.mapHalf side fun _ => session.half).resume side
  return result

end Board
end SplitBoard

import SplitBoard.Half.Link

/-!
# Streaming colors to a half

All colors of a half do not fit one transaction, so they go out bank by bank. A bank that arrived is
clean; one that did not stays dirty and is tried again when its turn comes round.
-/

namespace SplitBoard.Half

/-- Send one bank. -/
def sendBank (bank : Nat) : HalfOp Unit := do
  tell fun half => .sendingBank bank half.address
  send ((← get).bankFrame bank)
  modify fun half => half.mapLeds (·.clearDirty bank)

/-- Send the bank whose turn it is. The turn passes on even if it does not arrive. -/
def sendNextBank : HalfOp Unit := do
  let half ← get
  let (bank, leds) := half.leds.takeNextBank
  set { half with leds }
  sendBank bank

/-- Send the first dirty bank, beginning with the one whose turn it is. Answers whether there was
one. -/
def sendNextDirtyBank : HalfOp Bool := do
  match (← get).leds.nextDirtyBank? with
  | none => return false
  | some bank =>
    modify fun half => half.mapLeds (·.setNextBank bank)
    sendNextBank
    return true

/-- Send those of the given banks that are dirty, in order, up to the first that does not arrive.
Gives how many were sent. -/
def sendDirtyAmong : List Nat → HalfOp Nat
  | [] => return 0
  | bank :: rest => do
    if (← get).leds.isDirty bank then
      sendBank bank
      return (← sendDirtyAmong rest) + 1
    else
      sendDirtyAmong rest

/-- Send every dirty bank, by ascending number. -/
def syncChanged : HalfOp Nat := do
  sendDirtyAmong (List.range (← get).leds.banks)

end SplitBoard.Half

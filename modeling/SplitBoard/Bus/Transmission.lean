/-!
# How a write ends

A write on the two-wire bus ends in one of five ways. Each has a number, which a profile uses to say
how its bootloader ends an accepted frame.
-/

namespace SplitBoard

/-- The end of a write transaction. -/
inductive Transmission where
  /-- Every byte was acknowledged. -/
  | complete
  /-- The data does not fit the transmitter. -/
  | tooLong
  /-- Nobody answered the address. -/
  | addressNack
  /-- The device answered its address, but not one of the data bytes. -/
  | dataNack
  /-- The bus was lost, or hung. -/
  | fault
  deriving DecidableEq, Repr

namespace Transmission

/-- The number of a status. -/
def code : Transmission → UInt8
  | complete => 0
  | tooLong => 1
  | addressNack => 2
  | dataNack => 3
  | fault => 4

/-- The status with this number. -/
def ofCode? (n : Nat) : Option Transmission :=
  match n with
  | 0 => some complete
  | 1 => some tooLong
  | 2 => some addressNack
  | 3 => some dataNack
  | 4 => some fault
  | _ => none

/-- Whether everything arrived. -/
def isComplete (status : Transmission) : Bool :=
  status = complete

theorem ofCode?_code (status : Transmission) : ofCode? status.code.toNat = some status := by
  cases status <;> rfl

end Transmission
end SplitBoard

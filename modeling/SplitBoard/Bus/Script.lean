import SplitBoard.Bus.Wire

/-!
# Scripted buses

A bus whose behaviour is written down beforehand: one queue of statuses, taken by writes, and one of
replies, taken by reads, whatever the address. A write with nothing left to take completes; a read
with nothing left to take delivers nothing.

`Rehearsal` is such a bus that also keeps its own record of transactions and of the time waited.
-/

namespace SplitBoard.Bus

/-- What a scripted bus will answer. -/
structure Script where
  statuses : List Transmission := []
  replies : List (List UInt8) := []

namespace Script

/-- Write more answers at the end of the script. -/
def extend (script : Script) (statuses : List Transmission)
    (replies : List (List UInt8)) : Script :=
  ⟨script.statuses ++ statuses, script.replies ++ replies⟩

/-- The status for the next write. -/
def nextStatus : Script → Transmission × Script
  | ⟨[], replies⟩ => (.complete, ⟨[], replies⟩)
  | ⟨status :: statuses, replies⟩ => (status, ⟨statuses, replies⟩)

/-- The bytes for the next read, cut off at its length. -/
def nextReply (length : Nat) : Script → Delivery length × Script
  | ⟨statuses, []⟩ => (.ofList length [], ⟨statuses, []⟩)
  | ⟨statuses, reply :: replies⟩ => (.ofList length reply, ⟨statuses, replies⟩)

/-- A bus that plays the script. -/
def partner : Partner vocabulary Script
  | .write .., script => script.nextStatus
  | .hold .., script => script.nextStatus
  | .read _ length, script => script.nextReply length
  | .wait _, script => ((), script)
  | .tell _, script => ((), script)

end Script

/-- A transaction that a rehearsal keeps. It does not tell the two kinds of write apart. -/
inductive Transaction where
  | write (address : UInt8) (bytes : List UInt8)
  | read (address : UInt8) (length : Nat)
  deriving DecidableEq, Repr

/-- A scripted bus with a record of its own. -/
structure Rehearsal where
  script : Script := {}
  /-- The transactions, newest first. -/
  past : List Transaction := []
  /-- Nanoseconds waited. -/
  elapsed : UInt64 := 0

namespace Rehearsal

/-- The transactions so far, in order. -/
def record (r : Rehearsal) : List Transaction :=
  r.past.reverse

/-- The bytes of each write so far, in order. -/
def writes (r : Rehearsal) : List (List UInt8) :=
  r.record.filterMap fun
    | .write _ bytes => some bytes
    | .read .. => none

/-- Forget the transactions, but neither the script nor the time. -/
def clear (r : Rehearsal) : Rehearsal :=
  { r with past := [] }

/-- Play the script and keep the record. -/
def partner : Partner vocabulary Rehearsal
  | .write address bytes, r =>
    let (status, script) := r.script.nextStatus
    (status, { r with script, past := .write address bytes :: r.past })
  | .hold address bytes, r =>
    let (status, script) := r.script.nextStatus
    (status, { r with script, past := .write address bytes :: r.past })
  | .read address length, r =>
    let (delivery, script) := r.script.nextReply length
    (delivery, { r with script, past := .read address length :: r.past })
  | .wait nanoseconds, r => ((), { r with elapsed := r.elapsed + .ofNat nanoseconds })
  | .tell _, r => ((), r)

end Rehearsal
end SplitBoard.Bus

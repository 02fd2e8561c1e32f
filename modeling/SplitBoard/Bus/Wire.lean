import SplitBoard.Dialogue
import SplitBoard.Bus.Note

/-!
# The two-wire bus

What the main controller can do on the bus that both halves share: write, write and keep the bus for
a repeated start, read, and wait. Only the controller begins transactions and only one is under way
at a time, so whatever works on the bus is a `Dialogue` with it.

**How the halves behave is nowhere fixed here.** A write may end in any status and a read may
deliver any bytes, as long as they are no more than were asked for, which `Delivery` says in its
type.

Notes travel along with the requests, so that what is told keeps its place among what is done.
-/

namespace SplitBoard

/-- The bytes that a read of `length` bytes delivered. -/
structure Delivery (length : Nat) where
  bytes : List UInt8
  length_le : bytes.length ≤ length

/-- As many bytes as were asked for, or all there are. -/
def Delivery.ofList (length : Nat) (bytes : List UInt8) : Delivery length :=
  ⟨bytes.take length, List.length_take_le length bytes⟩

/-- Whether every byte arrived. -/
def Delivery.isFull {length : Nat} (delivery : Delivery length) : Bool :=
  delivery.bytes.length = length

namespace Bus

/-- What can be asked of the bus. -/
inductive Request where
  /-- Write bytes to an address and release the bus. -/
  | write (address : UInt8) (bytes : List UInt8)
  /-- Write bytes to an address and keep the bus. -/
  | hold (address : UInt8) (bytes : List UInt8)
  /-- Read so many bytes from an address. -/
  | read (address : UInt8) (length : Nat)
  /-- Wait so many nanoseconds. -/
  | wait (nanoseconds : Nat)
  /-- Tell something; nothing happens on the bus. -/
  | tell (note : Note)
  deriving DecidableEq, Repr

/-- The answers to a request. -/
abbrev Request.Reply : Request → Type
  | write .. => Transmission
  | hold .. => Transmission
  | read _ length => Delivery length
  | wait _ => Unit
  | tell _ => Unit

/-- The address that a request occupies the bus with, if it does. -/
def Request.address? : Request → Option UInt8
  | write address _ => some address
  | hold address _ => some address
  | read address _ => some address
  | wait _ => none
  | tell _ => none

/-- The requests of a bus and their answers. -/
abbrev vocabulary : Vocabulary := ⟨Request, Request.Reply⟩

/-- What was said on a bus. -/
abbrev Talk : Type := List (Exchange vocabulary)

end Bus

/-- Work on the bus that ends with a result. -/
abbrev Wire (α : Type) : Type := Dialogue Bus.vocabulary α

namespace Wire

/-- Write and release the bus. -/
def write (address : UInt8) (bytes : List UInt8) : Wire Transmission :=
  Dialogue.say (V := Bus.vocabulary) (.write address bytes)

/-- Write and keep the bus for a repeated start. -/
def hold (address : UInt8) (bytes : List UInt8) : Wire Transmission :=
  Dialogue.say (V := Bus.vocabulary) (.hold address bytes)

/-- Write no bytes, to see whether anybody answers the address. -/
def probe (address : UInt8) : Wire Transmission :=
  write address []

/-- Ask for bytes. -/
def read (address : UInt8) (length : Nat) : Wire (Delivery length) :=
  Dialogue.say (V := Bus.vocabulary) (.read address length)

/-- Wait so many nanoseconds. -/
def wait (nanoseconds : Nat) : Wire Unit :=
  Dialogue.say (V := Bus.vocabulary) (.wait nanoseconds)

/-- Wait so many microseconds. -/
def waitMicroseconds (n : Nat) : Wire Unit :=
  wait (n * 1000)

/-- Wait so many milliseconds. -/
def waitMilliseconds (n : Nat) : Wire Unit :=
  wait (n * 1000000)

/-- Tell something. -/
def tell (note : Note) : Wire Unit :=
  Dialogue.say (V := Bus.vocabulary) (.tell note)

section Bind
variable {α : Type} (address : UInt8) (bytes : List UInt8)

@[simp] theorem write_bind (next : Transmission → Wire α) :
    (write address bytes).bind next = .ask (.write address bytes) next := rfl

@[simp] theorem hold_bind (next : Transmission → Wire α) :
    (hold address bytes).bind next = .ask (.hold address bytes) next := rfl

@[simp] theorem probe_bind (next : Transmission → Wire α) :
    (probe address).bind next = .ask (.write address []) next := rfl

@[simp] theorem read_bind {length : Nat} (next : Delivery length → Wire α) :
    (read address length).bind next = .ask (.read address length) next := rfl

@[simp] theorem waitMicroseconds_bind (n : Nat) (next : Unit → Wire α) :
    (waitMicroseconds n).bind next = .ask (.wait (n * 1000)) next := rfl

@[simp] theorem waitMilliseconds_bind (n : Nat) (next : Unit → Wire α) :
    (waitMilliseconds n).bind next = .ask (.wait (n * 1000000)) next := rfl

@[simp] theorem tell_bind (note : Note) (next : Unit → Wire α) :
    (tell note).bind next = .ask (.tell note) next := rfl

end Bind
end Wire
end SplitBoard

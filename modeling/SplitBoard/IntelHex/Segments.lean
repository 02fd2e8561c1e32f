import SplitBoard.IntelHex.Record
import SplitBoard.Memory

/-!
# Intel HEX files

A file is read line by line up to the record that ends it. Its data form segments, runs of bytes
without a gap: data that begin where the segment read last ends go on with it, and any other data
begin a segment of their own, so segments may come in any order and may overlap. Flattening them
gives one image from the lowest to the highest address, in which **the data read last win** and gaps
hold a blank byte.

Addresses have 32 bits. Data that reach their end leave no address for what follows, and asking for
it is an error of its own.
-/

namespace SplitBoard.IntelHex

/-- Bytes without a gap. -/
structure Segment where
  address : Nat
  data : Array UInt8
  deriving DecidableEq

/-- Number of addresses. -/
def addressLimit : Nat := 0x100000000

/-- The address behind the last byte, if there is one. -/
def Segment.stop? (segment : Segment) : Option Nat :=
  let stop := segment.address + segment.data.size
  if stop < addressLimit then some stop else none

/-- Why a file gives no image. -/
inductive Fault where
  /-- A line is wrong. -/
  | line (number : Nat) (fault : LineFault)
  /-- There is no address behind a segment. -/
  | addressOverflow
  /-- There are no data. -/
  | noData
  deriving DecidableEq

/-- The fault and its causes, outermost first. -/
def Fault.chain : Fault → List String
  | line number fault => fault.chain number
  | addressOverflow => ["address overflow"]
  | noData => ["no data records in HEX file"]

/-- What has been read of a file: the base in force, and the segments, newest first. -/
structure Reading where
  base : Nat := 0
  segments : List Segment := []

namespace Reading

/-- Data at an address behind the base. -/
def place (reading : Reading) (address : UInt16) (bytes : List UInt8) : Except Fault Reading :=
  let full := reading.base + address.toNat
  match reading.segments with
  | [] => .ok { reading with segments := [⟨full, bytes.toArray⟩] }
  | last :: earlier =>
    match last.stop? with
    | none => .error .addressOverflow
    | some stop =>
      if full = stop then
        .ok { reading with segments := ⟨last.address, last.data ++ bytes⟩ :: earlier }
      else
        .ok { reading with segments := ⟨full, bytes.toArray⟩ :: last :: earlier }

/-- One record that is not the last. -/
def take (reading : Reading) : Record → Except Fault Reading
  | .data address bytes => reading.place address bytes
  | .segmentBase paragraph => .ok { reading with base := paragraph.toNat * 0x10 }
  | .linearBase page => .ok { reading with base := page.toNat * 0x10000 }
  | .startAddress => .ok reading
  | .endOfFile => .ok reading

/-- The lines from a given number on, up to the record that ends the file. Blank lines are passed
over. -/
def takeLines (reading : Reading) (number : Nat) : List (List Char) → Except Fault Reading
  | [] => .ok reading
  | line :: rest =>
    match Text.trim line with
    | [] => reading.takeLines (number + 1) rest
    | text =>
      match Record.parse text with
      | .error fault => .error (.line number fault)
      | .ok .endOfFile => .ok reading
      | .ok record => do
        let reading ← reading.take record
        reading.takeLines (number + 1) rest

end Reading

/-- The segments of a file, in the order in which they began. -/
def parse (text : List Char) : Except Fault (List Segment) := do
  let reading ← Reading.takeLines {} 1 (Text.lines text)
  return reading.segments.reverse

/-- The addresses between which all segments lie. -/
structure Extent where
  base : Nat
  stop : Nat
  deriving DecidableEq

/-- Number of addresses. -/
def Extent.size (extent : Extent) : Nat :=
  extent.stop - extent.base

/-- The lowest address of segments, and the highest one behind them. -/
def extent (segments : List Segment) : Except Fault Extent :=
  match segments with
  | [] => .error .noData
  | first :: rest =>
    match segments.mapM Segment.stop? with
    | none => .error .addressOverflow
    | some stops =>
      let base := rest.foldl (fun low segment => min low segment.address) first.address
      .ok ⟨base, stops.foldl max base⟩

/-- Lay the segments into one run of bytes, in order, over the blank byte. -/
def layOut (segments : List Segment) (extent : Extent) (blank : UInt8) : Array UInt8 :=
  segments.foldl
    (fun data segment => overwrite data (segment.address - extent.base) segment.data.toList)
    (Array.replicate extent.size blank)

/-- One run of bytes that covers all segments. -/
structure Flat where
  base : Nat
  data : Array UInt8
  deriving DecidableEq

/-- The segments as one run of bytes, with the blank byte in the gaps. -/
def flatten (segments : List Segment) (blank : UInt8) : Except Fault Flat := do
  let extent ← extent segments
  return ⟨extent.base, layOut segments extent blank⟩

end SplitBoard.IntelHex

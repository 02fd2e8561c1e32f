import SplitBoard.Led.Frame

/-!
# LED buffers in machine words

What a machine does for the operations on a buffer: it looks up tables, cuts slices, shifts words
and divides. Each of these has its limits, and beyond them the machine stops (`Trap`).

A place in a table is a word of the machine, and there are numbers that no word can hold
(`Words`).
-/

namespace SplitBoard

/-- Why a machine stops in the middle of an operation. -/
inductive Trap where
  /-- A table or a slice does not reach this far. -/
  | range
  /-- A word is shifted by its width or more. -/
  | shift
  /-- A number is divided by zero. -/
  | divisor
  /-- A number does not fit its word. -/
  | overflow
  deriving DecidableEq, Repr

/-- The words of a machine. -/
structure Words where
  /-- The first number that they cannot hold. -/
  limit : Nat
  /-- A number that they cannot hold is cut down to one that they can, and does not stop the
  machine. -/
  wraps : Bool

namespace Machine

variable {α : Type} {size : Nat} {words : Words}

/-- A number in a word. -/
def word (words : Words) (n : Nat) : Except Trap Nat :=
  if n < words.limit then .ok n
  else if words.wraps then .ok (n % words.limit)
  else .error .overflow

/-- An entry of a table. -/
def entry (table : Vector α size) (index : Nat) : Except Trap α :=
  if inside : index < size then .ok table[index] else .error .range

/-- A table with another entry at a place. -/
def store (table : Vector α size) (index : Nat) (item : α) : Except Trap (Vector α size) :=
  if inside : index < size then .ok (table.set index item) else .error .range

/-- The slice up to a place. -/
def upTo (items : List α) (stop : Nat) : Except Trap (List α) :=
  if stop ≤ items.length then .ok (items.take stop) else .error .range

/-- The slice from a place on. -/
def onFrom (items : List α) (start : Nat) : Except Trap (List α) :=
  if start ≤ items.length then .ok (items.drop start) else .error .range

/-- A slice over another one of the same length. -/
def copyOver (old new : List α) : Except Trap (List α) :=
  if old.length = new.length then .ok new else .error .range

def quotient (a b : Nat) : Except Trap Nat :=
  if b = 0 then .error .divisor else .ok (a / b)

def remainder (a b : Nat) : Except Trap Nat :=
  if b = 0 then .error .divisor else .ok (a % b)

/-- The word with a single one, at a place. -/
def bit (width place : Nat) : Except Trap (BitVec width) :=
  if place < width then .ok (BitVec.ofNat width 1 <<< place) else .error .shift

def difference {width : Nat} (a b : BitVec width) : Except Trap (BitVec width) :=
  if b ≤ a then .ok (a - b) else .error .overflow

/-! Within the limits, these are the plain operations. -/

@[simp] theorem ok_bind {β : Type} (a : α) (f : α → Except Trap β) :
    (Except.ok a >>= f) = f a := rfl

@[simp] theorem error_bind {β : Type} (trap : Trap) (f : α → Except Trap β) :
    (Except.error trap >>= f) = .error trap := rfl

@[simp] theorem map_ok {β : Type} (f : α → β) (a : α) :
    (f <$> (Except.ok a : Except Trap α)) = .ok (f a) := rfl

theorem word_ok {n : Nat} (fits : n < words.limit) : word words n = .ok n :=
  if_pos fits

theorem word_overflow {n : Nat} (stops : words.wraps = false) (large : words.limit ≤ n) :
    word words n = .error .overflow := by
  rw [word, if_neg (Nat.not_lt.mpr large), stops]
  rfl

theorem exists_word (wraps : words.wraps = true) (n : Nat) : ∃ m, word words n = .ok m := by
  by_cases fits : n < words.limit
  · exact ⟨n, word_ok fits⟩
  · refine ⟨n % words.limit, ?_⟩
    rw [word, if_neg fits, if_pos wraps]

theorem entry_ok {table : Vector α size} {index : Nat} (inside : index < size) :
    entry table index = .ok table[index] :=
  dif_pos inside

theorem store_ok {table : Vector α size} {index : Nat} (inside : index < size) (item : α) :
    store table index item = .ok (table.setIfInBounds index item) := by
  rw [store, dif_pos inside]
  simp [Vector.set, Vector.setIfInBounds, Array.setIfInBounds, inside]

theorem upTo_ok {items : List α} {stop : Nat} (inside : stop ≤ items.length) :
    upTo items stop = .ok (items.take stop) :=
  if_pos inside

theorem onFrom_ok {items : List α} {start : Nat} (inside : start ≤ items.length) :
    onFrom items start = .ok (items.drop start) :=
  if_pos inside

theorem copyOver_ok {old new : List α} (same : old.length = new.length) :
    copyOver old new = .ok new :=
  if_pos same

theorem quotient_ok {a b : Nat} (positive : 0 < b) : quotient a b = .ok (a / b) :=
  if_neg (Nat.ne_of_gt positive)

theorem remainder_ok {a b : Nat} (positive : 0 < b) : remainder a b = .ok (a % b) :=
  if_neg (Nat.ne_of_gt positive)

theorem bit_ok {width place : Nat} (inside : place < width) :
    bit width place = .ok (BitVec.ofNat width 1 <<< place) :=
  if_pos inside

theorem difference_ok {width : Nat} {a b : BitVec width} (le : b ≤ a) :
    difference a b = .ok (a - b) :=
  if_pos le

end Machine

/-- Slices of three items each, one behind the other; the last one may be shorter. -/
def inThrees {α : Type} : List α → List (List α)
  | [] => []
  | [a] => [[a]]
  | [a, b] => [[a, b]]
  | a :: b :: c :: rest => [a, b, c] :: inThrees rest

/-- What can be asked of a buffer. -/
inductive LedStep where
  | set (index : Nat) (color : Color)
  | fill (color : Color)
  | get (index : Nat)
  | setNextBank (bank : Nat)
  | takeNextBank
  | markAllDirty
  | clearDirty (bank : Nat)
  | isDirty (bank : Nat)
  | nextDirtyBank
  /-- Write the colors of a bank over the beginning of `out`. -/
  | writeBank (bank : Nat) (out : List UInt8)
  /-- Build the frame of a bank over an older one. -/
  | assemble (profile : Profile) (dimming : UInt8) (bank : Nat) (older : FrameBuffer)

/-- What a buffer answers. -/
inductive LedAnswer where
  | done
  | color (color : Option Color)
  | bank (bank : Nat)
  | dirty (dirty : Bool)
  | found (bank : Option Nat)
  /-- How many bytes were written, and all bytes behind it. -/
  | written (count : Nat) (out : List UInt8)
  /-- What is to be sent, and all bytes of the place that it was built in. -/
  | frame (sent all : List UInt8)

namespace LedBuffer

/-- The answer to a step, and the buffer behind it. -/
def perform (leds : LedBuffer) : LedStep → LedAnswer × LedBuffer
  | .set index color => (.done, leds.set index color)
  | .fill color => (.done, leds.fill color)
  | .get index => (.color (leds.get? index), leds)
  | .setNextBank bank => (.done, leds.setNextBank bank)
  | .takeNextBank => (.bank leds.takeNextBank.1, leds.takeNextBank.2)
  | .markAllDirty => (.done, leds.markAllDirty)
  | .clearDirty bank => (.done, leds.clearDirty bank)
  | .isDirty bank => (.dirty (leds.isDirty bank), leds)
  | .nextDirtyBank => (.found leds.nextDirtyBank?, leds)
  | .writeBank bank out => (.written (leds.writeBank bank out).1 (leds.writeBank bank out).2, leds)
  | .assemble profile dimming bank older =>
    let built := leds.assemble profile dimming bank older
    (.frame (built.2.bytes.take (1 + built.1)) built.2.bytes, leds)

/-- The buffer behind some steps. -/
def run (leds : LedBuffer) (steps : List LedStep) : LedBuffer :=
  steps.foldl (fun leds step => (leds.perform step).2) leds

/-! ## On a machine -/

variable (words : Words) (leds : LedBuffer)

/-- The numbers of a layout are bytes. -/
def checkedNew (layout : LedLayout) : Except Trap LedBuffer := do
  let perBank := min (max layout.perBank.toNat 1) maxPerBank
  let places ← Machine.word words (perBank * maxBanks)
  return {
    count := (UInt8.ofNat (min (min layout.count.toNat capacity) places)).toNat
    perBank := (UInt8.ofNat perBank).toNat
    colors := Vector.replicate 72 .black
    nextBank := 0
    dirty := 0 }

def checkedGet (index : Nat) : Except Trap (Option Color) :=
  if index < leds.count then some <$> Machine.entry leds.colors index else return none

def checkedSet (index : Nat) (color : Color) : Except Trap LedBuffer :=
  if leds.count ≤ index then return leds
  else do
    if (← Machine.entry leds.colors index) = color then return leds
    else
      let colors ← Machine.store leds.colors index color
      let bank ← Machine.quotient index leds.perBank
      let mark ← Machine.bit 16 bank
      return { leds with colors, dirty := leds.dirty ||| mark }

def checkedFill (color : Color) : Except Trap LedBuffer :=
  (List.range leds.count).foldlM (fun leds index => leds.checkedSet index color) leds

def checkedTakeNextBank : Except Trap (Nat × LedBuffer) := do
  let next ← Machine.word words (leds.nextBank + 1)
  let turn ← Machine.remainder next (max leds.banks 1)
  return (leds.nextBank, { leds with nextBank := turn })

/-- The marks are computed in a word twice as wide as they are. -/
def checkedMarkAllDirty : Except Trap LedBuffer := do
  let high ← Machine.bit 32 leds.banks
  let marks ← Machine.difference high 1#32
  return { leds with dirty := marks.setWidth 16 }

def checkedIsDirty (bank : Nat) : Except Trap Bool :=
  if bank < leds.banks then do
    let mark ← Machine.bit 16 bank
    return leds.dirty &&& mark ≠ 0
  else return false

/-- Of the banks that are so many turns away, the first that is dirty. -/
def checkedFirstDirty : List Nat → Except Trap (Option Nat)
  | [] => return none
  | turns :: rest => do
    let sum ← Machine.word words (leds.nextBank + turns)
    let bank ← Machine.remainder sum leds.banks
    if ← leds.checkedIsDirty bank then return some bank else checkedFirstDirty rest

def checkedClearDirty (bank : Nat) : Except Trap LedBuffer :=
  if bank < leds.banks then do
    let mark ← Machine.bit 16 bank
    return { leds with dirty := leds.dirty &&& ~~~mark }
  else return leds

/-- Write the colors of a bank, from a place of it on, over slices of three bytes. -/
def checkedWrite (bank place : Nat) : List (List UInt8) → Except Trap (List UInt8)
  | [] => return []
  | slice :: slices => do
    let first ← Machine.word words (bank * leds.perBank)
    let index ← Machine.word words (first + place)
    let channels := ((← leds.checkedGet index).getD .black).channels
    let written ← Machine.copyOver slice (← Machine.upTo channels slice.length)
    return written ++ (← checkedWrite bank (place + 1) slices)

def checkedWriteBank (bank : Nat) (out : List UInt8) : Except Trap (Nat × List UInt8) := do
  let bytes ← Machine.word words (3 * leds.perBank)
  let count := min bytes out.length
  let written ← leds.checkedWrite words bank 0 (inThrees (← Machine.upTo out count))
  return (count, written ++ (← Machine.onFrom out count))

/-- What is to be sent, and all bytes of the place that it was built in. -/
def checkedAssemble (profile : Profile) (dimming : UInt8) (bank : Nat) (older : List UInt8) :
    Except Trap (List UInt8 × List UInt8) := do
  let (count, written) ← leds.checkedWriteBank words bank (← Machine.onFrom older 1)
  let encoded := encodeChannels profile dimming (← Machine.upTo written count)
  let all := (bankCommand + UInt8.ofNat bank) :: (encoded ++ (← Machine.onFrom written count))
  return (← Machine.upTo all (1 + count), all)

/-- The answer to a step, and the buffer behind it, if the machine does not stop. -/
def checkedPerform : LedStep → Except Trap (LedAnswer × LedBuffer)
  | .set index color => return (.done, ← leds.checkedSet index color)
  | .fill color => return (.done, ← leds.checkedFill color)
  | .get index => return (.color (← leds.checkedGet index), leds)
  | .setNextBank bank => return (.done, leds.setNextBank bank)
  | .takeNextBank => do
    let (bank, leds) ← leds.checkedTakeNextBank words
    return (.bank bank, leds)
  | .markAllDirty => return (.done, ← leds.checkedMarkAllDirty)
  | .clearDirty bank => return (.done, ← leds.checkedClearDirty bank)
  | .isDirty bank => return (.dirty (← leds.checkedIsDirty bank), leds)
  | .nextDirtyBank =>
    return (.found (← leds.checkedFirstDirty words (List.range leds.banks)), leds)
  | .writeBank bank out => do
    let (count, out) ← leds.checkedWriteBank words bank out
    return (.written count out, leds)
  | .assemble profile dimming bank older => do
    let (sent, all) ← leds.checkedAssemble words profile dimming bank older.bytes
    return (.frame sent all, leds)

/-- The buffer behind some steps on a new one, if the machine does not stop. -/
def checkedRun (layout : LedLayout) (steps : List LedStep) : Except Trap LedBuffer := do
  steps.foldlM (fun leds step => Prod.snd <$> leds.checkedPerform words step)
    (← checkedNew words layout)

end LedBuffer
end SplitBoard

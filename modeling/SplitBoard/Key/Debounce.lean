import SplitBoard.Key.State

/-!
# Debouncing

A switch that is pressed or released bounces: for a while its samples change back and forth. Every
key therefore has a counter from zero to three. It advances while the sample disagrees with the
key's stable state and falls back to zero as soon as it agrees. **The stable state flips when the
counter wraps around with the sample still disagreeing, that is on the fourth such sample in a
row.**

The counters of a row are kept as two bit vectors, the low bits and the high bits, so that all keys
of the row advance at once.
-/

namespace SplitBoard

/-- The keys of one row: the two bits of each counter, and the stable states. -/
structure RowDebouncer (cols : Nat) where
  low : BitVec cols
  high : BitVec cols
  stable : BitVec cols
  deriving DecidableEq

namespace RowDebouncer

variable {cols : Nat}

/-- No key pressed and no counter running. -/
def rest : RowDebouncer cols := ⟨0, 0, 0⟩

/-- Take in one sample. Gives the keys whose stable state flipped. -/
def feed (row : RowDebouncer cols) (sample : BitVec cols) : BitVec cols × RowDebouncer cols :=
  let differing := sample ^^^ row.stable
  let high := (row.high ^^^ row.low) &&& differing
  let low := ~~~row.low &&& differing
  let flipped := ~~~(~~~differing ||| low ||| high)
  (flipped, ⟨low, high, row.stable ^^^ flipped⟩)

end RowDebouncer

/-- The keys of a whole matrix. -/
abbrev Debouncer (rows cols : Nat) := Vector (RowDebouncer cols) rows

namespace Debouncer

variable {rows cols : Nat}

/-- No key pressed and no counter running. -/
def rest : Debouncer rows cols := Vector.replicate rows .rest

/-- Take in one sample of one row. Gives the keys whose stable state flipped; rows outside the
matrix have none. -/
def feed (matrix : Debouncer rows cols) (row : Nat) (sample : BitVec cols) :
    BitVec cols × Debouncer rows cols :=
  if h : row < rows then
    let (flipped, next) := matrix[row].feed sample
    (flipped, matrix.set row next)
  else (0, matrix)

/-- Take in one sample of each of some rows, one row after the other. Gives the columns in which a
stable state flipped. -/
def feedRows (matrix : Debouncer rows cols) (sample : KeyRows rows cols) :
    List (Fin rows) → BitVec cols × Debouncer rows cols
  | [] => (0, matrix)
  | row :: later =>
    let (flipped, next) := matrix.feed row (sample.get row)
    let (others, last) := feedRows next sample later
    (flipped ||| others, last)

/-- The stable states. -/
def stable (matrix : Debouncer rows cols) : KeyRows rows cols :=
  matrix.map (·.stable)

end Debouncer

/-- A debounced matrix with a consumer, read at a steady pace. Time is a clock of microseconds that
wraps around. -/
structure MatrixScanner (rows cols : Nat) where
  debouncer : Debouncer rows cols
  keys : Keys rows cols
  /-- Microseconds between two scans. -/
  interval : UInt32
  /-- When the next scan is due. -/
  deadline : UInt32

namespace MatrixScanner

variable {rows cols : Nat}

/-- The usual pace. -/
def defaultInterval : UInt32 := 1500

/-- Nothing pressed, and a scan due when the clock starts. -/
def new (interval : UInt32) : MatrixScanner rows cols :=
  ⟨.rest, .released, interval, 0⟩

/-- Whether a scan is due, which then sets the next deadline. The deadline has passed when it lies
less than half a turn of the clock back. -/
def scanDue (scanner : MatrixScanner rows cols) (now : UInt32) :
    Bool × MatrixScanner rows cols :=
  if now - scanner.deadline < 0x80000000 then
    (true, { scanner with deadline := now + scanner.interval })
  else (false, scanner)

/-- Take in one sample of every row. Says whether a stable state flipped, and only then brings the
keys up to date. -/
def scan (scanner : MatrixScanner rows cols) (sample : KeyRows rows cols) :
    Bool × MatrixScanner rows cols :=
  let (flipped, debouncer) := scanner.debouncer.feedRows sample (List.finRange rows)
  if flipped = 0 then (false, { scanner with debouncer })
  else (true, { scanner with debouncer, keys := scanner.keys.update debouncer.stable })

/-- The consumer has seen the current state. -/
def acknowledge (scanner : MatrixScanner rows cols) : MatrixScanner rows cols :=
  { scanner with keys := scanner.keys.acknowledge }

/-- Release every key of the consumer's view; the stable states stay as they are. -/
def clear (scanner : MatrixScanner rows cols) : MatrixScanner rows cols :=
  { scanner with keys := scanner.keys.clear }

end MatrixScanner
end SplitBoard

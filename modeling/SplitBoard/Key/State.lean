/-!
# Key states

The state of a switch matrix is one bit vector per row, with a one for every closed switch. `Keys`
holds the state as it is now together with the state that the consumer has seen last.

**What was seen only moves when the consumer says so**, so a change cannot get lost between the scan
that found it and the dispatch that reads it.
-/

namespace SplitBoard

/-- One bit vector per row of a matrix, a one for every pressed key. -/
abbrev KeyRows (rows cols : Nat) := Vector (BitVec cols) rows

namespace KeyRows

variable {rows cols : Nat}

/-- No key pressed. -/
def released : KeyRows rows cols := Vector.replicate rows 0

/-- Whether the key at a position is pressed. Outside the matrix there are no keys. -/
def isPressed (state : KeyRows rows cols) (row col : Nat) : Bool :=
  match state[row]? with
  | some bits => bits.getLsbD col
  | none => false

/-- The columns of the pressed keys of one row. -/
def pressedColumns (bits : BitVec cols) : List (Fin cols) :=
  (List.finRange cols).filter fun col => bits.getLsbD col

/-- The number of pressed keys. -/
def pressedCount (state : KeyRows rows cols) : Nat :=
  (state.toList.flatMap pressedColumns).length

section IsPressed
variable (state : KeyRows rows cols) {row : Nat} (col : Nat)

theorem isPressed_of_lt (h : row < rows) : state.isPressed row col = state[row].getLsbD col := by
  simp [isPressed, h]

/-- Outside the matrix nothing is ever pressed. -/
theorem isPressed_of_outside {col : Nat} (outside : ¬(row < rows ∧ col < cols)) :
    state.isPressed row col = false := by
  by_cases h : row < rows
  · rw [isPressed_of_lt state col h]
    exact BitVec.getLsbD_of_ge _ _ (by omega)
  · simp [isPressed, h]

theorem isPressed_released (row col : Nat) :
    (released : KeyRows rows cols).isPressed row col = false := by
  by_cases h : row < rows <;> simp [isPressed, released, h]

theorem isPressed_set {i : Nat} (h : i < rows) (bits : BitVec cols) :
    isPressed (state.set i bits) row col =
      if row = i then bits.getLsbD col else state.isPressed row col := by
  unfold isPressed
  by_cases here : row = i
  · rw [here, if_pos rfl, Vector.getElem?_set_self]
  · rw [if_neg here, Vector.getElem?_set_ne h (Ne.symm here)]

/-- The state is known once it is known of every key. -/
theorem eq_of_isPressed {state other : KeyRows rows cols}
    (same : ∀ row col, state.isPressed row col = other.isPressed row col) : state = other := by
  refine Vector.ext fun row h => BitVec.eq_of_getLsbD_eq fun col _ => ?_
  rw [← isPressed_of_lt state col h, ← isPressed_of_lt other col h]
  exact same row col

end IsPressed

end KeyRows

/-- The press or release of one key. -/
structure KeyTransition (rows cols : Nat) where
  row : Fin rows
  col : Fin cols
  pressed : Bool
  deriving DecidableEq, Repr

/-- The press or release of one key as it is handed on, with a byte for the row and one for the
column. -/
structure KeyReport where
  row : UInt8
  col : UInt8
  pressed : Bool
  deriving DecidableEq, Repr

/-- Hand a press or release on. A matrix has at most 256 rows and as many columns. -/
def KeyTransition.report {rows cols : Nat} (t : KeyTransition rows cols) : KeyReport :=
  ⟨UInt8.ofNat t.row, UInt8.ofNat t.col, t.pressed⟩

/-- The state of a matrix now, and the state that the consumer has seen last. -/
structure Keys (rows cols : Nat) where
  current : KeyRows rows cols
  acknowledged : KeyRows rows cols
  deriving DecidableEq

namespace Keys

variable {rows cols : Nat}

/-- Nothing pressed and nothing to see. -/
def released : Keys rows cols := ⟨.released, .released⟩

/-- A new state of the matrix. -/
def update (keys : Keys rows cols) (state : KeyRows rows cols) : Keys rows cols :=
  { keys with current := state }

/-- Release every key, for instance because the matrix is gone. -/
def clear (keys : Keys rows cols) : Keys rows cols :=
  { keys with current := .released }

/-- The consumer has seen the current state. -/
def acknowledge (keys : Keys rows cols) : Keys rows cols :=
  { keys with acknowledged := keys.current }

/-- Whether there is something that the consumer has not seen. -/
def hasChanges (keys : Keys rows cols) : Bool :=
  keys.current != keys.acknowledged

/-- Whether the key at a position is pressed now. -/
def isPressed (keys : Keys rows cols) (row col : Nat) : Bool :=
  keys.current.isPressed row col

/-- Whether the key at a position was pressed when the consumer last looked. -/
def wasPressed (keys : Keys rows cols) (row col : Nat) : Bool :=
  keys.acknowledged.isPressed row col

/-- The presses and releases of one row, by ascending column. -/
def rowTransitions (keys : Keys rows cols) (row : Fin rows) : List (KeyTransition rows cols) :=
  (KeyRows.pressedColumns (keys.current[row] ^^^ keys.acknowledged[row])).map fun col =>
    ⟨row, col, keys.current[row].getLsbD col⟩

/-- The keys whose state the consumer has not seen, by ascending row and then column. -/
def transitions (keys : Keys rows cols) : List (KeyTransition rows cols) :=
  (List.finRange rows).flatMap keys.rowTransitions

/-- The keys whose state the consumer has not seen, as they are handed on. -/
def reports (keys : Keys rows cols) : List KeyReport :=
  keys.transitions.map KeyTransition.report

theorem mem_transitions_iff {keys : Keys rows cols} {t : KeyTransition rows cols} :
    t ∈ keys.transitions ↔
      keys.isPressed t.row t.col = t.pressed ∧ keys.wasPressed t.row t.col ≠ t.pressed := by
  obtain ⟨row, col, pressed⟩ := t
  simp only [transitions, rowTransitions, List.mem_flatMap, List.mem_finRange, List.mem_map,
    KeyRows.pressedColumns, List.mem_filter, true_and, BitVec.getLsbD_xor, isPressed, wasPressed,
    KeyRows.isPressed_of_lt _ _ row.isLt, KeyTransition.mk.injEq]
  constructor
  · rintro ⟨row, col, differ, rfl, rfl, rfl⟩
    exact ⟨rfl, (bne_iff_ne.mp differ).symm⟩
  · rintro ⟨rfl, differ⟩
    exact ⟨row, col, bne_iff_ne.mpr differ.symm, rfl, rfl, rfl⟩

end Keys
end SplitBoard

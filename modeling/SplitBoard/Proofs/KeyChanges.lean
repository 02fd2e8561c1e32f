import SplitBoard.Board
import Mathlib.Data.List.Nodup

/-!
# The key changes that a board reports

The changes of both halves make one list, in places of the main matrix.  No two
keys share a place there (`mainCol_inj`), so **every key whose state was not seen
is reported once, as it is now, and no other key is** (`count_transitions`).
-/

namespace SplitBoard

namespace Keys

variable {rows cols : Nat} (keys : Keys rows cols)

theorem nodup_rowTransitions (row : Fin rows) : (keys.rowTransitions row).Nodup := by
  refine List.Nodup.map_on ?_ ((List.nodup_finRange cols).filter _)
  intro col _ col' _ same
  exact (KeyTransition.mk.inj same).2.1

theorem nodup_transitions : keys.transitions.Nodup := by
  refine List.nodup_flatMap.mpr ⟨fun row _ => keys.nodup_rowTransitions row, ?_⟩
  refine (List.nodup_finRange rows).imp fun {row row'} ne t here there => ne ?_
  -- a change names its row
  obtain ⟨col, -, rfl⟩ := List.mem_map.mp here
  obtain ⟨col', -, same⟩ := List.mem_map.mp there
  exact (KeyTransition.mk.inj same).1.symm

end Keys

/-- No two columns of the halves are the same column of the main matrix. -/
theorem mainCol_inj {side side' : Side} {col col' : Fin halfCols} :
    mainCol side col = mainCol side' col' ↔ side = side' ∧ col = col' := by
  constructor
  · intro same
    have value : (mainCol side col).val = (mainCol side' col').val := congrArg Fin.val same
    have narrow : col.val < 8 := col.isLt
    have narrow' : col'.val < 8 := col'.isLt
    cases side <;> cases side'
    · exact ⟨rfl, Fin.ext value⟩
    · change col.val = 15 - col'.val at value
      omega
    · change 15 - col.val = col'.val at value
      omega
    · change 15 - col.val = 15 - col'.val at value
      exact ⟨rfl, Fin.ext (by omega)⟩
  · rintro ⟨rfl, rfl⟩
    rfl

/-- Every column of the main matrix is a column of one of the halves. -/
theorem exists_mainCol (col : Fin mainCols) : ∃ side col', mainCol side col' = col := by
  obtain ⟨col, inside⟩ := col
  have wide : col < 16 := inside
  by_cases left : col < 8
  · exact ⟨.left, ⟨col, left⟩, rfl⟩
  · refine ⟨.right, ⟨15 - col, show 15 - col < 8 by omega⟩, Fin.ext ?_⟩
    change 15 - (15 - col) = col
    omega

/-- The states of both halves as one, by rows and columns of the main matrix. -/
def mainPressed (left right : KeyRows halfRows halfCols) (row col : Nat) : Bool :=
  if halfRows ≤ row ∨ mainCols ≤ col then false
  else if col < halfCols then left.isPressed row col
  else right.isPressed row (mainCols - 1 - col)

section MainPressed
variable (left right : KeyRows halfRows halfCols) (row : Nat)

theorem mainPressed_left (col : Fin halfCols) :
    mainPressed left right row (mainCol .left col) = left.isPressed row col := by
  obtain ⟨col, inside⟩ := col
  have narrow : col < 8 := inside
  unfold mainPressed
  by_cases outside : halfRows ≤ row
  · rw [if_pos (.inl outside)]
    exact (KeyRows.isPressed_of_outside _ (by omega)).symm
  · change (if halfRows ≤ row ∨ 16 ≤ col then _ else if col < 8 then _ else _) = _
    rw [if_neg (by omega), if_pos narrow]
    rfl

theorem mainPressed_right (col : Fin halfCols) :
    mainPressed left right row (mainCol .right col) = right.isPressed row col := by
  obtain ⟨col, inside⟩ := col
  have narrow : col < 8 := inside
  unfold mainPressed
  by_cases outside : halfRows ≤ row
  · rw [if_pos (.inl outside)]
    exact (KeyRows.isPressed_of_outside _ (by omega)).symm
  · change (if halfRows ≤ row ∨ 16 ≤ 15 - col then _ else if 15 - col < 8 then _ else
      right.isPressed row (15 - (15 - col))) = _
    rw [if_neg (by omega), if_neg (by omega), Nat.sub_sub_self (by omega)]

theorem mainPressed_of_outside {row col : Nat} (outside : ¬(row < halfRows ∧ col < mainCols)) :
    mainPressed left right row col = false := by
  have beyond : halfRows ≤ row ∨ mainCols ≤ col := by omega
  rw [mainPressed, if_pos beyond]

end MainPressed

namespace Board

variable (board : Board) (side : Side) (row : Fin halfRows) (col : Fin halfCols) (pressed : Bool)

/-- A key is reported as it is now, if it was seen otherwise. -/
theorem mem_transitions_iff :
    ⟨row, mainCol side col, pressed⟩ ∈ board.transitions ↔
      (board.half side).keys.isPressed row col = pressed ∧
        (board.half side).keys.wasPressed row col ≠ pressed := by
  have both : ∀ side, side ∈ Side.both := fun side => by cases side <;> decide
  rw [← Keys.mem_transitions_iff (t := ⟨row, col, pressed⟩)]
  constructor
  · intro reported
    obtain ⟨side', -, mapped⟩ := List.mem_flatMap.mp reported
    obtain ⟨t, changed, same⟩ := List.mem_map.mp mapped
    obtain ⟨here, column, now⟩ := KeyTransition.mk.inj same
    obtain ⟨rfl, rfl⟩ := mainCol_inj.mp column
    rw [← here, ← now]
    exact changed
  · intro changed
    exact List.mem_flatMap.mpr ⟨side, both side, List.mem_map.mpr ⟨_, changed, rfl⟩⟩

theorem nodup_transitions : board.transitions.Nodup := by
  refine List.nodup_flatMap.mpr ⟨fun side _ => ?_, ?_⟩
  · refine List.Nodup.map_on ?_ (Keys.nodup_transitions _)
    rintro ⟨row, col, pressed⟩ _ ⟨row', col', pressed'⟩ _ same
    obtain ⟨rfl, column, rfl⟩ := KeyTransition.mk.inj same
    obtain ⟨-, rfl⟩ := mainCol_inj.mp column
    rfl
  · have apart : Side.both.Nodup := by decide
    refine apart.imp fun {side side'} ne t here there => ne ?_
    obtain ⟨t, -, rfl⟩ := List.mem_map.mp here
    obtain ⟨t', -, same⟩ := List.mem_map.mp there
    exact (mainCol_inj.mp (KeyTransition.mk.inj same).2.1).1.symm

/-- **Every change that was not seen is reported once.** -/
theorem count_transitions :
    board.transitions.count ⟨row, mainCol side col, pressed⟩ =
      if (board.half side).keys.isPressed row col = pressed ∧
        (board.half side).keys.wasPressed row col ≠ pressed then 1 else 0 := by
  rw [board.nodup_transitions.count]
  exact if_congr (board.mem_transitions_iff side row col pressed) rfl rfl

theorem isPressed_mainCol (board : Board) (side : Side) (row : Nat) (col : Fin halfCols) :
    board.isPressed row (mainCol side col) = (board.half side).keys.isPressed row col := by
  cases side with
  | left => exact mainPressed_left _ _ row col
  | right => exact mainPressed_right _ _ row col

/-- The changes that are reported are those of the keys as they are. -/
theorem isPressed_of_mem_transitions {board : Board} {t : KeyTransition halfRows mainCols}
    (h : t ∈ board.transitions) : board.isPressed t.row t.col = t.pressed := by
  obtain ⟨side, -, mapped⟩ := List.mem_flatMap.mp h
  obtain ⟨t', reported, rfl⟩ := List.mem_map.mp mapped
  rw [isPressed_mainCol]
  exact (Keys.mem_transitions_iff.mp reported).1

end Board

end SplitBoard

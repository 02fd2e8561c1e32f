import SplitBoard.Proofs.BoardOps
import SplitBoard.Proofs.KeyChanges
import Mathlib.Algebra.BigOperators.Fin
import Mathlib.Data.Fintype.Prod

/-!
# The main matrix

A board shows its keys in three ways: key by key, by the changes since they were
last seen, and by how many are pressed.  The columns of the right half run
backwards in the main matrix, and each of the three ways maps them on its own.

**The three ways agree** (`mainMatrix`): the changes, put one after another on the
state that was seen, give the state as it is now, whatever their order.
-/

namespace SplitBoard

open Dialogue Bus

/-! ## Changes on a state -/

/-- The place of a change. -/
def KeyTransition.place {rows cols : Nat} (t : KeyTransition rows cols) : Nat × Nat :=
  (t.row, t.col)

/-- Put a change on a state of a matrix. -/
def applyChange {rows cols : Nat} (state : Nat × Nat → Bool) (t : KeyTransition rows cols) :
    Nat × Nat → Bool :=
  Function.update state t.place t.pressed

section Changes
variable {rows cols : Nat} {changes : List (KeyTransition rows cols)} {state : Nat × Nat → Bool}

/-- A place that is not among the changes keeps its state. -/
theorem foldl_applyChange_of_untouched {place : Nat × Nat}
    (untouched : ∀ t ∈ changes, t.place ≠ place) :
    changes.foldl applyChange state place = state place := by
  induction changes generalizing state with
  | nil => rfl
  | cons t rest ih =>
    obtain ⟨here, later⟩ := List.forall_mem_cons.mp untouched
    rw [List.foldl_cons, ih later]
    exact Function.update_of_ne here.symm _ _

/-- A place that is once among the changes has the state that they say. -/
theorem foldl_applyChange_of_mem (once : (changes.map KeyTransition.place).Nodup)
    {t : KeyTransition rows cols} (member : t ∈ changes) :
    changes.foldl applyChange state t.place = t.pressed := by
  induction changes generalizing state with
  | nil => exact absurd member List.not_mem_nil
  | cons first rest ih =>
    obtain ⟨apart, once⟩ := List.nodup_cons.mp once
    rcases List.mem_cons.mp member with rfl | member
    · have untouched : ∀ t' ∈ rest, t'.place ≠ t.place := fun t' member same =>
        apart (same ▸ List.mem_map_of_mem member)
      rw [List.foldl_cons, foldl_applyChange_of_untouched untouched]
      exact Function.update_self _ _ _
    · exact ih once member

/-- Changes lead to the state that they say, if they leave no place out. -/
theorem foldl_applyChange_eq {after : Nat × Nat → Bool}
    (once : (changes.map KeyTransition.place).Nodup)
    (told : ∀ t ∈ changes, after t.place = t.pressed)
    (still : ∀ place, (∀ t ∈ changes, t.place ≠ place) → state place = after place) :
    changes.foldl applyChange state = after := by
  funext place
  by_cases touched : ∃ t ∈ changes, t.place = place
  · obtain ⟨t, member, rfl⟩ := touched
    rw [foldl_applyChange_of_mem once member, told t member]
  · have untouched : ∀ t ∈ changes, t.place ≠ place :=
      fun t member here => touched ⟨t, member, here⟩
    rw [foldl_applyChange_of_untouched untouched, still place untouched]

end Changes

/-! ## Counting -/

/-- The places of a matrix where a key is pressed. -/
def pressedPlaces (rows cols : Nat) (pressed : Nat → Nat → Bool) : Finset (Fin rows × Fin cols) :=
  Finset.univ.filter fun place => pressed place.1 place.2

/-- The keys are counted row by row. -/
theorem KeyRows.pressedCount_eq_sum {rows cols : Nat} (state : KeyRows rows cols) :
    state.pressedCount =
      ((List.finRange rows).map fun row => (pressedColumns (state.get row)).length).sum := by
  have inOrder : state.toList = (List.finRange rows).map state.get := by
    refine List.ext_getElem (by simp) fun i here there => ?_
    simp [Vector.get]
  rw [pressedCount, inOrder, List.length_flatMap, List.map_map]
  rfl

theorem KeyRows.pressedCount_eq_card {rows cols : Nat} (state : KeyRows rows cols) :
    state.pressedCount = (pressedPlaces rows cols state.isPressed).card := by
  rw [pressedCount_eq_sum, pressedPlaces, Finset.card_filter, Fintype.sum_prod_type,
    Fin.sum_univ_def]
  congr 1
  refine List.map_congr_left fun row _ => ?_
  rw [← Finset.card_filter]
  change ((List.finRange cols).filter _).length = ((List.finRange cols).filter _).length
  congr 1
  refine List.filter_congr fun col _ => ?_
  change state[row].getLsbD col = decide (state.isPressed row col = true)
  rw [isPressed_of_lt state col row.isLt, Bool.decide_eq_true]
  rfl

/-- Where a place of a half is in the main matrix. -/
def mainPlace (side : Side) (place : Fin halfRows × Fin halfCols) : Fin halfRows × Fin mainCols :=
  (place.1, mainCol side place.2)

theorem mainPlace_inj {side side' : Side} {place place' : Fin halfRows × Fin halfCols} :
    mainPlace side place = mainPlace side' place' ↔ side = side' ∧ place = place' := by
  obtain ⟨row, col⟩ := place
  obtain ⟨row', col'⟩ := place'
  simp only [mainPlace, Prod.mk.injEq, mainCol_inj]
  exact and_left_comm

/-- The pressed places of both halves make up those of the main matrix. -/
theorem card_pressedPlaces_main (left right : KeyRows halfRows halfCols) :
    (pressedPlaces halfRows mainCols (mainPressed left right)).card =
      (pressedPlaces halfRows halfCols left.isPressed).card +
        (pressedPlaces halfRows halfCols right.isPressed).card := by
  have injective (side : Side) : Function.Injective (mainPlace side) :=
    fun place place' same => (mainPlace_inj.mp same).2
  have apart : Disjoint ((pressedPlaces halfRows halfCols left.isPressed).image (mainPlace .left))
      ((pressedPlaces halfRows halfCols right.isPressed).image (mainPlace .right)) := by
    refine Finset.disjoint_left.mpr fun place fromLeft fromRight => ?_
    obtain ⟨here, -, rfl⟩ := Finset.mem_image.mp fromLeft
    obtain ⟨there, -, same⟩ := Finset.mem_image.mp fromRight
    nomatch (mainPlace_inj.mp same).1
  rw [← Finset.card_image_of_injective _ (injective .left),
    ← Finset.card_image_of_injective _ (injective .right), ← Finset.card_union_of_disjoint apart]
  congr 1
  ext ⟨row, col⟩
  obtain ⟨side, col, rfl⟩ := exists_mainCol col
  change _ ↔ mainPlace side (row, col) ∈ _
  cases side with
  | left => simp [pressedPlaces, mainPlace_inj, mainPressed_left]
  | right => simp [pressedPlaces, mainPlace_inj, mainPressed_right]

namespace Keys

/-- There is something that was not seen exactly if there is something to report. -/
theorem hasChanges_iff {rows cols : Nat} (keys : Keys rows cols) :
    keys.hasChanges = true ↔ keys.transitions ≠ [] := by
  rw [hasChanges, bne_iff_ne, not_iff_not]
  constructor
  · intro same
    refine List.eq_nil_iff_forall_not_mem.mpr fun t reported => ?_
    obtain ⟨now, before⟩ := mem_transitions_iff.mp reported
    exact before (by rw [← now, wasPressed, ← same, isPressed])
  · intro nothing
    refine KeyRows.eq_of_isPressed fun row col => ?_
    by_cases inside : row < rows ∧ col < cols
    · by_contra differ
      have reported :
          ⟨⟨row, inside.1⟩, ⟨col, inside.2⟩, keys.isPressed row col⟩ ∈ keys.transitions :=
        mem_transitions_iff.mpr ⟨rfl, Ne.symm differ⟩
      rw [nothing] at reported
      exact absurd reported List.not_mem_nil
    · rw [KeyRows.isPressed_of_outside _ inside, KeyRows.isPressed_of_outside _ inside]

end Keys

namespace Board

/-- Whether the key at a place of the main matrix was pressed when the changes were last seen. -/
def wasPressed (board : Board) : Nat → Nat → Bool :=
  mainPressed (board.half .left).keys.acknowledged (board.half .right).keys.acknowledged

/-- The ways in which a board shows its keys, and how they go together. -/
structure MainMatrix (board : Board) : Prop where
  /-- No place is reported twice. -/
  once : (board.transitions.map KeyTransition.place).Nodup
  /-- What is reported is the state of a key that was seen otherwise. -/
  reported_iff : ∀ (row : Fin halfRows) (col : Fin mainCols) (pressed : Bool),
    ⟨row, col, pressed⟩ ∈ board.transitions ↔
      board.isPressed row col = pressed ∧ board.wasPressed row col = !pressed
  /-- The changes lead from what was seen to what is, in any order. -/
  applied : ∀ changes : List (KeyTransition halfRows mainCols), changes.Perm board.transitions →
    changes.foldl applyChange (fun place => board.wasPressed place.1 place.2) =
      fun place => board.isPressed place.1 place.2
  counted : board.pressedCount = (pressedPlaces halfRows mainCols board.isPressed).card
  outside : ∀ row col, ¬(row < halfRows ∧ col < mainCols) → board.isPressed row col = false
  /-- A scan says whether there is anything to report after it. -/
  scanned : ∀ said report after, Plays (scanCycle.run board) said (report, after) →
    (report.keysChanged = true ↔ after.transitions ≠ [])
  /-- What was seen is not reported, and the keys are as before. -/
  acknowledged : board.acknowledge.transitions = [] ∧
    board.acknowledge.isPressed = board.isPressed ∧ board.acknowledge.wasPressed = board.isPressed

section View
variable (board : Board)

theorem isPressed_eq :
    board.isPressed =
      mainPressed (board.half .left).keys.current (board.half .right).keys.current := rfl

theorem wasPressed_mainCol (side : Side) (row : Nat) (col : Fin halfCols) :
    board.wasPressed row (mainCol side col) = (board.half side).keys.wasPressed row col := by
  cases side with
  | left => exact mainPressed_left _ _ row col
  | right => exact mainPressed_right _ _ row col

theorem mem_transitions_main (row : Fin halfRows) (col : Fin mainCols) (pressed : Bool) :
    ⟨row, col, pressed⟩ ∈ board.transitions ↔
      board.isPressed row col = pressed ∧ board.wasPressed row col = !pressed := by
  obtain ⟨side, col, rfl⟩ := exists_mainCol col
  rw [mem_transitions_iff, isPressed_mainCol, wasPressed_mainCol, Bool.eq_not]

/-- No place is reported twice, because it decides what is reported there. -/
theorem nodup_places : (board.transitions.map KeyTransition.place).Nodup := by
  refine List.Nodup.map_on ?_ board.nodup_transitions
  intro t here t' there same
  have now := isPressed_of_mem_transitions here
  have now' := isPressed_of_mem_transitions there
  obtain ⟨row, col, pressed⟩ := t
  obtain ⟨row', col', pressed'⟩ := t'
  obtain ⟨rowSame, colSame⟩ := Prod.mk.inj same
  obtain rfl := Fin.ext rowSame
  obtain rfl := Fin.ext colSame
  rw [show pressed = pressed' from now.symm.trans now']

/-- A place that is not reported is as it was seen. -/
theorem wasPressed_of_untouched {row col : Nat}
    (untouched : ∀ t ∈ board.transitions, t.place ≠ (row, col)) :
    board.wasPressed row col = board.isPressed row col := by
  by_cases inside : row < halfRows ∧ col < mainCols
  · by_contra differ
    have reported := (board.mem_transitions_main ⟨row, inside.1⟩ ⟨col, inside.2⟩ _).mpr
      ⟨rfl, (Bool.eq_not).mpr differ⟩
    exact untouched _ reported rfl
  · rw [isPressed_eq, wasPressed, mainPressed_of_outside _ _ inside,
      mainPressed_of_outside _ _ inside]

theorem foldl_transitions {changes : List (KeyTransition halfRows mainCols)}
    (perm : changes.Perm board.transitions) :
    changes.foldl applyChange (fun place => board.wasPressed place.1 place.2) =
      fun place => board.isPressed place.1 place.2 := by
  have once : (changes.map KeyTransition.place).Nodup :=
    (perm.map KeyTransition.place).nodup_iff.mpr board.nodup_places
  refine foldl_applyChange_eq once (fun t member => ?_) fun place untouched => ?_
  · exact isPressed_of_mem_transitions (perm.mem_iff.mp member)
  · exact board.wasPressed_of_untouched fun t member => untouched t (perm.mem_iff.mpr member)

theorem hasKeyChanges_iff : board.hasKeyChanges = true ↔ board.transitions ≠ [] := by
  rw [hasKeyChanges, Bool.or_eq_true, Keys.hasChanges_iff, Keys.hasChanges_iff, ← not_and_or,
    not_iff_not]
  simp [transitions, Side.both]

theorem keys_acknowledge (side : Side) :
    (board.acknowledge.half side).keys = (board.half side).keys.acknowledge := by
  cases side <;> rfl

theorem transitions_acknowledge : board.acknowledge.transitions = [] := by
  by_contra reported
  have changes := board.acknowledge.hasKeyChanges_iff.mpr reported
  rw [hasKeyChanges, keys_acknowledge, keys_acknowledge] at changes
  simp [Keys.hasChanges, Keys.acknowledge] at changes

/-- **What a board reports, what it answers and what it counts are the same keys.** -/
theorem mainMatrix : board.MainMatrix where
  once := board.nodup_places
  reported_iff := board.mem_transitions_main
  applied changes perm := board.foldl_transitions perm
  counted := by
    rw [isPressed_eq, card_pressedPlaces_main, ← KeyRows.pressedCount_eq_card,
      ← KeyRows.pressedCount_eq_card]
    rfl
  outside row col := mainPressed_of_outside _ _
  scanned said report after plays := by
    rw [← after.hasKeyChanges_iff]
    cases plays_scanCycle plays <;> exact Iff.rfl
  acknowledged := ⟨board.transitions_acknowledge, rfl, rfl⟩

end View

end Board
end SplitBoard

import SplitBoard.Bus.Script
import SplitBoard.Proofs.BoardFrames
import SplitBoard.Proofs.KeyChanges
import Mathlib.Logic.Equiv.Basic
import Mathlib.Tactic.IntervalCases

/-!
# The keys of a polled half

Key data that arrives is put in its places by the layout that the board has at
that moment.  A half that appears is polled first and asked for its layout
later, in the same scan, and its keys are not put in their places again: **a scan
in which the layout changes leaves the keys in the places of the old layout**
(`keys_misplaced`).

In every other scan they are where the layout says, or it does not matter because
the two keys that change places were read alike (`shows_iff_polled`).
-/

namespace SplitBoard

open Dialogue Bus

/-! ## Where keys belong -/

/-- A row and a column of a half. -/
abbrev Place := Nat × Nat

/-- Whether the key at a place is pressed. -/
def KeyRows.isPressedAt {rows cols : Nat} (state : KeyRows rows cols) (place : Place) : Bool :=
  state.isPressed place.1 place.2

/-- The two places that an ANSI half has its switches exchanged at. -/
def crossed : Side → Place × Place
  | .left => ((3, 0), (3, 1))
  | .right => ((1, 0), (2, 0))

/-- Where the key of a place is found in the key data. -/
def wiredAt (side : Side) (layout : KeyLayout) (place : Place) : Place :=
  match layout with
  | .iso => place
  | .ansi => Equiv.swap (crossed side).1 (crossed side).2 place

/-- The rows hold what the key data says, every key in its place. -/
def Placed (side : Side) (layout : KeyLayout) (data rows : KeyRows halfRows halfCols) : Prop :=
  ∀ place, rows.isPressedAt place = data.isPressedAt (wiredAt side layout place)

section Places
variable {side : Side} {layout other : KeyLayout} {data rows : KeyRows halfRows halfCols}

/-- The two lowest bits of a row exchanged. -/
theorem getLsbD_exchange (row : BitVec 8) (col : Nat) :
    ((row &&& ~~~3#8) ||| ((row &&& 1#8) <<< 1) ||| ((row &&& 2#8) >>> 1)).getLsbD col =
      row.getLsbD (if col = 0 then 1 else if col = 1 then 0 else col) := by
  by_cases inside : col < 8
  · interval_cases col <;> simp
  · rw [if_neg (by omega), if_neg (by omega), BitVec.getLsbD_of_ge _ _ (by omega),
      BitVec.getLsbD_of_ge _ _ (by omega)]

/-- The lowest bit of a row taken from another one. -/
theorem getLsbD_takeLow (row low : BitVec 8) (col : Nat) :
    ((row &&& ~~~1#8) ||| (low &&& 1#8)).getLsbD col =
      if col = 0 then low.getLsbD 0 else row.getLsbD col := by
  by_cases inside : col < 8
  · interval_cases col <;> simp
  · rw [if_neg (by omega), BitVec.getLsbD_of_ge _ _ (by omega),
      BitVec.getLsbD_of_ge _ _ (by omega)]

theorem isPressedAt_ansiRemap (side : Side) (rows : KeyRows halfRows halfCols) (place : Place) :
    (ansiRemap side rows).isPressedAt place = rows.isPressedAt (wiredAt side .ansi place) := by
  obtain ⟨row, col⟩ := place
  have read : ∀ i (h : i < halfRows) col, rows[i].getLsbD col = rows.isPressed i col :=
    fun i h col => (rows.isPressed_of_lt col h).symm
  unfold wiredAt KeyRows.isPressedAt
  rw [Equiv.swap_apply_def]
  cases side with
  | left =>
    rw [ansiRemap, KeyRows.isPressed_set _ _ (by decide), getLsbD_exchange, read 3 (by decide)]
    by_cases here : row = 3
    · subst here
      rw [if_pos rfl]
      by_cases zero : col = 0
      · simp [crossed, zero]
      · by_cases one : col = 1
        · simp [crossed, one]
        · simp [crossed, zero, one]
    · simp [crossed, here]
  | right =>
    rw [ansiRemap, KeyRows.isPressed_set _ _ (by decide), KeyRows.isPressed_set _ _ (by decide),
      getLsbD_takeLow, getLsbD_takeLow, read 1 (by decide), read 1 (by decide),
      read 2 (by decide), read 2 (by decide)]
    by_cases upper : row = 1
    · subst upper
      by_cases zero : col = 0 <;> simp [crossed, zero]
    · by_cases lower : row = 2
      · subst lower
        by_cases zero : col = 0 <;> simp [crossed, zero]
      · simp [crossed, upper, lower]

/-- Keys that are in the places of one layout are in those of the other one only if the two keys
that change places are alike. -/
theorem Placed.iff_crossed (h : Placed side layout data rows) (ne : other ≠ layout) :
    Placed side other data rows ↔
      data.isPressedAt (crossed side).1 = data.isPressedAt (crossed side).2 := by
  have alike : Placed side other data rows ↔ ∀ place,
      data.isPressedAt (Equiv.swap (crossed side).1 (crossed side).2 place) =
        data.isPressedAt place := by
    refine forall_congr' fun place => ?_
    rw [h place]
    cases layout <;> cases other
    · exact absurd rfl ne
    · exact eq_comm
    · rfl
    · exact absurd rfl ne
  rw [alike]
  constructor
  · intro all
    have there := all (crossed side).2
    rwa [Equiv.swap_apply_right] at there
  · exact Equiv.apply_swap_eq_self

end Places

/-! ## Key data on the bus -/

/-- The rows in a read that delivered key data, complete and with its tag. -/
def keyData? : Exchange vocabulary → Option (KeyRows halfRows halfCols)
  | ⟨.read _ length, delivery⟩ =>
    if length = Half.keyDataLength ∧ delivery.isFull ∧
        delivery.bytes.headD 0 = Half.keyDataTag then
      some (Half.rowsOfKeyData delivery.bytes)
    else none
  | _ => none

/-- The rows in the first such read. -/
def firstKeyData? (said : Talk) : Option (KeyRows halfRows halfCols) :=
  said.findSome? keyData?

theorem firstKeyData?_append (first second : Talk) :
    firstKeyData? (first ++ second) = (firstKeyData? first).or (firstKeyData? second) :=
  List.findSome?_append

theorem firstKeyData?_cons (e : Exchange vocabulary) (rest : Talk) :
    firstKeyData? (e :: rest) = (keyData? e).or (firstKeyData? rest) := by
  rw [firstKeyData?, List.findSome?_cons]
  cases keyData? e <;> rfl

namespace Half

section KeyData
variable {half half' : Half} {said : Talk} {data : KeyRows halfRows halfCols}

theorem Consults.no_keyData {available : Bool} (h : Consults half said available half') :
    firstKeyData? said = none := by
  cases h <;> rfl

/-- Key data that arrives is what the keys are afterwards. -/
theorem Polls.of_keyData {result : Except LinkError (Keys halfRows halfCols)}
    (h : Polls half said result half') (arrived : firstKeyData? said = some data) :
    (∃ keys, result = .ok keys) ∧ half'.online = true ∧ half'.keys.current = data := by
  cases h with
  | unavailable consults =>
    rw [consults.no_keyData] at arrived
    cases arrived
  | bad consults bad =>
    rw [firstKeyData?_append, consults.no_keyData, Option.none_or, firstKeyData?_cons, keyData?,
      if_neg fun good => bad good.2] at arrived
    cases arrived
  | good consults good =>
    rw [firstKeyData?_append, consults.no_keyData, Option.none_or, firstKeyData?_cons, keyData?,
      if_pos ⟨rfl, good⟩] at arrived
    exact ⟨⟨_, rfl⟩, rfl, Option.some.inj arrived⟩

end KeyData

end Half

/-- A half whose keys were just read has them in the places of the layout. -/
theorem placed_placeKeys {α : Type} (half : Half) (side : Side) (layout : KeyLayout) (a : α) :
    Placed side layout half.keys.current (half.placeKeys side layout (.ok a)).keys.current := by
  cases layout with
  | iso => exact fun _ => rfl
  | ansi => exact isPressedAt_ansiRemap side half.keys.current

namespace Board

/-! ## What a board says of its keys -/

section Says
variable {board : Board} {side : Side} {layout : KeyLayout} {data : KeyRows halfRows halfCols}

/-- The board has the keys of a half in their places, and says so to whoever asks. -/
structure Shows (board : Board) (side : Side) (layout : KeyLayout)
    (data : KeyRows halfRows halfCols) : Prop where
  placed : Placed side layout data (board.rows side)
  isPressed : ∀ row col,
    board.isPressed row (mainCol side col) = data.isPressedAt (wiredAt side layout (row, col))
  transitions : ∀ t ∈ board.transitions, ∀ col, t.col = mainCol side col →
    t.pressed = data.isPressedAt (wiredAt side layout (t.row, col))

theorem shows_iff_placed :
    board.Shows side layout data ↔ Placed side layout data (board.rows side) := by
  refine ⟨Shows.placed, fun placed => ?_⟩
  have isPressed : ∀ row col, board.isPressed row (mainCol side col) =
      data.isPressedAt (wiredAt side layout (row, ↑col)) :=
    fun row col => (isPressed_mainCol board side row col).trans (placed (row, col))
  refine ⟨placed, isPressed, fun t reported col here => ?_⟩
  rw [← isPressed_of_mem_transitions reported, here, isPressed]

end Says

/-! ## Polling -/

section Polling
variable {board after : Board} {said : Talk} {side other : Side} {event : Option BoardEvent}
  {data : KeyRows halfRows halfCols}

/-- Key data is put in the places of the layout that the board has when it arrives. -/
theorem PollsSide.placed (h : PollsSide side board said event after)
    (arrived : firstKeyData? said = some data) :
    Placed side board.layout data (after.rows side) := by
  -- a note behind it carries no key data
  have before : ∀ {first : Talk} {note : Note},
      firstKeyData? (first ++ [⟨.tell note, ()⟩]) = firstKeyData? first := by
    intro first note
    rw [firstKeyData?_append]
    exact Option.or_none
  cases h with
  | suspended => cases arrived
  | came _ _ polls =>
    rw [before] at arrived
    obtain ⟨⟨keys, rfl⟩, -, rfl⟩ := polls.of_keyData arrived
    rw [rows_setSeat, if_pos rfl]
    exact placed_placeKeys _ side board.layout keys
  | went _ _ polls gone =>
    rw [before] at arrived
    obtain ⟨-, here, -⟩ := polls.of_keyData arrived
    cases here.symm.trans gone
  | stayed _ polls =>
    obtain ⟨⟨keys, rfl⟩, -, rfl⟩ := polls.of_keyData arrived
    rw [rows_setSeat, if_pos rfl]
    exact placed_placeKeys _ side board.layout keys

/-- The part of a scan's talk in which the half on one side is polled. -/
inductive Polled (board : Board) (said : Talk) : Side → Talk → Prop where
  | left {part rest : Talk} {event : Option BoardEvent} {mid : Board}
      (polls : Plays ((pollSide .left).run board) part (event, mid)) (split : said = part ++ rest) :
      Polled board said .left part
  | right {left part rest : Talk} {leftEvent event : Option BoardEvent} {mid polled : Board}
      (pollsLeft : Plays ((pollSide .left).run board) left (leftEvent, mid))
      (polls : Plays ((pollSide .right).run mid) part (event, polled))
      (split : said = left ++ (part ++ rest)) :
      Polled board said .right part

/-- A half whose key data arrived in a scan has it in the places of the layout before the scan. -/
theorem placed_of_polled {report : ScanReport} {part : Talk}
    (plays : Plays (scanCycle.run board) said (report, after)) (polled : Polled board said side part)
    (arrived : firstKeyData? part = some data) : Placed side board.layout data (after.rows side) := by
  obtain ⟨left, right, rest, leftEvent, rightEvent, mid, ready, rfl, first, second, rfl, later⟩ :=
    plays_scanCycle_cases plays
  have rows : ready.SameRows after := by
    split at later
    · exact (plays_startOver later).sameKeys.sameRows
    · rw [later.2]
      exact .refl ready
  rw [rows]
  -- the answers decide where a poll ends, so the part is that of the scan itself
  cases polled with
  | left polls split =>
    obtain ⟨rfl, -⟩ := first.unique polls split
    rw [rows_of_seat ((plays_pollSide second).seat_of_ne (by decide))]
    exact (plays_pollSide first).placed arrived
  | right pollsLeft polls split =>
    obtain ⟨rfl, same⟩ := first.unique pollsLeft split
    obtain ⟨-, rfl⟩ := Prod.mk.inj same
    obtain ⟨rfl, -⟩ := second.unique polls (List.append_cancel_left split)
    rw [← (plays_pollSide first).layout_eq]
    exact (plays_pollSide second).placed arrived

/-- **The keys of a half that was polled are in the places of the layout that the board had
before the scan**, so they are in those of the layout that it has afterwards exactly if that is the
same, or if the two keys that change places are alike. Only a scan in which a half comes can change
the layout. -/
theorem shows_iff_polled {report : ScanReport} {part : Talk}
    (does : Does board (.scan report said) after) (polled : Polled board said side part)
    (arrived : firstKeyData? part = some data) :
    after.Shows side board.layout data ∧
    (after.Shows side after.layout data ↔
      after.layout = board.layout ∨
        data.isPressedAt (crossed side).1 = data.isPressedAt (crossed side).2) ∧
    (report.events.any BoardEvent.isArrival = false → after.layout = board.layout) := by
  rw [shows_iff_placed, shows_iff_placed]
  cases does with
  | scan plays =>
    have placed := placed_of_polled plays polled arrived
    refine ⟨placed, ?_, (plays_scanCycle plays).layout_eq⟩
    by_cases same : after.layout = board.layout
    · rw [same]
      exact iff_of_true placed (.inl rfl)
    · rw [placed.iff_crossed same, or_iff_right same]

end Polling

/-! ## A layout that is learnt too late -/

/-- The first key data of both halves, and then the layout of an ANSI half. -/
def lateLayout : Script where
  replies := [[1, 0, 0, 0, 1, 0], [1, 0, 1, 0, 0, 0], [1], [0]]

/-- A new board scanned on this bus. -/
def lateScan : (ScanReport × Board) × Talk × Script :=
  (scanCycle.run (.new .raise)).transcribe Script.partner lateLayout

/-- What was said with the left half when it was polled. -/
def latePoll : Talk :=
  ((pollSide .left).run (.new .raise)).transcribe Script.partner lateLayout |>.2.1

/-- The rows that the left half sent. -/
def lateData : KeyRows halfRows halfCols := #v[0, 0, 0, 1, 0]

theorem does_lateScan : Does (.new .raise) (.scan lateScan.1.1 lateScan.2.1) lateScan.1.2 :=
  .scan (plays_transcribe _ _ _)

theorem polled_latePoll : Polled (.new .raise) lateScan.2.1 .left latePoll :=
  .left (plays_transcribe Script.partner _ lateLayout)
    (show _ = latePoll ++ lateScan.2.1.drop latePoll.length from rfl)

/-- A half may be shown with its keys in the places of another layout than the board has. -/
theorem keys_misplaced :
    ¬∀ (profile : Profile) (past : List Deed) (board after : Board) (report : ScanReport)
      (said part : Talk) (side : Side) (data : KeyRows halfRows halfCols),
      Reaches profile past board → Does board (.scan report said) after →
      Polled board said side part → firstKeyData? part = some data →
      after.Shows side after.layout data := by
  intro h
  have shown := h .raise [] (.new .raise) _ _ _ _ .left lateData .new does_lateScan
    polled_latePoll (by decide +kernel)
  -- the key came from column 0, which an ANSI half has wired to column 1
  exact absurd (shown.isPressed 3 1) (by decide +kernel)

/-- This scan, in which the layout changes and the two keys are not alike. -/
theorem shows_iff_polled_late :
    firstKeyData? latePoll = some lateData ∧ lateScan.1.2.Shows .left .iso lateData ∧
      ¬lateScan.1.2.Shows .left lateScan.1.2.layout lateData := by
  have arrived : firstKeyData? latePoll = some lateData := by decide +kernel
  obtain ⟨before, now, -⟩ := shows_iff_polled does_lateScan polled_latePoll arrived
  exact ⟨arrived, before, fun shown => absurd (now.mp shown) (by decide +kernel)⟩

end Board

end SplitBoard

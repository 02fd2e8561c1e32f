import SplitBoard.Proofs.BoardRun

/-!
# What an operation on the board leaves alone

Most operations work on the halves and leave the rest of the board as it was
(`Steady`), and most of them leave the state of the keys as it was (`SameRows`).
Both are chained along the pieces that an operation is made of.

**No work on the halves but polling them changes the state of a key.**
-/

namespace SplitBoard.Board

open Dialogue Bus

/-! ## All but the halves -/

/-- The halves apart, all is as it was. -/
structure Steady (board after : Board) : Prop where
  keyscanInterval : after.keyscanInterval = board.keyscanInterval
  online : ∀ side, (after.seat side).online = (board.seat side).online
  suspended : ∀ side, (after.seat side).suspended = (board.seat side).suspended

section Steady
variable {board mid after : Board} {said : Talk}

theorem Steady.refl (board : Board) : board.Steady board := ⟨rfl, fun _ => rfl, fun _ => rfl⟩

theorem Steady.trans (h : board.Steady mid) (h' : mid.Steady after) : board.Steady after where
  keyscanInterval := h'.keyscanInterval.trans h.keyscanInterval
  online side := (h'.online side).trans (h.online side)
  suspended side := (h'.suspended side).trans (h.suspended side)

theorem steady_mapHalf (board : Board) (side : Side) (f : Half → Half) :
    board.Steady (board.mapHalf side f) where
  keyscanInterval := keyscanInterval_mapHalf board side f
  online other := by
    rw [seat_mapHalf]
    split
    · rename_i same
      rw [same]
    · rfl
  suspended other := by
    rw [seat_mapHalf]
    split
    · rename_i same
      rw [same]
    · rfl

theorem steady_mapHalves (board : Board) (f : Half → Half) : board.Steady (board.mapHalves f) :=
  (steady_mapHalf board .left f).trans (steady_mapHalf _ .right f)

theorem steady_resendAll (board : Board) : board.Steady board.resendAll :=
  (steady_mapHalf board .left _).trans (steady_mapHalves _ _)

theorem steady_setLed (board : Board) (side : Side) (index : Nat) (color : Color) :
    board.Steady (board.setLed side index color) := by
  unfold setLed
  split
  · exact .refl board
  · exact steady_mapHalf board side _

theorem steady_fillSide (board : Board) (side : Side) (color : Color) :
    board.Steady (board.fillSide side color) :=
  fillSide_induction .refl .trans (fun board index => steady_setLed board side index color) board

theorem Acts.steady {α : Type} {side : Side} {op : HalfOp α} {result : Option (Except LinkError α)}
    (h : Acts side op board said result after) : board.Steady after := by
  cases h with
  | suspended => exact .refl board
  | active => exact steady_mapHalf board side _

theorem ActsBoth.steady {α : Type} {op : HalfOp α} {left right : Talk}
    (h : ActsBoth op board left right after) : board.Steady after := by
  obtain ⟨_, _, mid, first, second⟩ := h
  exact first.steady.trans second.steady

theorem StartsOver.steady (h : StartsOver board said after) : board.Steady after := by
  cases h with
  | @intro _ _ _ _ _ layout asked pushed asks _ pushes =>
    have settled : asked.Steady { asked with layout } :=
      ⟨rfl, fun side => by cases side <;> rfl, fun side => by cases side <;> rfl⟩
    exact ((asks.steady.trans settled).trans pushes.steady).trans (steady_resendAll pushed)

end Steady

/-! ## Keys -/

/-- On each side nothing is different about the keys. -/
def SameKeys (board after : Board) : Prop :=
  ∀ side, (after.half side).keys = (board.half side).keys

section SameKeys
variable {board mid after : Board} {said : Talk} {side : Side}

theorem SameKeys.refl (board : Board) : board.SameKeys board := fun _ => rfl

theorem SameKeys.trans (h : board.SameKeys mid) (h' : mid.SameKeys after) : board.SameKeys after :=
  fun side => (h' side).trans (h side)

theorem sameKeys_mapHalf {f : Half → Half} (same : (f (board.half side)).keys = (board.half side).keys) :
    board.SameKeys (board.mapHalf side f) := by
  intro other
  rw [half_mapHalf]
  split
  · next here => rw [here, same]
  · rfl

theorem sameKeys_resendAll (board : Board) : board.SameKeys board.resendAll := by
  have blanked : board.SameKeys (board.mapHalf .left fun half =>
      half.mapLeds (·.set board.profile.isoOnlyLed.toNat .black)) := sameKeys_mapHalf rfl
  exact (blanked.trans (sameKeys_mapHalf rfl)).trans (sameKeys_mapHalf rfl)

theorem Acts.sameKeys {α : Type} {op : HalfOp α} {allowed : List UInt8 → Prop}
    {result : Option (Except LinkError α)} (h : Acts side op board said result after)
    (moves : Half.Moves op allowed) : board.SameKeys after := by
  cases h with
  | suspended => exact .refl board
  | active _ plays => exact sameKeys_mapHalf (moves _ _ _ _ plays).1.keys_eq

theorem ActsBoth.sameKeys {α : Type} {op : HalfOp α} {allowed : List UInt8 → Prop}
    {left right : Talk} (h : ActsBoth op board left right after) (moves : Half.Moves op allowed) :
    board.SameKeys after := by
  obtain ⟨_, _, mid, first, second⟩ := h
  exact (first.sameKeys moves).trans (second.sameKeys moves)

theorem StartsOver.sameKeys (h : StartsOver board said after) : board.SameKeys after := by
  cases h with
  | @intro _ _ _ _ _ layout asked pushed asks _ pushes =>
    have settled : asked.SameKeys { asked with layout } := fun side => by cases side <;> rfl
    exact (((asks.sameKeys Half.moves_readLayout).trans settled).trans
      (pushes.sameKeys (Half.moves_send _))).trans (sameKeys_resendAll pushed)

end SameKeys

/-- The state of the keys of one half. -/
def rows (board : Board) (side : Side) : KeyRows halfRows halfCols :=
  (board.half side).keys.current

/-- On each side the keys are in the state that they were in. -/
def SameRows (board after : Board) : Prop :=
  ∀ side, after.rows side = board.rows side

section SameRows
variable {board mid after : Board} {said : Talk} {side : Side}

theorem SameRows.refl (board : Board) : board.SameRows board := fun _ => rfl

theorem SameRows.trans (h : board.SameRows mid) (h' : mid.SameRows after) : board.SameRows after :=
  fun side => (h' side).trans (h side)

theorem rows_of_seat (same : after.seat side = board.seat side) :
    after.rows side = board.rows side :=
  congrArg (fun seat : Seat => seat.half.keys.current) same

theorem rows_setSeat (board : Board) (side : Side) (seat : Seat) (other : Side) :
    (board.setSeat side seat).rows other =
      if other = side then seat.half.keys.current else board.rows other := by
  unfold rows
  rw [half_setSeat]
  split <;> rfl

theorem sameRows_setSeat {seat : Seat} (same : seat.half.keys.current = board.rows side) :
    board.SameRows (board.setSeat side seat) := by
  intro other
  rw [rows_setSeat]
  split
  · rename_i here
    rw [here, same]
  · rfl

theorem sameRows_mapHalf {f : Half → Half}
    (same : (f (board.half side)).keys.current = board.rows side) :
    board.SameRows (board.mapHalf side f) :=
  sameRows_setSeat same

theorem sameRows_mapHalves {f : Half → Half}
    (same : ∀ half, (f half).keys.current = half.keys.current) :
    board.SameRows (board.mapHalves f) :=
  (sameRows_mapHalf (same _)).trans (sameRows_mapHalf (same _))

theorem sameRows_setLed (board : Board) (side : Side) (index : Nat) (color : Color) :
    board.SameRows (board.setLed side index color) := by
  unfold setLed
  split
  · exact .refl board
  · exact sameRows_mapHalf rfl

theorem sameRows_fillSide (board : Board) (side : Side) (color : Color) :
    board.SameRows (board.fillSide side color) :=
  fillSide_induction .refl .trans (fun board index => sameRows_setLed board side index color) board

theorem SameKeys.sameRows (h : board.SameKeys after) : board.SameRows after :=
  fun side => congrArg Keys.current (h side)

theorem ActsBoth.sameRows {α : Type} {op : HalfOp α} {allowed : List UInt8 → Prop}
    {left right : Talk} (h : ActsBoth op board left right after) (moves : Half.Moves op allowed) :
    board.SameRows after :=
  (h.sameKeys moves).sameRows

theorem streams_keys {half half' : Half} {result : Except LinkError Bool}
    (h : Half.Streams half said result half') : half'.keys = half.keys := by
  cases h with
  | clean => rfl
  | sent _ sends => exact sends.moved.keys_eq
  | unsent _ sends => exact sends.moved.keys_eq

theorem sameRows_sync {left right : Talk}
    (acts : ActsBoth Half.sendNextDirtyBank board left right after) : board.SameRows after := by
  intro side
  unfold rows
  rcases streams_sync acts side with ⟨-, same⟩ | ⟨_, streams⟩
  · rw [same]
  · rw [streams_keys streams]

end SameRows

/-! ## Polling -/

section Polling
variable {board after : Board} {said : Talk} {side other : Side} {event : Option BoardEvent}

theorem PollsSide.layout_eq (h : PollsSide side board said event after) :
    after.layout = board.layout := by
  cases h with
  | suspended => rfl
  | came => exact layout_setSeat board side _
  | went => exact layout_setSeat board side _
  | stayed => exact layout_setSeat board side _

theorem PollsSide.seat_of_ne (h : PollsSide side board said event after) (ne : other ≠ side) :
    after.seat other = board.seat other := by
  cases h with
  | suspended => rfl
  | came => rw [seat_setSeat, if_neg ne]
  | went => rw [seat_setSeat, if_neg ne]
  | stayed => rw [seat_setSeat, if_neg ne]

/-- Either half is polled once, and what is noticed of it is noticed then. -/
theorem polls_of_side {left right : Talk} {leftEvent rightEvent : Option BoardEvent}
    {mid polled : Board} (pollsLeft : PollsSide .left board left leftEvent mid)
    (pollsRight : PollsSide .right mid right rightEvent polled) (side : Side) :
    ∃ start part event next, start.seat side = board.seat side ∧
      PollsSide side start part event next ∧ polled.seat side = next.seat side ∧
      ∀ e : BoardEvent, e.side = side →
        (e ∈ leftEvent.toList ++ rightEvent.toList ↔ event = some e) := by
  have foreign : ∀ {other : Side} {start next : Board} {part : Talk} {event : Option BoardEvent},
      PollsSide other start part event next → ∀ {e : BoardEvent}, e.side ≠ other →
      event ≠ some e := by
    rintro other start next part event polls e ne rfl
    exact ne polls.of_event.1
  cases side with
  | left =>
    refine ⟨board, left, leftEvent, mid, rfl, pollsLeft, pollsRight.seat_of_ne (by decide), ?_⟩
    intro e here
    rw [List.mem_append, Option.mem_toList, Option.mem_toList]
    exact or_iff_left (foreign pollsRight (by rw [here]; decide))
  | right =>
    refine ⟨mid, right, rightEvent, polled, pollsLeft.seat_of_ne (by decide), pollsRight, rfl, ?_⟩
    intro e here
    rw [List.mem_append, Option.mem_toList, Option.mem_toList]
    exact or_iff_right (foreign pollsLeft (by rw [here]; decide))

/-- Only a scan in which a half comes can change the layout. -/
theorem Scans.layout_eq {report : ScanReport} (h : Scans board said report after)
    (none : report.events.any BoardEvent.isArrival = false) : after.layout = board.layout := by
  cases h with
  | noticed pollsLeft pollsRight => exact pollsRight.layout_eq.trans pollsLeft.layout_eq
  | appeared _ _ some => cases some.symm.trans none

/-- What comes after the polls of a scan does not concern whether halves are there or their keys. -/
theorem Scans.polls {report : ScanReport} (h : Scans board said report after) :
    ∃ left right leftEvent rightEvent mid ready, PollsSide .left board left leftEvent mid ∧
      PollsSide .right mid right rightEvent ready ∧
      report.events = leftEvent.toList ++ rightEvent.toList ∧
      (∀ side, (after.seat side).online = (ready.seat side).online) ∧ ready.SameRows after := by
  cases h with
  | noticed pollsLeft pollsRight =>
    exact ⟨_, _, _, _, _, _, pollsLeft, pollsRight, rfl, fun _ => rfl, .refl after⟩
  | appeared pollsLeft pollsRight _ startsOver =>
    exact ⟨_, _, _, _, _, _, pollsLeft, pollsRight, rfl, startsOver.steady.online,
      startsOver.sameKeys.sameRows⟩

/-- Either half is polled once in a scan, and only its own event says that it came. -/
theorem Scans.polls_side {report : ScanReport} (h : Scans board said report after) (side : Side) :
    ∃ start part event polled, start.seat side = board.seat side ∧
      PollsSide side start part event polled ∧
      (after.seat side).online = (polled.seat side).online ∧ after.rows side = polled.rows side ∧
      (.connected side ∈ report.events ↔ event = some (.connected side)) := by
  obtain ⟨left, right, leftEvent, rightEvent, mid, ready, pollsLeft, pollsRight, events, online,
    rows⟩ := h.polls
  obtain ⟨start, part, event, polled, before, polls, same, noticed⟩ :=
    polls_of_side pollsLeft pollsRight side
  refine ⟨start, part, event, polled, before, polls, ?_, ?_, ?_⟩
  · rw [online, same]
  · exact (rows side).trans (rows_of_seat same)
  · rw [events]
    exact noticed (.connected side) rfl

end Polling

end SplitBoard.Board

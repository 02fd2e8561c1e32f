import SplitBoard.Bus.Script
import SplitBoard.Proofs.PolledKeys

/-!
# The keys of a half that is away

A half that goes has its keys released when this is noticed, and a half that is
flashed has them released before.  A half that is taken up again counts as away
from then on, with its keys as they were, and they stay so until it comes or is
flashed (`rows_of_resumed`): **a half that does not answer keeps a key pressed**
(`keys_stuck`).

There is no other way to a pressed key of a half that is away.  In every run such
a half was taken up again with a key pressed, and has neither come nor been
flashed since (`holds_iff_resumed`).
-/

namespace SplitBoard.Board

open Dialogue Bus

/-- A key of the half on one side is pressed. -/
def Holds (board : Board) (side : Side) : Prop :=
  ∃ row col, board.isPressed row (mainCol side col) = true

theorem not_holds_iff {board : Board} {side : Side} :
    ¬board.Holds side ↔ board.rows side = .released := by
  constructor
  · intro none
    refine KeyRows.eq_of_isPressed fun row col => ?_
    rw [KeyRows.isPressed_released]
    by_cases inside : col < halfCols
    · refine Bool.eq_false_iff.mpr fun pressed => none ⟨row, ⟨col, inside⟩, ?_⟩
      rw [isPressed_mainCol]
      exact pressed
    · exact KeyRows.isPressed_of_outside _ fun within => inside within.2
  · rintro released ⟨row, col, pressed⟩
    rw [isPressed_mainCol] at pressed
    have here : (board.rows side).isPressed row col = true := pressed
    rw [released, KeyRows.isPressed_released] at here
    cases here

/-! ## What a deed makes of one side -/

/-- The half on one side came, or it was flashed. -/
def Deed.renews (side : Side) : Deed → Bool
  | .scan report _ => decide (.connected side ∈ report.events)
  | .work (.flash other _) _ => decide (other = side)
  | _ => false

/-- Whether a side is there and which of its keys are pressed, before and after a deed. -/
inductive Course (side : Side) (board : Board) (deed : Deed) (after : Board) : Prop where
  | stayed (online : (after.seat side).online = (board.seat side).online)
      (rows : (board.seat side).online = false → after.rows side = board.rows side)
      (quiet : deed.renews side = false)
  | came (here : (after.seat side).online = true) (renews : deed.renews side = true)
  | went (here : (board.seat side).online = true) (gone : (after.seat side).online = false)
      (released : after.rows side = .released)
  | resumed (resumes : ∃ said, deed = .work (.resume side) said)
      (gone : (after.seat side).online = false) (rows : after.rows side = board.rows side)
  | flashed (gone : (after.seat side).online = false) (released : after.rows side = .released)
      (renews : deed.renews side = true)

section Courses
variable {board after : Board} {deed : Deed} {said : Talk} {side : Side}

/-- Of a half that stays away no keys are read. -/
theorem polls_of_offline {half half' : Half} {result : Except LinkError (Keys halfRows halfCols)}
    (h : Half.Polls half said result half') (away : half'.online = false) (layout : KeyLayout) :
    (half'.placeKeys side layout result).keys = half.keys := by
  cases h with
  | unavailable consults => exact consults.moved.keys_eq
  | bad consults => exact consults.moved.keys_eq
  | good => cases away

theorem Scans.course {report : ScanReport} (h : Scans board said report after) (side : Side) :
    Course side board (.scan report said) after := by
  obtain ⟨start, part, event, polled, before, polls, online, rows, events⟩ := h.polls_side side
  have renews : (Deed.scan report said).renews side = true ↔ event = some (.connected side) :=
    decide_eq_true_iff.trans events
  have unread : start.rows side = board.rows side := rows_of_seat before
  cases polls with
  | suspended =>
    refine .stayed ?_ (fun _ => rows.trans unread) (by simpa using renews)
    rw [online, before]
  | came =>
    refine .came ?_ (renews.mpr rfl)
    rw [online, seat_setSeat, if_pos rfl]
  | went _ here =>
    refine .went ?_ ?_ ?_
    · rw [← before, here]
    · rw [online, seat_setSeat, if_pos rfl]
    · rw [rows, rows_setSeat, if_pos rfl]
      rfl
  | stayed _ reads same =>
    refine .stayed ?_ (fun away => ?_) (by simpa using renews)
    · rw [online, seat_setSeat, if_pos rfl, before]
    · rw [← before] at away
      rw [rows, rows_setSeat, if_pos rfl, polls_of_offline reads (same.trans away)]
      exact unread

theorem sameRows_resume (board : Board) (side : Side) : board.SameRows (board.resume side) :=
  sameRows_setSeat rfl

theorem online_resume (board : Board) (side : Side) :
    ((board.resume side).seat side).online = false := by
  rw [Board.resume, seat_setSeat, if_pos rfl]

theorem keys_halfAfter (half : Half) (result : Except Firmware.Failure Firmware.Report) :
    (Firmware.halfAfter half result).keys = half.keys := by
  unfold Firmware.halfAfter
  split <;> rfl

/-- A deed other than those with a course of their own leaves the side as it was. -/
theorem Course.of_steady (steady : board.Steady after) (same : board.SameRows after)
    (quiet : deed.renews side = false) : Course side board deed after :=
  .stayed (steady.online side) (fun _ => same side) quiet

theorem Effect.course (h : Effect board deed after) (side : Side) :
    Course side board deed after := by
  cases h with
  | scan scans => exact scans.course side
  | sync acts => exact .of_steady acts.steady (sameRows_sync acts) rfl
  | @setKeyscanInterval interval _ _ _ acts =>
    -- the interval is set first, which concerns no half
    have before : Board.seat { board with keyscanInterval := interval } side = board.seat side := by
      cases side <;> rfl
    refine .stayed ?_ (fun _ => (acts.sameRows (Half.moves_send _) side).trans ?_) rfl
    · rw [acts.steady.online, before]
    · exact rows_of_seat before
  | setSledCurrent acts => exact .of_steady acts.steady (acts.sameRows (Half.moves_send _)) rfl
  | versions acts => exact .of_steady acts.steady (acts.sameRows (Half.moves_readRegister _)) rfl
  | setLed other index color =>
    exact .of_steady (steady_setLed board other index color)
      (sameRows_setLed board other index color) rfl
  | fill color =>
    exact .of_steady ((steady_fillSide board .left color).trans (steady_fillSide _ .right color))
      ((sameRows_fillSide board .left color).trans (sameRows_fillSide _ .right color)) rfl
  | setBrightness =>
    exact .of_steady (steady_mapHalves board _) (sameRows_mapHalves fun _ => rfl) rfl
  | acknowledge => exact .of_steady (steady_mapHalves board _) (sameRows_mapHalves fun _ => rfl) rfl
  | suspend other =>
    have same : board.SameRows (board.suspend other) := sameRows_setSeat rfl
    refine .stayed ?_ (fun _ => same side) rfl
    rw [Board.suspend, seat_setSeat]
    split
    · rename_i here
      rw [here]
    · rfl
  | resume other =>
    by_cases here : side = other
    · subst here
      exact .resumed ⟨[], rfl⟩ (online_resume board side) (sameRows_resume board side side)
    · refine .stayed ?_ (fun _ => sameRows_resume board other side) rfl
      rw [Board.resume, seat_setSeat, if_neg here]
  | @flash other image _ result =>
    by_cases here : side = other
    · subst here
      refine .flashed ?_ ?_ (decide_eq_true rfl)
      · rw [seat_setSeat, if_pos rfl]
      · rw [rows_setSeat, if_pos rfl]
        exact congrArg Keys.current (keys_halfAfter _ result)
    · refine .stayed ?_ (fun _ => ?_) (decide_eq_false (Ne.symm here))
      · rw [seat_setSeat, if_neg here]
      · rw [rows_setSeat, if_neg here]

/-- A half that is away with a key pressed was just taken up again, or it was so already. -/
theorem Course.of_holds (h : Course side board deed after)
    (away : (after.seat side).online = false) (held : after.Holds side) :
    board.Holds side ∧ ((∃ said, deed = .work (.resume side) said) ∨
      (board.seat side).online = false ∧ deed.renews side = false) := by
  have pressed : after.rows side ≠ .released := fun released => not_holds_iff.mpr released held
  have holds_of_same : after.rows side = board.rows side → board.Holds side := fun same =>
    not_not.mp fun none => pressed (same.trans (not_holds_iff.mp none))
  cases h with
  | stayed online rows quiet =>
    have before : (board.seat side).online = false := online.symm.trans away
    exact ⟨holds_of_same (rows before), .inr ⟨before, quiet⟩⟩
  | came here => cases here.symm.trans away
  | went _ _ released => exact absurd released pressed
  | resumed resumes _ rows => exact ⟨holds_of_same rows, .inl resumes⟩
  | flashed _ released => exact absurd released pressed

/-- Until it comes or is flashed, a half stays away and its keys as they are. -/
theorem Course.of_away (h : Course side board deed after)
    (away : (board.seat side).online = false) (quiet : deed.renews side = false) :
    (after.seat side).online = false ∧ after.rows side = board.rows side := by
  cases h with
  | stayed online rows => exact ⟨online.trans away, rows away⟩
  | came _ renews => cases renews.symm.trans quiet
  | went here => cases here.symm.trans away
  | resumed _ gone rows => exact ⟨gone, rows⟩
  | flashed _ _ renews => cases renews.symm.trans quiet

end Courses

/-! ## Runs -/

/-- A half was taken up again with a key pressed, and has neither come nor been flashed since. -/
def ResumedHolding (profile : Profile) (past : List Deed) (side : Side) : Prop :=
  ∃ later earlier said before, past = later ++ .work (.resume side) said :: earlier ∧
    Reaches profile earlier before ∧ before.Holds side ∧
    ∀ deed ∈ later, deed.renews side = false

section Runs
variable {profile : Profile} {past later : List Deed} {board : Board} {side : Side}

theorem resumedHolding_of_holds (reaches : Reaches profile past board)
    (away : (board.seat side).online = false) (held : board.Holds side) :
    ResumedHolding profile past side := by
  induction reaches with
  | new =>
    have released : (Board.new profile).rows side = .released := by cases side <;> rfl
    exact absurd held (not_holds_iff.mpr released)
  | @step past board after deed reaches does ih =>
    obtain ⟨before, ⟨said, rfl⟩ | ⟨gone, quiet⟩⟩ :=
      ((does_effect does).course side).of_holds away held
    · exact ⟨[], past, said, board, rfl, reaches, before, nofun⟩
    · obtain ⟨later, earlier, said, start, rfl, reaches', held', silent⟩ := ih gone before
      exact ⟨deed :: later, earlier, said, start, rfl, reaches', held',
        List.forall_mem_cons.mpr ⟨quiet, silent⟩⟩

/-- What is done after a half was taken up again leaves it away, and its keys as they were. -/
theorem rows_of_resumed {earlier : List Deed} {said : Talk} {before : Board}
    (reaches : Reaches profile (later ++ .work (.resume side) said :: earlier) board)
    (start : Reaches profile earlier before) (silent : ∀ deed ∈ later, deed.renews side = false) :
    (board.seat side).online = false ∧ board.rows side = before.rows side := by
  induction later generalizing board with
  | nil =>
    cases reaches with
    | step reaches does =>
      obtain rfl := start.unique reaches
      cases does_effect does with
      | resume => exact ⟨online_resume before side, sameRows_resume before side side⟩
  | cons deed later ih =>
    cases reaches with
    | step reaches does =>
      obtain ⟨quiet, silent⟩ := List.forall_mem_cons.mp silent
      obtain ⟨away, same⟩ := ih reaches silent
      obtain ⟨gone, rows⟩ := ((does_effect does).course side).of_away away quiet
      exact ⟨gone, rows.trans same⟩

/-- **A half that is away has a key pressed exactly if it was taken up again with a key pressed**,
and has neither come nor been flashed since; otherwise none of its keys are. -/
theorem holds_iff_resumed (reaches : Reaches profile past board)
    (away : (board.seat side).online = false) :
    (board.Holds side ↔ ResumedHolding profile past side) ∧
      (board.rows side = .released ↔ ¬ResumedHolding profile past side) := by
  have holds : board.Holds side ↔ ResumedHolding profile past side := by
    refine ⟨resumedHolding_of_holds reaches away, ?_⟩
    rintro ⟨later, earlier, said, before, rfl, start, held, silent⟩
    obtain ⟨-, rows⟩ := rows_of_resumed reaches start silent
    refine not_not.mp fun none => not_holds_iff.mpr ?_ held
    rw [← rows]
    exact not_holds_iff.mp none
  exact ⟨holds, not_holds_iff.symm.trans (not_congr holds)⟩

end Runs

/-! ## A key that stays pressed -/

/-- Both halves come, the left one with a key pressed, and later the left one does not answer. -/
def fallingSilentBus : Script where
  statuses := List.replicate 6 .complete ++ [.addressNack]
  replies := [[1, 1, 0, 0, 0, 0], [1, 0, 0, 0, 0, 0], [0], [0], [1, 0, 0, 0, 0, 0]]

/-- The left half is left alone and taken up again. -/
def takenUpAgain : List Deed × Board × Script :=
  history Script.partner .raise fallingSilentBus
    [.work (.resume .left), .work (.suspend .left), .work .acknowledge, .scan]

/-- A half that is away when a scan returns may have a pressed key. -/
theorem keys_stuck :
    ¬∀ (profile : Profile) (past : List Deed) (board after : Board) (report : ScanReport)
      (said : Talk) (side : Side),
      Reaches profile past board → Does board (.scan report said) after →
      (after.seat side).suspended = false → (after.seat side).online = false →
      after.rows side = .released ∧
        ∀ row col, after.isPressed row (mainCol side col) = false := by
  intro h
  -- the probe is refused, and the half was away before, so nothing is noticed
  have released := h .raise takenUpAgain.1 takenUpAgain.2.1 _ _ _ .left
    (reaches_history Script.partner .raise fallingSilentBus _)
    (.scan (plays_transcribe Script.partner _ takenUpAgain.2.2)) (by decide +kernel)
    (by decide +kernel)
  exact absurd (released.2 0 0) (by decide +kernel)

/-- The left half in this run, after the last scan. -/
theorem holds_iff_resumed_silent :
    let run := history Script.partner .raise fallingSilentBus
      [.scan, .work (.resume .left), .work (.suspend .left), .work .acknowledge, .scan]
    (run.2.1.seat .left).online = false ∧ run.2.1.Holds .left ∧
      ResumedHolding .raise run.1 .left := by
  intro run
  have away : (run.2.1.seat .left).online = false := by decide +kernel
  have held : run.2.1.Holds .left := ⟨0, 0, by decide +kernel⟩
  exact ⟨away, held, (holds_iff_resumed (reaches_history Script.partner .raise fallingSilentBus _)
    away).1.mp held⟩

end SplitBoard.Board

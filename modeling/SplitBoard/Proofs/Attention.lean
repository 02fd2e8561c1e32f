import SplitBoard.Proofs.Availability
import SplitBoard.Proofs.BoardRun

/-!
# Whom the board talks to

An operation on one half talks with that half (`Half.Confined`), and work on the
board is made of such operations, each behind a look at whether the half is
suspended.  **So only halves that are not suspended are talked to, and of the
others nothing changes but their colors** (`Respects`).

This is chained along the pieces that a piece of work is made of, as what it
leaves alone is.
-/

namespace SplitBoard

open Dialogue Bus

namespace Half

/-! ## One half -/

/-- Whatever the bus does, the operation talks with its own half, and the half keeps its address. -/
def Confined {α : Type} (op : HalfOp α) : Prop :=
  ∀ (half half' : Half) (said : Talk) (result : Except LinkError α),
    Plays (perform op half) said (result, half') →
    half'.address = half.address ∧
      ∀ e ∈ said, ∀ address, e.request.address? = some address → address = half.address

section Confined
variable {α : Type} {op : HalfOp α} {half half' : Half} {said : Talk}

theorem Attempts.address_kept {request? : Option (List UInt8)} {error? : Option LinkError}
    (h : Attempts request? half said error? half') : half'.address = half.address := by
  cases h with
  | unavailable consults => exact consults.moved.address_eq
  | failed consults => exact consults.moved.address_eq
  | served consults => exact consults.moved.address_eq

theorem Attempting.confined {request? : Half → Option (List UInt8)}
    (h : Attempting op request?) : Confined op := by
  intro half half' said result plays
  have attempts := h half half' said result plays
  exact ⟨attempts.address_kept, attempts.address_eq⟩

theorem confined_send (request : List UInt8) : Confined (send request) :=
  (attempting_send request).confined

theorem confined_readRegister (command : UInt8) : Confined (readRegister command) :=
  (attempting_readRegister command).confined

theorem confined_readLayout : Confined readLayout :=
  ((attempting_readRegister Command.layout).map _).confined

/-- It makes no difference to the address whose turn it is, or which bank is clean. -/
theorem confined_sendNextDirtyBank : Confined sendNextDirtyBank := by
  intro half half' said result plays
  have silent : ∀ bank, Request.address? (.tell (.sendingBank bank half.address)) = none :=
    fun _ => rfl
  cases plays_sendNextDirtyBank plays with
  | clean => exact ⟨rfl, nofun⟩
  | sent _ sends =>
    refine ⟨sends.moved.address_eq, List.forall_mem_cons.mpr ⟨?_, sends.attempts.address_eq⟩⟩
    intro address here
    cases (silent _).symm.trans here
  | unsent _ sends =>
    refine ⟨sends.moved.address_eq, List.forall_mem_cons.mpr ⟨?_, sends.attempts.address_eq⟩⟩
    intro address here
    cases (silent _).symm.trans here

end Confined

end Half

/-! ## The board -/

/-- The same side in other colors. -/
def Seat.recolor (seat : Seat) (leds : LedBuffer) : Seat :=
  { seat with half := seat.half.mapLeds fun _ => leds }

@[simp] theorem Seat.recolor_recolor (seat : Seat) (leds leds' : LedBuffer) :
    (seat.recolor leds).recolor leds' = seat.recolor leds' := rfl

namespace Board

/-- Only halves that are not suspended are talked to, and the others stay as they are, except for
their colors. -/
structure Respects (board : Board) (said : Talk) (after : Board) : Prop where
  suspended : ∀ side, (after.seat side).suspended = (board.seat side).suspended
  address : ∀ side, (after.half side).address = (board.half side).address
  spoken : ∀ e ∈ said, ∀ address, e.request.address? = some address →
    ∃ side, (board.seat side).suspended = false ∧ address = (board.half side).address
  kept : ∀ side, (board.seat side).suspended = true →
    ∃ leds, after.seat side = (board.seat side).recolor leds

section Respects
variable {board mid after : Board} {said first second : Talk} {side : Side}

/-- As long as no side changes, it does not matter what does. -/
theorem respects_of_seat_eq (same : ∀ side, after.seat side = board.seat side)
    (quiet : ∀ e ∈ said, e.request.address? = none) : board.Respects said after where
  suspended side := congrArg Seat.suspended (same side)
  address side := congrArg (fun seat : Seat => seat.half.address) (same side)
  spoken e member address here := by cases (quiet e member).symm.trans here
  kept side _ := ⟨(board.half side).leds, same side⟩

theorem Respects.refl (board : Board) : board.Respects [] board :=
  respects_of_seat_eq (fun _ => rfl) nofun

theorem Respects.append (h : board.Respects first mid) (h' : mid.Respects second after) :
    board.Respects (first ++ second) after where
  suspended side := (h'.suspended side).trans (h.suspended side)
  address side := (h'.address side).trans (h.address side)
  spoken := by
    refine List.forall_mem_append.mpr ⟨h.spoken, fun e member address here => ?_⟩
    obtain ⟨side, active, same⟩ := h'.spoken e member address here
    exact ⟨side, (h.suspended side).symm.trans active, same.trans (h.address side)⟩
  kept side suspended := by
    obtain ⟨_, before⟩ := h.kept side suspended
    obtain ⟨leds, later⟩ := h'.kept side ((h.suspended side).trans suspended)
    refine ⟨leds, later.trans ?_⟩
    rw [before, Seat.recolor_recolor]

theorem respects_setSeat {seat : Seat} (active : (board.seat side).suspended = false)
    (same : seat.suspended = false) (address : seat.half.address = (board.half side).address)
    (spoken : ∀ e ∈ said, ∀ address, e.request.address? = some address →
      address = (board.half side).address) :
    board.Respects said (board.setSeat side seat) where
  suspended other := by
    rw [seat_setSeat]
    split
    · next here => rw [here, same, active]
    · rfl
  address other := by
    rw [half_setSeat]
    split
    · next here => rw [here, address]
    · rfl
  spoken e member address here := ⟨side, active, spoken e member address here⟩
  kept other suspended := by
    have ne : other ≠ side := by
      rintro rfl
      cases active.symm.trans suspended
    refine ⟨(board.half other).leds, ?_⟩
    rw [seat_setSeat, if_neg ne]
    rfl

/-- Colors may change on any side. -/
theorem respects_mapLeds (board : Board) (side : Side) (f : LedBuffer → LedBuffer) :
    board.Respects [] (board.mapHalf side fun half => half.mapLeds f) where
  suspended other := by
    rw [seat_mapHalf]
    split
    · next here => rw [here]
    · rfl
  address other := by
    rw [half_mapHalf]
    split
    · next here =>
      rw [here]
      rfl
    · rfl
  spoken := nofun
  kept other _ := by
    rw [seat_mapHalf]
    split
    · next here =>
      rw [here]
      exact ⟨f (board.half side).leds, rfl⟩
    · exact ⟨(board.half other).leds, rfl⟩

theorem respects_resendAll (board : Board) : board.Respects [] board.resendAll :=
  (respects_mapLeds board .left _).append
    ((respects_mapLeds _ .left _).append (respects_mapLeds _ .right _))

/-! ## Pieces of work -/

variable {α : Type} {op : HalfOp α}

theorem Acts.respects {result : Option (Except LinkError α)}
    (h : Acts side op board said result after) (confined : Half.Confined op) :
    board.Respects said after := by
  cases h with
  | suspended => exact .refl board
  | active active plays =>
    obtain ⟨address, spoken⟩ := confined _ _ _ _ plays
    exact respects_setSeat active active address spoken

/-- A half that is suspended gives no result. -/
theorem Acts.eq_none {result : Option (Except LinkError α)}
    (h : Acts side op board said result after) (suspended : (board.seat side).suspended = true) :
    result = none := by
  cases h with
  | suspended => rfl
  | active active => cases active.symm.trans suspended

theorem ActsBoth.respects {left right : Talk} (h : ActsBoth op board left right after)
    (confined : Half.Confined op) : board.Respects (left ++ right) after := by
  obtain ⟨_, _, mid, first, second⟩ := h
  exact (first.respects confined).append (second.respects confined)

/-- A half is polled at its own address. -/
theorem PollsSide.spoken {event : Option BoardEvent} (h : PollsSide side board said event after) :
    ∀ e ∈ said, ∀ address, e.request.address? = some address →
      address = (board.half side).address := by
  -- what is noted behind a poll is not said on the bus
  have noted : ∀ (note : Note) (e : Exchange vocabulary), e ∈ [⟨.tell note, ()⟩] →
      ∀ address, e.request.address? = some address → address = (board.half side).address := by
    intro note e member address here
    rw [List.mem_singleton.mp member] at here
    cases here
  cases h with
  | suspended => exact nofun
  | came _ _ polls => exact List.forall_mem_append.mpr ⟨polls.attempts.address_eq, noted _⟩
  | went _ _ polls => exact List.forall_mem_append.mpr ⟨polls.attempts.address_eq, noted _⟩
  | stayed _ polls => exact polls.attempts.address_eq

theorem PollsSide.respects {event : Option BoardEvent} (h : PollsSide side board said event after) :
    board.Respects said after := by
  have spoken := h.spoken
  have placed : ∀ {half : Half} {result : Except LinkError (Keys halfRows halfCols)},
      (half.placeKeys side board.layout result).address = half.address := by
    intro half result
    rw [placeKeys_eq]
    rfl
  cases h with
  | suspended => exact .refl board
  | came active _ polls =>
    exact respects_setSeat active active (placed.trans polls.attempts.address_kept) spoken
  | went active _ polls =>
    exact respects_setSeat active active (placed.trans polls.attempts.address_kept) spoken
  | stayed active polls =>
    exact respects_setSeat active active (placed.trans polls.attempts.address_kept) spoken

theorem StartsOver.respects (h : StartsOver board said after) : board.Respects said after := by
  cases h with
  | @intro _ _ notes _ _ layout asked pushed asks quiet pushes =>
    have settled : asked.Respects notes { asked with layout } :=
      respects_of_seat_eq (fun side => by cases side <;> rfl) quiet
    have told := (pushes.respects (Half.confined_send _)).append (respects_resendAll pushed)
    rw [List.append_nil] at told
    exact (asks.respects Half.confined_readLayout).append (settled.append told)

/-- Nothing is noticed of a half that is suspended. -/
theorem Scans.active_of_event {report : ScanReport} (h : Scans board said report after)
    {event : BoardEvent} (noticed : event ∈ report.events) :
    (board.seat event.side).suspended = false := by
  have polled : ∀ {left right : Talk} {leftEvent rightEvent : Option BoardEvent}
      {mid after : Board},
      PollsSide .left board left leftEvent mid → PollsSide .right mid right rightEvent after →
      event ∈ leftEvent.toList ++ rightEvent.toList →
      (board.seat event.side).suspended = false := by
    intro left right leftEvent rightEvent mid after pollsLeft pollsRight member
    rcases List.mem_append.mp member with first | second
    · obtain rfl := Option.mem_toList.mp first
      obtain ⟨side, active⟩ := pollsLeft.of_event
      rw [side, active]
    · obtain rfl := Option.mem_toList.mp second
      obtain ⟨side, active⟩ := pollsRight.of_event
      rw [side, ← pollsLeft.respects.suspended, active]
  cases h with
  | noticed pollsLeft pollsRight => exact polled pollsLeft pollsRight noticed
  | appeared pollsLeft pollsRight => exact polled pollsLeft pollsRight noticed

theorem Scans.respects {report : ScanReport} (h : Scans board said report after) :
    board.Respects said after := by
  cases h with
  | noticed pollsLeft pollsRight => exact pollsLeft.respects.append pollsRight.respects
  | appeared pollsLeft pollsRight _ startsOver =>
    exact (pollsLeft.respects.append pollsRight.respects).append startsOver.respects

end Respects

end Board

end SplitBoard

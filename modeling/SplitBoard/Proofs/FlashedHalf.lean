import SplitBoard.Bus.Script
import SplitBoard.Proofs.Attention
import SplitBoard.Proofs.KeyChanges
import SplitBoard.Proofs.ReleasedKeys

/-!
# What flashing leaves behind

An update can end in many ways, and the board goes on from all of them alike: the
half that was flashed is taken up again as one that is away, with its keys
released and its colors as they were, and only a wrong check value leaves a trace
besides (`flashed_of_plays`).  **The next scan begins with a probe of it**, as far
as it is concerned (`ProbesFirst`).
-/

namespace SplitBoard

open Dialogue Bus

/-! ## Counting wrong check values -/

namespace Firmware

/-- The check value read back was not that of the image. -/
def IsMismatch (result : Except Failure Report) : Prop :=
  ∃ expected actual, result = .error (.mismatch expected actual)

instance (result : Except Failure Report) : Decidable (IsMismatch result) :=
  match result with
  | .error (.mismatch expected actual) => .isTrue ⟨expected, actual, rfl⟩
  | .error .invalidImage => .isFalse nofun
  | .error .noReport => .isFalse nofun
  | .error .eraseRefused => .isFalse nofun
  | .error (.pageRefused _) => .isFalse nofun
  | .error .silentAfterwards => .isFalse nofun
  | .error .executeRefused => .isFalse nofun
  | .ok _ => .isFalse nofun

/-- The count goes up by one, as far as it goes. -/
theorem toNat_recordCrcError (half : Half) :
    half.recordCrcError.crcErrors.toNat = min (half.crcErrors.toNat + 1) 65535 := by
  have bound : half.crcErrors.toNat < 65536 := half.crcErrors.toNat_lt
  unfold Half.recordCrcError
  by_cases full : half.crcErrors = 0xFFFF
  · rw [full]
    rfl
  · have small : half.crcErrors.toNat ≠ 65535 := fun here => full (UInt16.toNat_inj.mp here)
    dsimp only
    rw [if_neg full, UInt16.toNat_add, show (1 : UInt16).toNat = 1 from rfl]
    omega

/-- Besides being probed next, a half remembers only a wrong check value of its update. -/
theorem halfAfter_eq (half : Half) (result : Except Failure Report) :
    halfAfter half result =
      (if IsMismatch result then half.recordCrcError else half).markUnavailable := by
  by_cases wrong : IsMismatch result
  · rw [if_pos wrong]
    obtain ⟨expected, actual, rfl⟩ := wrong
    rfl
  · rw [if_neg wrong]
    unfold halfAfter
    split
    · next expected actual => exact absurd ⟨expected, actual, rfl⟩ wrong
    · rfl

end Firmware

namespace Half

/-! ## The next poll -/

variable {half half' : Half} {said : Talk}

theorem Consults.probe {available : Bool} (h : Consults half said available half')
    (due : half.countdown = 1) :
    ∃ (status : Transmission) (rest : Talk), said = ⟨.write half.address [], status⟩ :: rest := by
  rcases h.of_countdown_eq_one due with ⟨-, rfl⟩ | ⟨-, status, -, rfl, -⟩
  · exact ⟨.complete, _, rfl⟩
  · exact ⟨status, _, rfl⟩

/-- A half that is due is probed before anything else is said with it. -/
theorem Polls.probe {result : Except LinkError (Keys halfRows halfCols)}
    (h : Polls half said result half') (due : half.countdown = 1) :
    ∃ (status : Transmission) (rest : Talk), said = ⟨.write half.address [], status⟩ :: rest := by
  cases h with
  | unavailable consults => exact consults.probe due
  | bad consults =>
    obtain ⟨status, rest, rfl⟩ := consults.probe due
    exact ⟨status, _, rfl⟩
  | good consults =>
    obtain ⟨status, rest, rfl⟩ := consults.probe due
    exact ⟨status, _, rfl⟩

end Half

namespace Board

/-! ## The next scan -/

/-- What is said begins with a probe of the half on one side, after no more than what is said with
the other half. -/
def ProbesFirst (board : Board) (side : Side) (said : Talk) : Prop :=
  ∃ (others rest : Talk) (status : Transmission),
    said = others ++ ⟨.write (board.half side).address [], status⟩ :: rest ∧
    ∀ e ∈ others, ∀ address, e.request.address? = some address →
      side = .right ∧ address = (board.half side.other).address

section Probe
variable {board after : Board} {said : Talk} {side : Side}

theorem PollsSide.probe {event : Option BoardEvent} (h : PollsSide side board said event after)
    (active : (board.seat side).suspended = false) (due : (board.half side).countdown = 1) :
    ∃ (status : Transmission) (rest : Talk),
      said = ⟨.write (board.half side).address [], status⟩ :: rest := by
  cases h with
  | suspended suspended => cases active.symm.trans suspended
  | came _ _ polls =>
    obtain ⟨status, rest, rfl⟩ := polls.probe due
    exact ⟨status, _, rfl⟩
  | went _ _ polls =>
    obtain ⟨status, rest, rfl⟩ := polls.probe due
    exact ⟨status, _, rfl⟩
  | stayed _ polls => exact polls.probe due

theorem probesFirst_scan {report : ScanReport}
    (plays : Plays (scanCycle.run board) said (report, after))
    (active : (board.seat side).suspended = false) (due : (board.half side).countdown = 1) :
    board.ProbesFirst side said := by
  obtain ⟨left, right, rest, _, _, mid, _, rfl, first, second, -, -⟩ := plays_scanCycle_cases plays
  have pollsLeft := plays_pollSide first
  cases side with
  | left =>
    obtain ⟨status, later, rfl⟩ := pollsLeft.probe active due
    exact ⟨[], _, status, rfl, nofun⟩
  | right =>
    -- the left half has its turn before, and the right one is as it was
    have same : mid.seat .right = board.seat .right := pollsLeft.seat_of_ne (by decide)
    have half : mid.half .right = board.half .right := congrArg Seat.half same
    obtain ⟨status, later, rfl⟩ := (plays_pollSide second).probe (by rw [same, active])
      (by rw [half, due])
    refine ⟨left, later ++ rest, status, by rw [half]; rfl, fun e member address here => ⟨rfl, ?_⟩⟩
    exact pollsLeft.spoken e member address here

end Probe

/-! ## Flashing -/

/-- What became of a board by flashing the half on one side. -/
structure Flashed (side : Side) (board : Board) (said : Talk)
    (result : Except Firmware.Failure Firmware.Report) (after : Board) : Prop where
  /-- The half is taken up again, as one that is away and is probed next. -/
  active : (after.seat side).suspended = false
  away : (after.seat side).online = false
  offline : (after.half side).online = false
  due : (after.half side).countdown = 1
  /-- Its keys are released, and the release of each key that was seen pressed is reported once. -/
  released : (after.half side).keys.current = .released
  acknowledged : (after.half side).keys.acknowledged = (board.half side).keys.acknowledged
  transitions : ∀ row col pressed,
    after.transitions.count ⟨row, mainCol side col, pressed⟩ =
      if pressed = false ∧ (board.half side).keys.wasPressed row col = true then 1 else 0
  /-- Its colors are as they were, with what is to be sent of them, and its brightness is. -/
  leds : (after.half side).leds = (board.half side).leds
  brightness : (after.half side).brightness = (board.half side).brightness
  /-- A wrong check value is counted, as far as the count goes. -/
  crcErrors : (after.half side).crcErrors.toNat =
    if Firmware.IsMismatch result then min ((board.half side).crcErrors.toNat + 1) 65535
    else (board.half side).crcErrors.toNat
  /-- Nothing else is touched. -/
  other : after.seat side.other = board.seat side.other
  layout : after.layout = board.layout
  keyscanInterval : after.keyscanInterval = board.keyscanInterval
  /-- Only the bootloader of the half is talked to. -/
  spoken : ∀ e ∈ said, ∀ address, e.request.address? = some address →
    address = (board.half side).bootloaderAddress
  /-- A scan that follows begins with a probe of the half, as far as it is concerned. -/
  probed : ∀ (later : Talk) (report : ScanReport) (scanned : Board),
    Plays (scanCycle.run after) later (report, scanned) → after.ProbesFirst side later

/-- **Every update leaves the half in the same state**, whatever came of it and whatever the bus
answered: it is away and probed next, with its keys released and all else as it was, but for the
count of wrong check values. -/
theorem flashed_of_plays {side : Side} {image : Firmware.Image} {board after : Board} {said : Talk}
    {result : Except Firmware.Failure Firmware.Report}
    (plays : Plays ((flash side image).run board) said (result, after)) :
    Flashed side board said result after := by
  obtain ⟨rest, session, rfl, updates, rfl⟩ := plays_flash_cases plays
  have left := Firmware.halfAfter_eq ((board.half side).mapKeys Keys.clear) result
  have keys : (Firmware.halfAfter ((board.half side).mapKeys Keys.clear) result).keys =
      (board.half side).keys.clear := keys_halfAfter _ result
  generalize Firmware.halfAfter ((board.half side).mapKeys Keys.clear) result = half' at left keys ⊢
  have seat : (board.setSeat side { half := half'.markUnavailable }).seat side =
      { half := half'.markUnavailable } := by
    rw [seat_setSeat, if_pos rfl]
  have half : (board.setSeat side { half := half'.markUnavailable }).half side =
      half'.markUnavailable := congrArg Seat.half seat
  constructor
  case active => rw [seat]
  case away => rw [seat]
  case offline =>
    rw [half]
    rfl
  case due =>
    rw [half]
    rfl
  case released =>
    rw [half]
    change half'.keys.current = _
    rw [keys]
    rfl
  case acknowledged =>
    rw [half]
    change half'.keys.acknowledged = _
    rw [keys]
    rfl
  case transitions =>
    intro row col pressed
    rw [count_transitions, half]
    have now : half'.markUnavailable.keys.isPressed row col = false := by
      change half'.keys.isPressed row col = false
      rw [keys]
      exact KeyRows.isPressed_released _ _
    have before : half'.markUnavailable.keys.wasPressed row col =
        (board.half side).keys.wasPressed row col := by
      change half'.keys.wasPressed row col = _
      rw [keys]
      rfl
    rw [now, before]
    cases pressed <;> simp
  case leds =>
    rw [half, left]
    split <;> rfl
  case brightness =>
    rw [half, left]
    split <;> rfl
  case crcErrors =>
    rw [half, left]
    split
    · exact Firmware.toNat_recordCrcError _
    · rfl
  case other =>
    rw [seat_setSeat, if_neg (by cases side <;> decide)]
  case layout => exact layout_setSeat board side _
  case keyscanInterval => exact keyscanInterval_setSeat board side _
  case spoken =>
    have spoken := Firmware.address_of_plays updates
    exact List.forall_mem_cons.mpr ⟨nofun, spoken⟩
  case probed =>
    intro later report scanned scans
    refine probesFirst_scan scans ?_ ?_
    · rw [seat]
    · rw [half]
      rfl

/-- A new board but for one key of the right half, which was seen pressed. -/
def holdingBoard : Board :=
  (Board.new .raise).mapHalf .right fun half =>
    half.mapKeys fun _ => ⟨#v[0, 0, 8, 0, 0], #v[0, 0, 8, 0, 0]⟩

/-- The right half of this board is written, and then reports a wrong check value. -/
theorem flashed_of_plays_mismatch :
    let played := ((flash .right ⟨#[1, 2, 3, 4, 5], .contiguous 0⟩).run holdingBoard).transcribe
      Script.partner
      { statuses := [.complete, .complete, .complete, .dataNack, .dataNack, .dataNack, .dataNack]
        replies := [[], [1, 0xFF, 0], [1, 0, 0]] }
    Firmware.IsMismatch played.1.1 ∧ played.1.2.transitions = [⟨2, 12, false⟩] ∧
      Flashed .right holdingBoard played.2.1 played.1.1 played.1.2 :=
  ⟨by decide +kernel, by decide +kernel, flashed_of_plays (plays_transcribe _ _ _)⟩

end Board

end SplitBoard

import SplitBoard.Bus.Script
import SplitBoard.Proofs.LayoutAnswers
import SplitBoard.Proofs.LedCoherence
import SplitBoard.Proofs.ReleasedKeys

/-!
# Halves that come and go

Whether a half is there is remembered from one poll to the next, and a scan
reports where the link says otherwise (`ScanOutcome`).  **What is remembered only
changes by such a report**, or when a half is taken up again or flashed
(`online_of_does`), so a half that came has to go before it can come again
(`HotPlugged`).

A scan in which a half came settles the layout and leaves everything to be sent
again; any other one writes nothing but probes.
-/

namespace SplitBoard

open Dialogue Bus

namespace Half

/-! ## One half -/

variable {half half' : Half} {said : Talk}

/-- Looking for a half that is away writes nothing but probes. -/
theorem Consults.probes {available : Bool} (h : Consults half said available half') :
    ∀ bytes ∈ said.filterMap written?, bytes = [] := by
  cases h <;> simp [written?]

theorem Polls.probes {result : Except LinkError (Keys halfRows halfCols)}
    (h : Polls half said result half') : ∀ bytes ∈ said.filterMap written?, bytes = [] := by
  cases h with
  | unavailable consults => exact consults.probes
  | bad consults => simpa [written?] using consults.probes
  | good consults => simpa [written?] using consults.probes

end Half

namespace Board

/-! ## One poll -/

section Polling
variable {board after : Board} {said : Talk} {side : Side} {event : Option BoardEvent}

/-- A half comes that was not there and whose link is online now. -/
theorem PollsSide.connected_iff (h : PollsSide side board said event after) :
    event = some (.connected side) ↔ (board.seat side).suspended = false ∧
      (board.seat side).online = false ∧ (after.half side).online = true := by
  cases h with
  | suspended suspended =>
    refine iff_of_false nofun ?_
    rintro ⟨active, -⟩
    cases active.symm.trans suspended
  | came active before polls here =>
    refine iff_of_true rfl ⟨active, before, ?_⟩
    rw [half_setSeat, if_pos rfl, online_placeKeys, here]
  | went _ here =>
    refine iff_of_false nofun ?_
    rintro ⟨-, before, -⟩
    cases before.symm.trans here
  | stayed _ polls same =>
    refine iff_of_false nofun ?_
    rintro ⟨-, before, here⟩
    rw [half_setSeat, if_pos rfl, online_placeKeys] at here
    cases here.symm.trans (same.trans before)

/-- A half goes that was there and whose link is offline now. -/
theorem PollsSide.disconnected_iff (h : PollsSide side board said event after) :
    event = some (.disconnected side) ↔ (board.seat side).suspended = false ∧
      (board.seat side).online = true ∧ (after.half side).online = false := by
  cases h with
  | suspended suspended =>
    refine iff_of_false nofun ?_
    rintro ⟨active, -⟩
    cases active.symm.trans suspended
  | came _ away =>
    refine iff_of_false nofun ?_
    rintro ⟨-, before, -⟩
    cases before.symm.trans away
  | went active before polls gone =>
    refine iff_of_true rfl ⟨active, before, ?_⟩
    rw [half_setSeat, if_pos rfl]
    exact (online_placeKeys _ _ _ _).trans gone
  | stayed _ polls same =>
    refine iff_of_false nofun ?_
    rintro ⟨-, before, gone⟩
    rw [half_setSeat, if_pos rfl, online_placeKeys] at gone
    cases gone.symm.trans (same.trans before)

/-- What was noticed is remembered. -/
theorem PollsSide.online_eq (h : PollsSide side board said event after) :
    (after.seat side).online = if event = some (.connected side) then true
      else if event = some (.disconnected side) then false else (board.seat side).online := by
  cases h with
  | suspended => rfl
  | came => rw [seat_setSeat, if_pos rfl, if_pos rfl]
  | went => rw [seat_setSeat, if_pos rfl, if_neg nofun, if_pos rfl]
  | stayed => rw [seat_setSeat, if_pos rfl, if_neg nofun, if_neg nofun]

/-- A half that goes has its keys released, and what was seen of them stays. -/
theorem PollsSide.keys_of_went (h : PollsSide side board said (some (.disconnected side)) after) :
    (after.half side).keys = ⟨Vector.replicate 5 0, (board.half side).keys.acknowledged⟩ := by
  cases h with
  | @went _ _ said result half' polls gone =>
    have unread : (half'.placeKeys side board.layout result).keys = (board.half side).keys :=
      polls_of_offline polls gone board.layout
    rw [half_setSeat, if_pos rfl]
    exact congrArg Keys.clear unread

/-- A poll writes nothing but probes. -/
theorem PollsSide.probes (h : PollsSide side board said event after) :
    ∀ bytes ∈ said.filterMap Half.written?, bytes = [] := by
  cases h with
  | suspended => exact nofun
  | came _ _ polls => simpa [Half.written?] using polls.probes
  | went _ _ polls => simpa [Half.written?] using polls.probes
  | stayed _ polls => exact polls.probes

end Polling

/-! ## One scan -/

/-- The board between the polls of a scan and what follows them. -/
def AfterPolls (board : Board) (said : Talk) (polled : Board) : Prop :=
  ∃ left right rest leftEvent rightEvent mid, said = left ++ (right ++ rest) ∧
    Plays ((pollSide .left).run board) left (leftEvent, mid) ∧
    Plays ((pollSide .right).run mid) right (rightEvent, polled)

/-- What a scan reports and what it leaves. -/
structure ScanOutcome (profile : Profile) (board : Board) (said : Talk) (report : ScanReport)
    (after : Board) : Prop where
  /-- There is one event of each side at most. -/
  once : ∀ side, (report.events.countP fun event => event.side = side) ≤ 1
  /-- A half that is not suspended comes or goes where its link says otherwise than was
  remembered. -/
  noticed : ∃ polled, board.AfterPolls said polled ∧ ∀ side,
    (.connected side ∈ report.events ↔ (board.seat side).suspended = false ∧
      (board.seat side).online = false ∧ (polled.half side).online = true) ∧
    (.disconnected side ∈ report.events ↔ (board.seat side).suspended = false ∧
      (board.seat side).online = true ∧ (polled.half side).online = false)
  /-- The current rows of a half that went are zero, and what was seen of its keys stays. -/
  released : ∀ side, .disconnected side ∈ report.events →
    (after.half side).keys.current = Vector.replicate 5 0 ∧
      (after.half side).keys.acknowledged = (board.half side).keys.acknowledged
  /-- If a half came, the layout is what the halves say. -/
  layout : report.events.any BoardEvent.isArrival = true →
    (after.layout = .ansi ↔ ∃ side, (board.seat side).suspended = false ∧
      Reports (board.half side).address Half.Command.layout 1 said)
  /-- If a half came, every color of both halves is to be sent again, and the LED that only ISO
  boards have is dark. -/
  resent : report.events.any BoardEvent.isArrival = true →
    (∀ side bank, bank < (after.half side).leds.banks →
      (after.half side).leds.isDirty bank = true) ∧
    (profile.isoOnlyLed.toNat < (after.half .left).leds.count →
      (after.half .left).leds.get? profile.isoOnlyLed.toNat = some .black)
  /-- If none came, nothing but probes is written. -/
  silent : report.events.any BoardEvent.isArrival = false →
    ∀ bytes ∈ said.filterMap Half.written?, bytes = []

section Scanning
variable {profile : Profile} {board after : Board} {said : Talk} {report : ScanReport}

theorem PollsSide.countP_event_le {side : Side} {event : Option BoardEvent}
    (h : PollsSide side board said event after) (other : Side) :
    (event.toList.countP fun event => event.side = other) ≤ if other = side then 1 else 0 := by
  rcases event with _ | event
  · exact Nat.zero_le _
  · rw [Option.toList_some, List.countP_singleton, h.of_event.1]
    by_cases same : side = other
    · rw [if_pos (decide_eq_true same), if_pos same.symm]
    · rw [if_neg (by simpa using same), if_neg (Ne.symm same)]

/-- **A scan reports what changed, and settles everything anew if a half came.** -/
theorem scanOutcome_of_plays (plays : Plays (scanCycle.run board) said (report, after))
    (sound : board.Sound profile) : ScanOutcome profile board said report after := by
  obtain ⟨left, right, rest, leftEvent, rightEvent, mid, polled, rfl, first, second, rfl, later⟩ :=
    plays_scanCycle_cases plays
  have pollsLeft := plays_pollSide first
  have pollsRight := plays_pollSide second
  constructor
  case once =>
    intro side
    rw [List.countP_append]
    have left := pollsLeft.countP_event_le side
    have right := pollsRight.countP_event_le side
    refine (Nat.add_le_add left right).trans ?_
    cases side <;> decide
  case noticed =>
    refine ⟨polled, ⟨left, right, rest, _, _, mid, rfl, first, second⟩, fun side => ?_⟩
    obtain ⟨start, part, event, next, before, polls, same, noticed⟩ :=
      polls_of_side pollsLeft pollsRight side
    have half : polled.half side = next.half side := congrArg Seat.half same
    rw [noticed (.connected side) rfl, noticed (.disconnected side) rfl, polls.connected_iff,
      polls.disconnected_iff, before, half]
    exact ⟨Iff.rfl, Iff.rfl⟩
  case released =>
    intro side went
    obtain ⟨start, part, event, next, before, polls, same, noticed⟩ :=
      polls_of_side pollsLeft pollsRight side
    obtain rfl := (noticed (.disconnected side) rfl).mp went
    have keys : polled.SameKeys after := by
      split at later
      · exact (plays_startOver later).sameKeys
      · rw [later.2]
        exact .refl polled
    have start_eq : start.half side = board.half side := congrArg Seat.half before
    have half : polled.half side = next.half side := congrArg Seat.half same
    rw [keys side, half, polls.keys_of_went, start_eq]
    exact ⟨rfl, rfl⟩
  case layout =>
    intro arrival
    rw [if_pos arrival] at later
    obtain ⟨read, reports⟩ := layout_of_startOver later
    constructor
    · intro ansi
      obtain ⟨side, active, reported⟩ := reports ansi
      have respects := pollsLeft.respects.append pollsRight.respects
      rw [respects.suspended] at active
      rw [respects.address] at reported
      exact ⟨side, active, reported.append_right.append_right⟩
    · rintro ⟨side, -, reported⟩
      have byte := reported.readByte
      rw [readByte_append, or_iff_right pollsLeft.unread.not_readByte, readByte_append,
        or_iff_right pollsRight.unread.not_readByte] at byte
      exact read.mpr byte
  case resent =>
    intro arrival
    rw [if_pos arrival] at later
    have polls := sound.of_changes (pollsLeft.changes.trans pollsRight.changes)
    obtain ⟨pushed, told, rfl⟩ := (plays_startOver later).resends polls
    exact ⟨fun side bank inside => isDirty_resendAll told inside, get?_resendAll told⟩
  case silent =>
    intro quiet
    rw [if_neg (by simpa using quiet)] at later
    rw [later.1, List.append_nil, List.filterMap_append]
    exact List.forall_mem_append.mpr ⟨pollsLeft.probes, pollsRight.probes⟩

end Scanning

/-! ## Runs -/

/-- The deed reports that the half on one side came. -/
def Deed.finds (side : Side) : Deed → Bool
  | .scan report _ => decide (.connected side ∈ report.events)
  | _ => false

/-- The deed reports that the half on one side went, or the half is taken up again or flashed. -/
def Deed.loses (side : Side) : Deed → Bool
  | .scan report _ => decide (.disconnected side ∈ report.events)
  | .work (.resume other) _ => decide (other = side)
  | .work (.flash other _) _ => decide (other = side)
  | _ => false

section Online
variable {board after : Board} {deed : Deed} {side : Side}

theorem Scans.online_eq {said : Talk} {report : ScanReport} (h : Scans board said report after)
    (side : Side) :
    (after.seat side).online = if .connected side ∈ report.events then true
      else if .disconnected side ∈ report.events then false else (board.seat side).online := by
  obtain ⟨left, right, leftEvent, rightEvent, mid, ready, pollsLeft, pollsRight, events, online,
    -⟩ := h.polls
  obtain ⟨start, part, event, next, before, polls, same, noticed⟩ :=
    polls_of_side pollsLeft pollsRight side
  rw [online, same, polls.online_eq, before, events]
  simp only [noticed (.connected side) rfl, noticed (.disconnected side) rfl]

/-- **Nothing else decides whether a half is remembered as there.** -/
theorem online_of_does (does : Does board deed after) (side : Side) :
    (after.seat side).online = if deed.finds side then true
      else if deed.loses side then false else (board.seat side).online := by
  cases does_effect does with
  | scan scans =>
    rw [scans.online_eq side]
    simp only [Deed.finds, Deed.loses, decide_eq_true_eq]
  | sync acts => exact acts.steady.online side
  | setKeyscanInterval acts =>
    refine (acts.steady.online side).trans ?_
    cases side <;> rfl
  | setSledCurrent acts => exact acts.steady.online side
  | versions acts => exact acts.steady.online side
  | setLed other index color => exact (steady_setLed board other index color).online side
  | fill color =>
    exact ((steady_fillSide board .left color).trans (steady_fillSide _ .right color)).online side
  | setBrightness => exact (steady_mapHalves board _).online side
  | acknowledge => exact (steady_mapHalves board _).online side
  | suspend other =>
    rw [Board.suspend, seat_setSeat]
    split
    · next here =>
      rw [here]
      rfl
    · rfl
  | resume other =>
    by_cases here : side = other
    · simp [Board.resume, Deed.finds, Deed.loses, here]
    · simp [Board.resume, Deed.finds, Deed.loses, here, Ne.symm here]
  | @flash other =>
    by_cases here : side = other
    · simp [Deed.finds, Deed.loses, here]
    · simp [Deed.finds, Deed.loses, here, Ne.symm here]

end Online

/-- What holds of halves that come and go in a run. -/
structure HotPlugged (profile : Profile) (past : List Deed) (board : Board) : Prop where
  /-- Of every scan that may follow. -/
  scans : ∀ report said after, Does board (.scan report said) after →
    ScanOutcome profile board said report after
  /-- Whatever is done next, only what it reports of a half, its being taken up again or its being
  flashed decides whether it is remembered as there. -/
  online : ∀ deed after, Does board deed after → ∀ side,
    (after.seat side).online = if deed.finds side then true
      else if deed.loses side then false else (board.seat side).online
  /-- Between two times that a half came, it went, was taken up again or flashed. -/
  between : ∀ side later second meanwhile first earlier,
    past = later ++ second :: (meanwhile ++ first :: earlier) →
    first.finds side = true → second.finds side = true →
    ∃ deed ∈ meanwhile, deed.loses side = true

section Runs
variable {profile : Profile} {past later earlier : List Deed} {board : Board} {side : Side}

/-- A run goes through every board on its way. -/
theorem Reaches.of_append (h : Reaches profile (later ++ earlier) board) :
    ∃ before, Reaches profile earlier before := by
  induction later generalizing board with
  | nil => exact ⟨board, h⟩
  | cons deed later ih =>
    cases h with
    | step reaches => exact ih reaches

/-- A half that came is remembered as there until it is lost. -/
theorem online_of_found {first : Deed} {meanwhile : List Deed}
    (reaches : Reaches profile (meanwhile ++ first :: earlier) board)
    (found : first.finds side = true) (kept : ∀ deed ∈ meanwhile, deed.loses side = false) :
    (board.seat side).online = true := by
  induction meanwhile generalizing board with
  | nil =>
    cases reaches with
    | step reaches does => rw [online_of_does does, if_pos found]
  | cons deed meanwhile ih =>
    cases reaches with
    | step reaches does =>
      obtain ⟨here, others⟩ := List.forall_mem_cons.mp kept
      rw [online_of_does does, here, ih reaches others]
      exact ite_self true

/-- A half only comes if it was not remembered as there. -/
theorem offline_of_finds {deed : Deed} {after : Board} (does : Does board deed after)
    (found : deed.finds side = true) (sound : board.Sound profile) :
    (board.seat side).online = false := by
  cases does with
  | scan plays =>
    obtain ⟨polled, -, noticed⟩ := (scanOutcome_of_plays plays sound).noticed
    exact ((noticed side).1.mp (of_decide_eq_true found)).2.1
  | sync => cases found
  | work => cases found

/-- **Coming and going**: in every run, whatever the bus answers, a scan reports what changed of the
halves that are not suspended and settles everything anew if one of them came, and a half that came
goes, is taken up again or is flashed before it comes again. -/
theorem hotPlugged_of_reaches (reaches : Reaches profile past board) :
    HotPlugged profile past board where
  scans report said after does := by
    cases does with
    | scan plays => exact scanOutcome_of_plays plays reaches.sound
  online deed after does side := online_of_does does side
  between := by
    rintro side later second meanwhile first earlier rfl found again
    obtain ⟨_, reaches⟩ := reaches.of_append
    cases reaches with
    | step reaches does =>
      by_contra kept
      have online := online_of_found reaches found fun deed member => by
        by_contra lost
        exact kept ⟨deed, member, by simpa using lost⟩
      cases online.symm.trans (offline_of_finds does again reaches.sound)

end Runs

/-! ## A half that comes twice -/

/-- Both halves come, the left one an ANSI half; it does not answer the next poll, and then it is
back. -/
def returningBus : Script where
  statuses := List.replicate 7 .complete
  replies := [[1, 4, 0, 0, 0, 0], [1, 0, 0, 0, 0, 0], [1], [0], [1], [1, 0, 0, 0, 0, 0],
    [1, 4, 0, 0, 0, 0], [1, 0, 0, 0, 0, 0], [0], [0]]

/-- Three scans on this bus. -/
def threeScans : List Deed × Board × Script :=
  history Script.partner .raise returningBus [.scan, .scan, .scan]

/-- The left half comes, goes and comes again. -/
theorem hotPlugged_of_reaches_again :
    threeScans.1.map (Deed.finds .left) = [true, false, true] ∧
      threeScans.1.map (Deed.loses .left) = [false, true, false] ∧
      HotPlugged .raise threeScans.1 threeScans.2.1 := by
  have comes : threeScans.1.map (Deed.finds .left) = [true, false, true] := by decide +kernel
  have goes : threeScans.1.map (Deed.loses .left) = [false, true, false] := by decide +kernel
  exact ⟨comes, goes, hotPlugged_of_reaches (reaches_history Script.partner .raise returningBus _)⟩

end Board

end SplitBoard

import SplitBoard.Bus.Script
import SplitBoard.Proofs.BoardFrames

/-!
# The scan interval that a half knows

The halves are told the scan interval when it is set and when one of them comes;
each such deed is a push.  A push that a half does not acknowledge makes its link
go offline, but the board still takes the half to be there: once the link answers
a probe nothing is noticed, and **the half goes on with the interval it had**
(`interval_outdated`).

This is the only way to miss one.  A half that is taken to be there knows the
interval exactly if its link was online right after the last push, or if the
interval before that was the same anyway (`interval_known_iff`).
-/

namespace SplitBoard.Board

open Dialogue Bus

/-! ## Acknowledged intervals -/

/-- The interval in a write that the scanner at an address acknowledged. -/
def told? (address : UInt8) : Exchange vocabulary → Option UInt8
  | ⟨.write a [command, interval], status⟩ =>
    if a = address ∧ command = Half.Command.keyscanInterval ∧ status = Transmission.complete then
      some interval
    else none
  | _ => none

/-- The last such interval. -/
def acknowledged? (address : UInt8) (said : Talk) : Option UInt8 :=
  lastSaid? (told? address) said

/-- What was said with scanners.  An update talks with a bootloader, in commands of its own. -/
def Deed.scannerTalk : Deed → Talk
  | .scan _ said => said
  | .sync left right => left ++ right
  | .work (.flash _ _) _ => []
  | .work _ said => said

/-- The last interval that the scanner at an address acknowledged. -/
def lastAcknowledged? (address : UInt8) (past : List Deed) : Option UInt8 :=
  past.findSome? fun deed => acknowledged? address deed.scannerTalk

section Talk
variable {address other : UInt8} {interval : UInt8} {said first second : Talk}
  {allowed : List UInt8 → Prop}

theorem told?_eq_some {e : Exchange vocabulary} :
    told? address e = some interval ↔
      e = ⟨.write address [Half.Command.keyscanInterval, interval], Transmission.complete⟩ := by
  constructor
  · intro h
    unfold told? at h
    split at h
    · split at h
      · rename_i here
        obtain ⟨rfl, rfl, rfl⟩ := here
        obtain rfl := Option.some.inj h
        rfl
      · cases h
    · cases h
  · rintro rfl
    simp [told?]

theorem acknowledged?_append :
    acknowledged? address (first ++ second) =
      (acknowledged? address second).or (acknowledged? address first) :=
  lastSaid?_append

/-- What was acknowledged was written. -/
theorem mem_of_acknowledged? (h : acknowledged? address said = some interval) :
    ⟨.write address [Half.Command.keyscanInterval, interval], Transmission.complete⟩ ∈ said := by
  obtain ⟨e, member, told⟩ := exists_mem_of_lastSaid? h
  rw [← told?_eq_some.mp told]
  exact member

theorem isSome_acknowledged? (member :
    ⟨.write address [Half.Command.keyscanInterval, interval], Transmission.complete⟩ ∈ said) :
    (acknowledged? address said).isSome = true :=
  isSome_lastSaid? member (by rw [told?_eq_some.mpr rfl]; rfl)

/-- Only an interval that may be written is acknowledged, and only at the address written to. -/
theorem allowed_of_acknowledged? (writes : Half.WritesOnly other allowed said)
    (h : acknowledged? address said = some interval) :
    address = other ∧ allowed [Half.Command.keyscanInterval, interval] := by
  obtain ⟨same, probe | allowed⟩ := writes _ (mem_of_acknowledged? h)
  · cases probe
  · exact ⟨same, allowed⟩

/-- All that was acknowledged, at any address, is this interval; without one, nothing was. -/
def Tells (interval : Option UInt8) (said : Talk) : Prop :=
  ∀ address value, acknowledged? address said = some value → interval = some value

variable {interval? : Option UInt8}

theorem tells_nil : Tells interval? [] := nofun

theorem Tells.append (h : Tells interval? first) (h' : Tells interval? second) :
    Tells interval? (first ++ second) := by
  intro address value acknowledged
  rw [acknowledged?_append, Option.or_eq_some_iff] at acknowledged
  rcases acknowledged with late | ⟨-, early⟩
  · exact h' address value late
  · exact h address value early

theorem tells_of_writesOnly (writes : Half.WritesOnly other allowed said)
    (imp : ∀ value, allowed [Half.Command.keyscanInterval, value] → interval? = some value) :
    Tells interval? said :=
  fun _ value acknowledged => imp value (allowed_of_acknowledged? writes acknowledged).2

theorem tells_of_quiet (quiet : ∀ e ∈ said, e.request.address? = none) : Tells interval? said := by
  intro address value acknowledged
  cases quiet _ (mem_of_acknowledged? acknowledged)

theorem tells_note (note : Note) : Tells interval? [⟨.tell note, ()⟩] :=
  tells_of_quiet fun e member => by
    rw [List.mem_singleton.mp member]
    rfl

end Talk

/-! ## Halves that are attended to -/

/-- The half is taken to be there, and not left alone. -/
def Attends (board : Board) (side : Side) : Prop :=
  (board.seat side).online = true ∧ (board.seat side).suspended = false

/-- The deed tells the halves the interval: it was set, or one of them came. -/
def Deed.pushes : Deed → Bool
  | .work (.setKeyscanInterval _) _ => true
  | deed => deed.connects

theorem Deed.pushes_scan (report : ScanReport) (said : Talk) :
    (Deed.scan report said).pushes = report.events.any BoardEvent.isArrival := rfl

instance (board : Board) (side : Side) : Decidable (board.Attends side) :=
  inferInstanceAs (Decidable (_ ∧ _))

section Attends
variable {board mid after : Board} {said : Talk} {side : Side}

theorem Steady.attends_iff (h : board.Steady after) (side : Side) :
    after.Attends side ↔ board.Attends side := by
  rw [Attends, Attends, h.online, h.suspended]

theorem attends_of_setSeat {seat : Seat} {other : Side}
    (h : (board.setSeat side seat).Attends other)
    (fewer : seat.online = true → seat.suspended = false → board.Attends side) :
    board.Attends other := by
  rw [Attends, seat_setSeat] at h
  by_cases here : other = side
  · rw [if_pos here] at h
    rw [here]
    exact fewer h.1 h.2
  · rw [if_neg here] at h
    exact h

theorem PollsSide.keyscanInterval {event : Option BoardEvent}
    (h : PollsSide side board said event after) :
    after.keyscanInterval = board.keyscanInterval := by
  cases h with
  | suspended => rfl
  | came => exact keyscanInterval_setSeat board side _
  | went => exact keyscanInterval_setSeat board side _
  | stayed => exact keyscanInterval_setSeat board side _

/-- A half that is taken to be there after a poll was taken to be there, or it came. -/
theorem PollsSide.attends {event : Option BoardEvent} (h : PollsSide side board said event after)
    (none : event.toList.any BoardEvent.isArrival = false) {other : Side}
    (attends : after.Attends other) : board.Attends other := by
  cases h with
  | suspended => exact attends
  | came => cases none
  | went => exact attends_of_setSeat attends nofun
  | stayed active => exact attends_of_setSeat attends fun online suspended => ⟨online, suspended⟩

/-- **Only a push makes the board attend to a half**, and only a push changes the interval. -/
theorem Effect.attends {deed : Deed} (h : Effect board deed after) (quiet : deed.pushes = false) :
    after.keyscanInterval = board.keyscanInterval ∧
      ∀ side, after.Attends side → board.Attends side := by
  -- most deeds change nothing but the halves
  have steady : board.Steady after → after.keyscanInterval = board.keyscanInterval ∧
      ∀ side, after.Attends side → board.Attends side := fun steady =>
    ⟨steady.keyscanInterval, fun side => (steady.attends_iff side).mp⟩
  cases h with
  | scan scans =>
    cases scans with
    | noticed pollsLeft pollsRight none =>
      rw [List.any_append, Bool.or_eq_false_iff] at none
      exact ⟨pollsRight.keyscanInterval.trans pollsLeft.keyscanInterval,
        fun side attends => pollsLeft.attends none.1 (pollsRight.attends none.2 attends)⟩
    | appeared _ _ arrival =>
      rw [Deed.pushes_scan, arrival] at quiet
      cases quiet
  | sync acts => exact steady acts.steady
  | setKeyscanInterval => cases quiet
  | setSledCurrent acts => exact steady acts.steady
  | versions acts => exact steady acts.steady
  | setLed side index color => exact steady (steady_setLed board side index color)
  | fill color =>
    exact steady ((steady_fillSide board .left color).trans (steady_fillSide _ .right color))
  | setBrightness => exact steady (steady_mapHalves board _)
  | acknowledge => exact steady (steady_mapHalves board _)
  | suspend side =>
    exact ⟨keyscanInterval_setSeat board side _, fun _ attends => attends_of_setSeat attends nofun⟩
  | resume side =>
    exact ⟨keyscanInterval_setSeat board side _, fun _ attends => attends_of_setSeat attends nofun⟩
  | @flash side =>
    exact ⟨keyscanInterval_setSeat board side _, fun _ attends => attends_of_setSeat attends nofun⟩

end Attends

/-! ## What a deed tells -/

section Tells
variable {board after : Board} {said : Talk} {side : Side} {interval? : Option UInt8}
  {allowed : List UInt8 → Prop}

theorem Acts.tells {α : Type} {op : HalfOp α} {result : Option (Except LinkError α)}
    (h : Acts side op board said result after) (moves : Half.Moves op allowed)
    (imp : ∀ value, allowed [Half.Command.keyscanInterval, value] → interval? = some value) :
    Tells interval? said := by
  cases h with
  | suspended => exact tells_nil
  | active _ plays => exact tells_of_writesOnly (moves _ _ _ _ plays).2.2 imp

theorem ActsBoth.tells {α : Type} {op : HalfOp α} {left right : Talk}
    (h : ActsBoth op board left right after) (moves : Half.Moves op allowed)
    (imp : ∀ value, allowed [Half.Command.keyscanInterval, value] → interval? = some value) :
    Tells interval? (left ++ right) := by
  obtain ⟨_, _, mid, first, second⟩ := h
  exact (first.tells moves imp).append (second.tells moves imp)

theorem PollsSide.tells {event : Option BoardEvent} (h : PollsSide side board said event after) :
    Tells interval? said := by
  have reads : ∀ {half half' : Half} {said : Talk}
      {result : Except LinkError (Keys halfRows halfCols)},
      Half.Polls half said result half' → Tells interval? said := by
    intro half half' said result polls
    have probes : Half.WritesOnly half.address (fun _ => False) said := polls.writesOnly
    exact tells_of_writesOnly probes fun _ => False.elim
  cases h with
  | suspended => exact tells_nil
  | came _ _ polls => exact (reads polls).append (tells_note _)
  | went _ _ polls => exact (reads polls).append (tells_note _)
  | stayed _ polls => exact reads polls

theorem StartsOver.tells (h : StartsOver board said after) :
    Tells (some after.keyscanInterval) said := by
  cases h with
  | @intro _ _ _ _ _ layout asked pushed asks quiet pushes =>
    have interval : pushed.resendAll.keyscanInterval = asked.keyscanInterval :=
      (steady_resendAll pushed).keyscanInterval.trans pushes.steady.keyscanInterval
    rw [interval]
    refine (asks.tells Half.moves_readLayout nofun).append ((tells_of_quiet quiet).append ?_)
    refine pushes.tells (Half.moves_send _) fun value same => ?_
    obtain ⟨-, rfl⟩ := by simpa using same
    rfl

/-- A frame of colors is never as short as an interval. -/
theorem streams_tells {half half' : Half} {result : Except LinkError Bool}
    (h : Half.Streams half said result half') : Tells interval? said := by
  have frame : ∀ {bank : Nat} {half'' : Half} {said : Talk} {result : Except LinkError Unit},
      Half.Sends (half.bankFrame bank) (half.passTurn bank) said result half'' →
      Tells interval? said := by
    intro bank half'' said result sends
    refine tells_of_writesOnly (sends.writesOnly (Eq.refl (half.bankFrame bank))) ?_
    intro value same
    -- a frame has one byte, and three more for each LED
    have lengths := congrArg List.length same
    rw [Half.bankFrame, LedBuffer.length_frame] at lengths
    simp at lengths
    omega
  cases h with
  | clean => exact tells_nil
  | sent _ sends => exact Tells.append (tells_note _) (frame sends)
  | unsent _ sends => exact Tells.append (tells_note _) (frame sends)

/-- **A push tells no interval but that of the board**, and no other deed tells any. -/
theorem Effect.tells {deed : Deed} (h : Effect board deed after) :
    Tells (if deed.pushes then some after.keyscanInterval else none) deed.scannerTalk := by
  cases h with
  | scan scans =>
    cases scans with
    | noticed pollsLeft pollsRight => exact pollsLeft.tells.append pollsRight.tells
    | appeared pollsLeft pollsRight arrival startsOver =>
      rw [Deed.pushes_scan, if_pos arrival]
      exact (pollsLeft.tells.append pollsRight.tells).append startsOver.tells
  | @sync left right _ acts =>
    have streamed : ∀ side, Tells none ((Deed.sync left right).streamed side) := by
      intro side
      rcases streams_sync acts side with ⟨silent, -⟩ | ⟨_, streams⟩
      · rw [silent]
        exact tells_nil
      · exact streams_tells streams
    exact (streamed .left).append (streamed .right)
  | setKeyscanInterval acts =>
    rw [show after.keyscanInterval = _ from acts.steady.keyscanInterval]
    refine acts.tells (Half.moves_send _) fun value same => ?_
    obtain ⟨-, rfl⟩ := by simpa using same
    rfl
  | setSledCurrent acts =>
    exact acts.tells (Half.moves_send _) fun value same => absurd (List.cons.inj same).1 (by decide)
  | versions acts => exact acts.tells (Half.moves_readRegister _) nofun
  | setLed => exact tells_nil
  | fill => exact tells_nil
  | setBrightness => exact tells_nil
  | acknowledge => exact tells_nil
  | suspend => exact tells_nil
  | resume => exact tells_nil
  | flash => exact tells_nil

end Tells

/-! ## What a half acknowledges -/

section Acknowledged
variable {board after : Board} {said : Talk} {side : Side} {profile : Profile} {interval : UInt8}

theorem Tells.acknowledged?_eq_none (h : Tells none said) (address : UInt8) :
    acknowledged? address said = none := by
  rcases acknowledged : acknowledged? address said with _ | value
  · rfl
  · cases h address value acknowledged

/-- Work on one half is not heard at another address. -/
theorem Acts.acknowledged?_eq_none {α : Type} {op : HalfOp α} {allowed : List UInt8 → Prop}
    {result : Option (Except LinkError α)} (h : Acts side op board said result after)
    (moves : Half.Moves op allowed) {address : UInt8} (ne : address ≠ (board.half side).address) :
    acknowledged? address said = none := by
  cases h with
  | suspended => rfl
  | active _ plays =>
    rcases acknowledged : acknowledged? address said with _ | value
    · rfl
    · exact absurd (allowed_of_acknowledged? (moves _ _ _ _ plays).2.2 acknowledged).1 ne

/-- A half that is told an interval acknowledges it exactly if its link is online afterwards. -/
theorem Acts.acknowledged_iff {result : Option (Except LinkError Unit)}
    (h : Acts side (Half.setKeyscanInterval interval) board said result after)
    (consistent : (board.half side).Consistent) (active : (board.seat side).suspended = false) :
    (acknowledged? (board.half side).address said).isSome = true ↔
      (after.half side).online = true := by
  cases h with
  | suspended suspended => cases active.symm.trans suspended
  | active _ plays =>
    have sends := Half.plays_send plays
    rw [half_mapHalf, if_pos rfl, sends.online_iff consistent, ← sends.mem_iff nofun]
    constructor
    · intro acknowledged
      obtain ⟨value, acknowledged⟩ := Option.isSome_iff_exists.mp acknowledged
      have only : Half.WritesOnly (board.half side).address
          (· = [Half.Command.keyscanInterval, interval]) said := sends.writesOnly rfl
      rw [← (allowed_of_acknowledged? only acknowledged).2]
      exact mem_of_acknowledged? acknowledged
    · exact isSome_acknowledged?

theorem ActsBoth.acknowledged_iff {left right : Talk}
    (h : ActsBoth (Half.setKeyscanInterval interval) board left right after)
    (sound : board.Sound profile)
    (differ : profile.scannerAddress Side.left.select ≠ profile.scannerAddress Side.right.select)
    (active : (board.seat side).suspended = false) :
    (acknowledged? (board.half side).address (left ++ right)).isSome = true ↔
      (after.half side).online = true := by
  obtain ⟨_, _, mid, first, second⟩ := h
  have same : mid.half .right = board.half .right := first.half_of_ne (by decide)
  rw [← sound.address_eq .left, ← sound.address_eq .right] at differ
  rw [acknowledged?_append]
  cases side with
  | left =>
    -- what the right half is told is not heard at the left one's address
    have unheard : acknowledged? (board.half .left).address right = none :=
      second.acknowledged?_eq_none (Half.moves_send _) (by rw [same]; exact differ)
    have later : after.half .left = mid.half .left := second.half_of_ne (by decide)
    rw [unheard, Option.none_or, later]
    exact first.acknowledged_iff (sound .left).consistent active
  | right =>
    -- and the other way round
    have unheard : acknowledged? (board.half .right).address left = none :=
      first.acknowledged?_eq_none (Half.moves_send _) differ.symm
    rw [unheard, Option.or_none, ← same]
    refine second.acknowledged_iff ?_ ?_
    · rw [same]
      exact (sound .right).consistent
    · rw [first.steady.suspended]
      exact active

theorem StartsOver.acknowledged_iff (h : StartsOver board said after) (sound : board.Sound profile)
    (differ : profile.scannerAddress Side.left.select ≠ profile.scannerAddress Side.right.select)
    (active : (board.seat side).suspended = false) :
    (acknowledged? (board.half side).address said).isSome = true ↔
      (after.half side).online = true := by
  cases h with
  | @intro askLeft askRight notes _ _ layout asked pushed asks quiet pushes =>
    have asking : Tells none (askLeft ++ askRight) := asks.tells Half.moves_readLayout nofun
    have noting : Tells none notes := tells_of_quiet quiet
    have changes := asks.changes Half.moves_readLayout
    have askedSound : Sound profile { asked with layout } := sound.of_changes changes
    have resent : (pushed.resendAll.half side).online = (pushed.half side).online := by
      cases side <;> rfl
    have address : (Board.half { asked with layout } side).address = (board.half side).address := by
      rw [askedSound.address_eq, sound.address_eq]
    have stillActive : (Board.seat { asked with layout } side).suspended = false := by
      rw [← active, ← asks.steady.suspended side]
      cases side <;> rfl
    rw [acknowledged?_append, acknowledged?_append, asking.acknowledged?_eq_none,
      noting.acknowledged?_eq_none, Option.or_none, Option.or_none, resent, ← address]
    exact pushes.acknowledged_iff askedSound differ stillActive

/-- **The half acknowledged a push exactly if its link is online right after it.** -/
theorem Effect.acknowledged_iff {deed : Deed} (h : Effect board deed after)
    (pushes : deed.pushes = true) (sound : board.Sound profile)
    (differ : profile.scannerAddress Side.left.select ≠ profile.scannerAddress Side.right.select)
    (active : (after.seat side).suspended = false) :
    (acknowledged? (board.half side).address deed.scannerTalk).isSome = true ↔
      (after.half side).online = true := by
  cases h with
  | scan scans =>
    cases scans with
    | noticed _ _ none =>
      rw [Deed.pushes_scan, none] at pushes
      cases pushes
    | @appeared left right rest _ _ mid polled _ pollsLeft pollsRight _ startsOver =>
      have polling : Tells none (left ++ right) := pollsLeft.tells.append pollsRight.tells
      have polledSound : polled.Sound profile :=
        sound.of_changes (pollsLeft.changes.trans pollsRight.changes)
      have address : (polled.half side).address = (board.half side).address := by
        rw [polledSound.address_eq, sound.address_eq]
      have stillActive : (polled.seat side).suspended = false := by
        rw [← active, startsOver.steady.suspended]
      rw [Deed.scannerTalk, acknowledged?_append, polling.acknowledged?_eq_none, Option.or_none,
        ← address]
      exact startsOver.acknowledged_iff polledSound differ stillActive
  | @setKeyscanInterval interval _ _ _ acts =>
    have stillActive : (Board.seat { board with keyscanInterval := interval } side).suspended =
        false := by
      rw [← active, acts.steady.suspended]
    exact acts.acknowledged_iff sound differ stillActive
  | _ => cases pushes

end Acknowledged

/-! ## The last push -/

/-- The last push of a run: what came after it and before it, and the boards around it. -/
structure LastPush (profile : Profile) (past later earlier : List Deed) (push : Deed)
    (before pushed : Board) : Prop where
  split : past = later ++ push :: earlier
  quiet : ∀ deed ∈ later, deed.pushes = false
  pushes : push.pushes = true
  reaches : Reaches profile earlier before
  does : Does before push pushed

section Runs
variable {profile : Profile} {past : List Deed} {board : Board} {side : Side}

/-- A half that is attended to was so at the last push, and the interval is still the same. -/
theorem lastPush_of_attends (reaches : Reaches profile past board) (attends : board.Attends side) :
    ∃ later earlier push before pushed, LastPush profile past later earlier push before pushed ∧
      pushed.Attends side ∧ pushed.keyscanInterval = board.keyscanInterval ∧
      ∀ deed ∈ later, Tells none deed.scannerTalk := by
  induction reaches with
  | new => cases side <;> cases attends.1
  | @step past board after deed reaches does ih =>
    have effect := does_effect does
    rcases pushes : deed.pushes
    · obtain ⟨interval, attended⟩ := effect.attends pushes
      -- this deed tells nothing, so the last push stays the same
      obtain ⟨later, earlier, push, before, pushed, last, still, same, silent⟩ :=
        ih (attended side attends)
      have told := effect.tells
      rw [pushes] at told
      refine ⟨deed :: later, earlier, push, before, pushed, ?_, still, same.trans interval.symm,
        List.forall_mem_cons.mpr ⟨told, silent⟩⟩
      exact ⟨by rw [last.split, List.cons_append], List.forall_mem_cons.mpr ⟨pushes, last.quiet⟩,
        last.pushes, last.reaches, last.does⟩
    · exact ⟨[], past, deed, board, after, ⟨rfl, nofun, pushes, reaches, does⟩, attends, rfl, nofun⟩

theorem lastAcknowledged?_append {address : UInt8} {later earlier : List Deed} {push : Deed}
    (silent : ∀ deed ∈ later, Tells none deed.scannerTalk) :
    lastAcknowledged? address (later ++ push :: earlier) =
      (acknowledged? address push.scannerTalk).or (lastAcknowledged? address earlier) := by
  have nothing : ∀ deed ∈ later, acknowledged? address deed.scannerTalk = none :=
    fun deed member => (silent deed member).acknowledged?_eq_none address
  rw [lastAcknowledged?, List.findSome?_append, List.findSome?_eq_none_iff.mpr nothing,
    Option.none_or, List.findSome?_cons]
  cases acknowledged? address push.scannerTalk <;> rfl

/-- **A half that is taken to be there knows the scan interval exactly if its link was online right
after the last push**, or if the last interval it had acknowledged by then was the same. -/
theorem interval_known_iff
    (differ : profile.scannerAddress Side.left.select ≠ profile.scannerAddress Side.right.select)
    (reaches : Reaches profile past board) (attends : board.Attends side) :
    ∃ later earlier push before pushed, LastPush profile past later earlier push before pushed ∧
      (lastAcknowledged? (board.half side).address past = some board.keyscanInterval ↔
        (pushed.half side).online = true ∨
          lastAcknowledged? (board.half side).address earlier = some board.keyscanInterval) := by
  obtain ⟨later, earlier, push, before, pushed, last, still, same, silent⟩ :=
    lastPush_of_attends reaches attends
  refine ⟨later, earlier, push, before, pushed, last, ?_⟩
  have effect := does_effect last.does
  have address : (before.half side).address = (board.half side).address := by
    rw [last.reaches.sound.address_eq, reaches.sound.address_eq]
  have known := effect.acknowledged_iff last.pushes last.reaches.sound differ still.2
  have told := effect.tells
  rw [if_pos last.pushes, same] at told
  rw [← known, address, last.split, lastAcknowledged?_append silent]
  -- a push can only have told the interval that the board still has
  rcases acknowledged : acknowledged? (board.half side).address push.scannerTalk with _ | value
  · simp
  · obtain ⟨⟩ := told _ _ acknowledged
    simp

end Runs

/-! ## A push that is missed -/

/-- Both halves come, and then the left one does not take the write of a new interval. -/
def nackingBus : Script where
  statuses := List.replicate 6 .complete ++ [.dataNack]
  replies := [[1, 0, 0, 0, 0, 0], [1, 0, 0, 0, 0, 0], [0], [0], [1, 0, 0, 0, 0, 0],
    [1, 0, 0, 0, 0, 0]]

/-- The board once the left half missed a new interval. -/
def missedPush : List Deed × Board × Script :=
  history Script.partner .raise nackingBus [.work (.setKeyscanInterval 10), .scan]

/-- A half that is there, by the board and by its link, may know another interval than the board:
nothing is told to it when its link comes back. -/
theorem interval_outdated :
    ¬∀ (profile : Profile) (past : List Deed) (board after : Board) (report : ScanReport)
      (said : Talk) (side : Side),
      profile.scannerAddress Side.left.select ≠ profile.scannerAddress Side.right.select →
      Reaches profile past board → Does board (.scan report said) after → after.Attends side →
      (after.half side).online = true →
      lastAcknowledged? (after.half side).address (.scan report said :: past) =
        some after.keyscanInterval := by
  intro h
  -- the link answers the probe, the keys arrive, and nothing else is sent
  have known := h .raise missedPush.1 missedPush.2.1 _ _ _ .left (by decide)
    (reaches_history Script.partner .raise nackingBus _)
    (.scan (plays_transcribe Script.partner _ missedPush.2.2)) (by decide +kernel)
    (by decide +kernel)
  exact absurd known (by decide +kernel)

/-- The left half in this run, after both were polled again. -/
theorem interval_known_iff_missed :
    let run := history Script.partner .raise nackingBus
      [.scan, .work (.setKeyscanInterval 10), .scan]
    run.2.1.Attends .left ∧ (run.2.1.half .left).online = true ∧
    ∃ later earlier push before pushed, LastPush .raise run.1 later earlier push before pushed ∧
      (lastAcknowledged? (run.2.1.half .left).address run.1 = some run.2.1.keyscanInterval ↔
        (pushed.half .left).online = true ∨
          lastAcknowledged? (run.2.1.half .left).address earlier =
            some run.2.1.keyscanInterval) :=
  ⟨by decide +kernel, by decide +kernel,
    interval_known_iff (by decide)
      (reaches_history Script.partner .raise nackingBus
        [.scan, .work (.setKeyscanInterval 10), .scan])
      (by decide +kernel)⟩

end SplitBoard.Board

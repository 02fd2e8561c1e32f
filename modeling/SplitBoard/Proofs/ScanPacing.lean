import SplitBoard.Proofs.StableKeys

/-!
# Scans at a steady pace

A scanner reads a clock of 32 bits, which wraps around, and keeps its deadline in
as many.  Here time goes on for ever (`TimedEvent`), and with it the deadline that
the scanner means (`dueAt`): the time of the last scan and one interval more.

Two times are told apart as long as they are less than half a turn of the clock
away from each other.  **The deadline never lies further ahead**, since it is set
one interval ahead of a time that has passed (`dueAt_le`), so what has to be
promised is only that nobody asks half a turn too late (`Timely`).  Then the
scanner is as good as one with a clock that never wraps around (`paced`).
-/

namespace SplitBoard

/-- What can be done with a scanner, where the time of a question goes on for ever. -/
inductive TimedEvent (rows cols : Nat) where
  | scan (sample : KeyRows rows cols)
  | acknowledge
  | due (time : Nat)

namespace TimedEvent

variable {rows cols : Nat}

/-- What the scanner sees of it: its clock shows the time without whole turns. -/
def shown : TimedEvent rows cols → ScannerEvent rows cols
  | scan sample => .scan sample
  | acknowledge => .acknowledge
  | due time => .due (UInt32.ofNat time)

/-- The time of the event, if it is a question. -/
def asked? : TimedEvent rows cols → Option Nat
  | due time => some time
  | _ => none

end TimedEvent

/-- Half a turn of the clock. -/
def halfTurn : Nat := 0x80000000

/-- **Within half a turn of each other, two times are told apart on the clock.** -/
theorem clock_iff {deadline time : Nat} (near : deadline ≤ time + halfTurn)
    (early : time < deadline + halfTurn) :
    UInt32.ofNat time - UInt32.ofNat deadline < 0x80000000 ↔ deadline ≤ time := by
  unfold halfTurn at near early
  rw [UInt32.lt_iff_toNat_lt, UInt32.toNat_sub, UInt32.toNat_ofNat', UInt32.toNat_ofNat']
  change _ < 0x80000000 ↔ _
  omega

namespace MatrixScanner

variable {rows cols : Nat}

/-- The scanner after timed events, of which the newest is the first. -/
def afterTimed (interval : UInt32) (events : List (TimedEvent rows cols)) :
    MatrixScanner rows cols :=
  after interval (events.map TimedEvent.shown)

/-- Whether the scanner says at a time that a scan is due. -/
def saysDue (interval : UInt32) (time : Nat) (earlier : List (TimedEvent rows cols)) : Bool :=
  ((afterTimed interval earlier).scanDue (UInt32.ofNat time)).1

/-- When the next scan is due: when time begins, and then one interval behind the last time at which
the scanner said that one is. -/
def dueAt (interval : UInt32) : List (TimedEvent rows cols) → Nat
  | [] => 0
  | .due time :: earlier =>
    if saysDue interval time earlier then time + interval.toNat else dueAt interval earlier
  | .scan _ :: earlier => dueAt interval earlier
  | .acknowledge :: earlier => dueAt interval earlier

/-- The times at which the scanner said that a scan is due, the newest first. -/
def scanTimes (interval : UInt32) : List (TimedEvent rows cols) → List Nat
  | [] => []
  | .due time :: earlier =>
    if saysDue interval time earlier then time :: scanTimes interval earlier
    else scanTimes interval earlier
  | .scan _ :: earlier => scanTimes interval earlier
  | .acknowledge :: earlier => scanTimes interval earlier

/-- Time does not run backwards, and every question comes less than half a turn behind the deadline
that was in force. -/
def Timely (interval : UInt32) : List (TimedEvent rows cols) → Prop
  | [] => True
  | .due time :: earlier =>
    (∀ before ∈ earlier.filterMap TimedEvent.asked?, before ≤ time) ∧
      time < dueAt interval earlier + halfTurn ∧ Timely interval earlier
  | .scan _ :: earlier => Timely interval earlier
  | .acknowledge :: earlier => Timely interval earlier

section Steps
variable (scanner : MatrixScanner rows cols) (now : UInt32)

/-- A question leaves the scanner alone unless a scan is due, and then only sets the deadline. -/
theorem scanDue_snd : (scanner.scanDue now).2 =
    if (scanner.scanDue now).1 then { scanner with deadline := now + scanner.interval }
    else scanner := by
  unfold scanDue
  split <;> rfl

theorem scanDue_fst_iff : (scanner.scanDue now).1 = true ↔ now - scanner.deadline < 0x80000000 := by
  unfold scanDue
  split
  · next passed => exact iff_of_true rfl passed
  · next ahead => exact iff_of_false Bool.false_ne_true ahead

theorem deadline_scan (sample : KeyRows rows cols) :
    (scanner.scan sample).2.deadline = scanner.deadline := by
  unfold scan
  dsimp only
  split <;> rfl

/-- Nothing changes the interval. -/
theorem interval_handle (event : ScannerEvent rows cols) :
    (scanner.handle event).interval = scanner.interval := by
  cases event with
  | scan sample =>
    change (scanner.scan sample).2.interval = _
    unfold scan
    dsimp only
    split <;> rfl
  | acknowledge => rfl
  | due now =>
    change (scanner.scanDue now).2.interval = _
    rw [scanDue_snd]
    split <;> rfl

end Steps

section Runs
variable (interval : UInt32) (events : List (TimedEvent rows cols))

theorem interval_afterTimed : (afterTimed interval events).interval = interval := by
  induction events with
  | nil => rfl
  | cons event earlier ih => exact (interval_handle _ event.shown).trans ih

theorem add_interval (time : Nat) : UInt32.ofNat time + (afterTimed interval events).interval =
    UInt32.ofNat (time + interval.toNat) := by
  rw [interval_afterTimed, UInt32.ofNat_add, UInt32.ofNat_toNat]

/-- **The scanner keeps the deadline as its clock will show it.** -/
theorem deadline_afterTimed :
    (afterTimed interval events).deadline = UInt32.ofNat (dueAt interval events) := by
  induction events with
  | nil => rfl
  | cons event earlier ih =>
    cases event with
    | scan sample => exact (deadline_scan _ sample).trans ih
    | acknowledge => exact ih
    | due time =>
      change ((afterTimed interval earlier).scanDue (UInt32.ofNat time)).2.deadline = _
      rw [scanDue_snd, dueAt, saysDue]
      split
      · exact add_interval interval earlier time
      · exact ih

/-- The deadline lies at most one interval ahead. -/
theorem dueAt_le {now : Nat}
    (past : ∀ before ∈ events.filterMap TimedEvent.asked?, before ≤ now) :
    dueAt interval events ≤ now + interval.toNat := by
  induction events with
  | nil => exact Nat.zero_le _
  | cons event earlier ih =>
    cases event with
    | scan sample => exact ih past
    | acknowledge => exact ih past
    | due time =>
      obtain ⟨here, before⟩ := List.forall_mem_cons.mp past
      rw [dueAt]
      split
      · exact Nat.add_le_add_right here _
      · exact ih before

variable {interval events}

/-- A scan is due if the true time has reached the true deadline. -/
theorem saysDue_iff (half : interval.toNat ≤ halfTurn) {time : Nat}
    (timely : Timely interval (.due time :: events)) :
    saysDue interval time events = true ↔ dueAt interval events ≤ time := by
  obtain ⟨past, early, -⟩ := timely
  have near := dueAt_le interval events past
  rw [saysDue, scanDue_fst_iff, deadline_afterTimed]
  exact clock_iff (by omega) early

/-- No scan was less than an interval before the deadline. -/
theorem add_le_dueAt (half : interval.toNat ≤ halfTurn) (timely : Timely interval events) :
    ∀ time ∈ scanTimes interval events, time + interval.toNat ≤ dueAt interval events := by
  induction events with
  | nil => exact nofun
  | cons event earlier ih =>
    cases event with
    | scan sample => exact ih timely
    | acknowledge => exact ih timely
    | due time =>
      have before := ih timely.2.2
      have reached := saysDue_iff half timely
      rw [scanTimes, dueAt]
      split
      · next said =>
        refine List.forall_mem_cons.mpr ⟨Nat.le_refl _, fun scan member => ?_⟩
        have passed := reached.mp said
        have since := before scan member
        omega
      · exact before

/-- **Scans are at least one interval apart.** -/
theorem spaced (half : interval.toNat ≤ halfTurn) (timely : Timely interval events) :
    (scanTimes interval events).Pairwise fun later earlier =>
      earlier + interval.toNat ≤ later := by
  induction events with
  | nil => exact .nil
  | cons event earlier ih =>
    cases event with
    | scan sample => exact ih timely
    | acknowledge => exact ih timely
    | due time =>
      rw [scanTimes]
      split
      · next said =>
        refine List.pairwise_cons.mpr ⟨fun scan member => ?_, ih timely.2.2⟩
        exact Nat.le_trans (add_le_dueAt half timely.2.2 scan member)
          ((saysDue_iff half timely).mp said)
      · exact ih timely.2.2

/-- **A scanner keeps its pace across any number of turns of its clock.**  As long as nobody asks
half a turn behind the deadline, a scan is due exactly from the deadline on; the answer sets the
next deadline if one is due, and changes nothing otherwise.  So scans are at least one interval
apart, and one that is due is never missed.  What else is done with the scanner plays no part. -/
theorem paced (half : interval.toNat ≤ halfTurn) (timely : Timely interval events) :
    (∀ time, Timely interval (.due time :: events) →
      (saysDue interval time events = true ↔ dueAt interval events ≤ time) ∧
      afterTimed interval (.due time :: events) =
        if dueAt interval events ≤ time then
          { afterTimed interval events with deadline := UInt32.ofNat (time + interval.toNat) }
        else afterTimed interval events) ∧
    (afterTimed interval events).deadline = UInt32.ofNat (dueAt interval events) ∧
    (scanTimes interval events).Pairwise fun later earlier =>
      earlier + interval.toNat ≤ later := by
  refine ⟨fun time asked => ?_, deadline_afterTimed interval events, spaced half timely⟩
  have reached := saysDue_iff half asked
  refine ⟨reached, ?_⟩
  change ((afterTimed interval events).scanDue (UInt32.ofNat time)).2 = _
  rw [scanDue_snd, add_interval]
  simp only [← reached]
  rfl

end Runs

/-- Questions on both sides of half a turn, the last of them just before the clock wraps around. -/
def towardsTheTurn : List (TimedEvent 1 8) :=
  [.due 0xFFFFFFFF, .due 0xFFFFFFF5, .acknowledge, .due 0x80000000, .due 0]

/-- At an interval of 100, the deadline that was set before the turn is met behind it. -/
theorem paced_around_the_turn :
    (100 : UInt32).toNat ≤ halfTurn ∧ Timely 100 towardsTheTurn ∧
      saysDue 100 0x100000058 towardsTheTurn = false ∧
      saysDue 100 0x100000059 towardsTheTurn = true ∧
      afterTimed 100 (.due 0x100000058 :: towardsTheTurn) = afterTimed 100 towardsTheTurn ∧
      (afterTimed 100 towardsTheTurn).deadline = 0x59 ∧
      List.Pairwise (fun later earlier => earlier + 100 ≤ later) [0xFFFFFFF5, 0x80000000, 0] := by
  have half : (100 : UInt32).toNat ≤ halfTurn := by decide
  have timely : Timely 100 towardsTheTurn := by
    simp only [towardsTheTurn, Timely]
    decide
  have due : dueAt 100 towardsTheTurn = 0x100000059 := by decide
  have early : Timely 100 (.due 0x100000058 :: towardsTheTurn) := ⟨by decide, by decide, timely⟩
  have onTime : Timely 100 (.due 0x100000059 :: towardsTheTurn) := ⟨by decide, by decide, timely⟩
  obtain ⟨asked, deadline, spaced⟩ := paced half timely
  rw [due] at asked deadline
  refine ⟨half, timely, ?_, (asked _ onTime).1.mpr (Nat.le_refl _), ?_, deadline, spaced⟩
  · exact Bool.eq_false_iff.mpr fun said => absurd ((asked _ early).1.mp said) (by decide)
  · rw [(asked _ early).2, if_neg (by decide)]

end MatrixScanner
end SplitBoard

import SplitBoard.Key.Debounce

/-!
# When a debounced key changes

What the scanner says of a key follows from the samples of that key alone: **it is
the state of the most recent run of four equal samples**, where a key counts as
released before its first sample (`KeyHistory.Settled`).  So a key changes on the
fourth sample in a row that disagrees with it, and never otherwise.

The counter of a key stands for something that can be seen in its samples: it is
the number of newest samples that disagree with the stable state (`Tracks`).  All
keys of a row are counted at once, in two bit vectors, but no key meets another.
-/

namespace SplitBoard

/-! ## What the samples of a key say -/

/-- The samples of one key, by how many came after them. -/
abbrev KeyHistory := Nat → Bool

namespace KeyHistory

/-- One more sample. -/
def push (sample : Bool) (history : KeyHistory) : KeyHistory
  | 0 => sample
  | back + 1 => history back

/-- The samples of one key in those of a whole matrix, of which the newest is the first.  Before all
of them the key was released. -/
def ofSamples {rows cols : Nat} (samples : List (KeyRows rows cols)) (row col : Nat) : KeyHistory :=
  fun back =>
    match samples[back]? with
    | some sample => sample.isPressed row col
    | none => false

/-- Four samples in a row, the last of them so far back, agree on a state. -/
def RunAt (history : KeyHistory) (back : Nat) (state : Bool) : Prop :=
  ∀ i < 4, history (back + i) = state

/-- The most recent run of four equal samples is of this state. -/
def Settled (history : KeyHistory) (state : Bool) : Prop :=
  ∃ back, history.RunAt back state ∧ ∀ later < back, ∀ other, ¬history.RunAt later other

variable {history : KeyHistory} {sample state other : Bool} {back : Nat}

theorem ofSamples_cons {rows cols : Nat} (sample : KeyRows rows cols)
    (earlier : List (KeyRows rows cols)) (row col : Nat) :
    ofSamples (sample :: earlier) row col =
      (ofSamples earlier row col).push (sample.isPressed row col) := by
  funext back
  cases back <;> rfl

theorem runAt_push_succ :
    (history.push sample).RunAt (back + 1) state ↔ history.RunAt back state := by
  have shifted : ∀ i, history.push sample (back + 1 + i) = history (back + i) := fun i => by
    rw [Nat.add_right_comm]
    rfl
  simp only [RunAt, shifted]

/-- A run is of one state only. -/
theorem RunAt.unique (h : history.RunAt back state) (h' : history.RunAt back other) :
    state = other :=
  (h 0 (by decide)).symm.trans (h' 0 (by decide))

theorem Settled.unique (h : history.Settled state) (h' : history.Settled other) :
    state = other := by
  obtain ⟨back, run, recent⟩ := h
  obtain ⟨back', run', recent'⟩ := h'
  -- neither run is more recent than the other
  rcases Nat.lt_trichotomy back back' with later | rfl | earlier
  · exact absurd run (recent' back later state)
  · exact run.unique run'
  · exact absurd run' (recent back' earlier other)

theorem settled_of_runAt_zero (h : history.RunAt 0 state) : history.Settled state :=
  ⟨0, h, nofun⟩

/-- The most recent run stays so unless the newest four samples are one. -/
theorem Settled.push (h : history.Settled state)
    (none : ∀ other, ¬(history.push sample).RunAt 0 other) :
    (history.push sample).Settled state := by
  obtain ⟨back, run, recent⟩ := h
  refine ⟨back + 1, runAt_push_succ.mpr run, fun later before other => ?_⟩
  cases later with
  | zero => exact none other
  | succ later =>
    rw [runAt_push_succ]
    exact recent later (Nat.lt_of_succ_lt_succ before) other

/-- A sample of the same state confirms it. -/
theorem Settled.push_same (h : history.Settled state) : (history.push state).Settled state := by
  by_cases run : (history.push state).RunAt 0 state
  · exact settled_of_runAt_zero run
  · refine h.push fun other run' => run ?_
    -- the newest sample is of the state, and so would be the run
    obtain rfl : state = other := run' 0 (by decide)
    exact run'

/-- **The state changes with the fourth sample in a row that disagrees with it**, and only then. -/
theorem Settled.changes_iff (h : history.Settled state) (h' : (history.push sample).Settled other) :
    other ≠ state ↔ ∀ i < 4, history.push sample i ≠ state := by
  constructor
  · intro changed
    by_cases run : ∃ third, (history.push sample).RunAt 0 third
    · obtain ⟨third, run⟩ := run
      obtain rfl : third = other := (settled_of_runAt_zero run).unique h'
      intro i within
      rw [← Nat.zero_add i, run i within]
      exact changed
    · exact absurd (h'.unique (h.push (not_exists.mp run))) changed
  · intro disagree
    -- four samples that disagree with one state agree with the other
    have run : (history.push sample).RunAt 0 !state := fun i within => by
      rw [Nat.zero_add]
      exact Bool.eq_not_of_ne (disagree i within)
    rw [h'.unique (settled_of_runAt_zero run)]
    cases state <;> decide

end KeyHistory

/-! ## One key of a row -/

namespace RowDebouncer

variable {cols : Nat} {row : RowDebouncer cols} {sample : BitVec cols} {col : Nat}

/-- How far the counter of a key is. -/
def counter (row : RowDebouncer cols) (col : Nat) : Nat :=
  2 * (row.high.getLsbD col).toNat + (row.low.getLsbD col).toNat

theorem counter_le (row : RowDebouncer cols) (col : Nat) : row.counter col ≤ 3 := by
  have low := Bool.toNat_le (row.low.getLsbD col)
  have high := Bool.toNat_le (row.high.getLsbD col)
  unfold counter
  omega

/-- **The keys that flip are those whose stable state changes**, whatever the counters are. -/
theorem feed_fst_eq (row : RowDebouncer cols) (sample : BitVec cols) :
    (row.feed sample).1 = row.stable ^^^ (row.feed sample).2.stable := by
  change _ = row.stable ^^^ (row.stable ^^^ (row.feed sample).1)
  rw [← BitVec.xor_assoc, BitVec.xor_self, BitVec.zero_xor]

theorem feed_fst_eq_zero_iff (row : RowDebouncer cols) (sample : BitVec cols) :
    (row.feed sample).1 = 0 ↔ (row.feed sample).2.stable = row.stable := by
  rw [feed_fst_eq]
  exact BitVec.xor_eq_zero_iff.trans eq_comm

section Bits
variable (row sample)

theorem getLsbD_high_feed : (row.feed sample).2.high.getLsbD col =
    ((sample.getLsbD col ^^ row.stable.getLsbD col) &&
      (row.high.getLsbD col ^^ row.low.getLsbD col)) := by
  simp only [feed, BitVec.getLsbD_and, BitVec.getLsbD_xor]
  exact Bool.and_comm _ _

variable (inside : col < cols)
include inside

theorem getLsbD_low_feed : (row.feed sample).2.low.getLsbD col =
    ((sample.getLsbD col ^^ row.stable.getLsbD col) && !row.low.getLsbD col) := by
  simp only [feed, BitVec.getLsbD_and, BitVec.getLsbD_not, BitVec.getLsbD_xor, inside,
    decide_true, Bool.true_and]
  exact Bool.and_comm _ _

/-- A key flips if its sample disagrees while both bits of its counter are set. -/
theorem getLsbD_stable_feed : (row.feed sample).2.stable.getLsbD col =
    (row.stable.getLsbD col ^^ ((sample.getLsbD col ^^ row.stable.getLsbD col) &&
      (row.low.getLsbD col && row.high.getLsbD col))) := by
  simp only [feed, BitVec.getLsbD_and, BitVec.getLsbD_or, BitVec.getLsbD_not, BitVec.getLsbD_xor,
    inside, decide_true, Bool.true_and]
  cases sample.getLsbD col <;> cases row.stable.getLsbD col <;> cases row.low.getLsbD col <;>
    cases row.high.getLsbD col <;> rfl

/-- A sample that agrees with the key takes its counter back to zero. -/
theorem feed_of_agree (agree : sample.getLsbD col = row.stable.getLsbD col) :
    (row.feed sample).2.counter col = 0 ∧
      (row.feed sample).2.stable.getLsbD col = row.stable.getLsbD col := by
  rw [counter, getLsbD_low_feed row sample inside, getLsbD_high_feed row sample,
    getLsbD_stable_feed row sample inside, agree]
  simp

/-- A sample that disagrees with the key takes its counter on. -/
theorem feed_of_disagree (disagree : sample.getLsbD col ≠ row.stable.getLsbD col)
    (early : row.counter col < 3) :
    (row.feed sample).2.counter col = row.counter col + 1 ∧
      (row.feed sample).2.stable.getLsbD col = row.stable.getLsbD col := by
  have differs : (sample.getLsbD col ^^ row.stable.getLsbD col) = true := by simpa using disagree
  unfold counter at early ⊢
  rw [getLsbD_low_feed row sample inside, getLsbD_high_feed row sample, getLsbD_stable_feed row
    sample inside, differs]
  revert early
  cases row.low.getLsbD col <;> cases row.high.getLsbD col <;> simp

/-- At three, it flips the key instead. -/
theorem feed_of_disagree_three (disagree : sample.getLsbD col ≠ row.stable.getLsbD col)
    (last : row.counter col = 3) :
    (row.feed sample).2.counter col = 0 ∧
      (row.feed sample).2.stable.getLsbD col = sample.getLsbD col := by
  have differs : (sample.getLsbD col ^^ row.stable.getLsbD col) = true := by simpa using disagree
  unfold counter at last ⊢
  rw [getLsbD_low_feed row sample inside, getLsbD_high_feed row sample, getLsbD_stable_feed row
    sample inside, differs]
  revert last disagree
  cases row.low.getLsbD col <;> cases row.high.getLsbD col <;> cases row.stable.getLsbD col <;>
    cases sample.getLsbD col <;> simp

end Bits

/-- **The counter of a key counts its newest samples that disagree with its stable state**, which
the most recent run of four is of. -/
structure Tracks (row : RowDebouncer cols) (col : Nat) (history : KeyHistory) : Prop where
  settled : history.Settled (row.stable.getLsbD col)
  disagree : ∀ i < row.counter col, history i ≠ row.stable.getLsbD col
  agree : history (row.counter col) = row.stable.getLsbD col

theorem tracks_rest (col : Nat) : (rest : RowDebouncer cols).Tracks col fun _ => false := by
  have released : (rest : RowDebouncer cols).stable.getLsbD col = false := BitVec.getLsbD_zero
  have counter : (rest : RowDebouncer cols).counter col = 0 := by
    simp [RowDebouncer.counter, rest]
  rw [← released]
  refine ⟨KeyHistory.settled_of_runAt_zero fun _ _ => rfl, ?_, rfl⟩
  rw [counter]
  exact nofun

theorem Tracks.feed {history : KeyHistory} (h : row.Tracks col history) (sample : BitVec cols)
    (inside : col < cols) :
    (row.feed sample).2.Tracks col (history.push (sample.getLsbD col)) := by
  by_cases agree : sample.getLsbD col = row.stable.getLsbD col
  · obtain ⟨counter, stable⟩ := feed_of_agree row sample inside agree
    refine ⟨?_, ?_, ?_⟩
    · rw [stable, agree]
      exact h.settled.push_same
    · rw [counter]
      exact nofun
    · rw [counter, stable]
      exact agree
  rcases Nat.lt_or_eq_of_le (row.counter_le col) with early | last
  · obtain ⟨counter, stable⟩ := feed_of_disagree row sample inside agree early
    refine ⟨?_, ?_, ?_⟩
    · rw [stable]
      refine h.settled.push fun other run => agree ?_
      -- one of the newest four samples is the one before the run, which agrees
      have before : history (row.counter col) = other := by
        have within := run (row.counter col + 1) (by omega)
        rw [Nat.zero_add] at within
        exact within
      rw [← h.agree, before]
      exact run 0 (by decide)
    · rw [counter, stable]
      intro i within
      cases i with
      | zero => exact agree
      | succ i => exact h.disagree i (Nat.lt_of_succ_lt_succ within)
    · rw [counter, stable]
      exact h.agree
  · obtain ⟨counter, stable⟩ := feed_of_disagree_three row sample inside agree last
    refine ⟨?_, ?_, ?_⟩
    · rw [stable]
      -- the three samples before disagreed with the old state as well
      refine KeyHistory.settled_of_runAt_zero fun i within => ?_
      cases i with
      | zero => rfl
      | succ i =>
        have disagree : history i ≠ row.stable.getLsbD col := h.disagree i (by omega)
        have same : history i = sample.getLsbD col :=
          (Bool.eq_not_of_ne disagree).trans (Bool.eq_not_of_ne agree).symm
        simpa [KeyHistory.push] using same
    · rw [counter]
      exact nofun
    · rw [counter, stable]
      rfl

end RowDebouncer

/-! ## The keys of a matrix -/

namespace Debouncer

variable {rows cols : Nat}

theorem isPressed_stable (matrix : Debouncer rows cols) {row : Nat} (h : row < rows) (col : Nat) :
    matrix.stable.isPressed row col = matrix[row].stable.getLsbD col := by
  simp [KeyRows.isPressed, stable, h]

/-- The keys that a row reports are those of its stable states that change. -/
theorem getLsbD_feed_fst (matrix : Debouncer rows cols) (row : Nat) (sample : BitVec cols)
    (col : Nat) :
    (matrix.feed row sample).1.getLsbD col =
      (matrix.stable.isPressed row col ^^ (matrix.feed row sample).2.stable.isPressed row col) := by
  by_cases h : row < rows
  · rw [isPressed_stable _ h, isPressed_stable _ h, ← BitVec.getLsbD_xor]
    simp only [feed, h, ↓reduceDIte, Vector.getElem_set_self]
    rw [RowDebouncer.feed_fst_eq]
  · simp [feed, h]

section FeedRows

theorem feed_fin_fst (matrix : Debouncer rows cols) (row : Fin rows) (sample : BitVec cols) :
    (matrix.feed row sample).1 = ((matrix.get row).feed sample).1 := by
  simp [feed, Vector.get]

theorem get_feed (matrix : Debouncer rows cols) (row other : Fin rows) (sample : BitVec cols) :
    (matrix.feed row sample).2.get other =
      if other = row then ((matrix.get row).feed sample).2 else matrix.get other := by
  change (matrix.feed row sample).2[other.val] =
    if other = row then (matrix[row.val].feed sample).2 else matrix[other.val]
  simp [feed, Vector.getElem_set, Fin.ext_iff, eq_comm]

variable (sample : KeyRows rows cols)

theorem get_feedRows_of_notMem {list : List (Fin rows)} (matrix : Debouncer rows cols)
    {row : Fin rows} (absent : row ∉ list) :
    (matrix.feedRows sample list).2.get row = matrix.get row := by
  induction list generalizing matrix with
  | nil => rfl
  | cons first later ih =>
    obtain ⟨other, absent⟩ := not_or.mp (mt List.mem_cons.mpr absent)
    rw [feedRows, ih _ absent, get_feed, if_neg other]

/-- Each row takes in its own sample, whatever the others do. -/
theorem get_feedRows_of_mem {list : List (Fin rows)} (once : list.Nodup)
    (matrix : Debouncer rows cols) {row : Fin rows} (member : row ∈ list) :
    (matrix.feedRows sample list).2.get row = ((matrix.get row).feed (sample.get row)).2 := by
  induction list generalizing matrix with
  | nil => cases member
  | cons first later ih =>
    obtain ⟨fresh, once⟩ := List.nodup_cons.mp once
    rw [feedRows]
    rcases List.mem_cons.mp member with rfl | member
    · rw [get_feedRows_of_notMem sample _ fresh, get_feed, if_pos rfl]
    · rw [ih once _ member, get_feed, if_neg (ne_of_mem_of_not_mem member fresh)]

/-- A column flips if the key of one of the rows does. -/
theorem feedRows_fst_eq_zero_iff {list : List (Fin rows)} (once : list.Nodup)
    (matrix : Debouncer rows cols) :
    (matrix.feedRows sample list).1 = 0 ↔
      ∀ row ∈ list, ((matrix.get row).feed (sample.get row)).1 = 0 := by
  induction list generalizing matrix with
  | nil => simp [feedRows]
  | cons first later ih =>
    obtain ⟨fresh, once⟩ := List.nodup_cons.mp once
    rw [feedRows, List.forall_mem_cons, ← feed_fin_fst]
    refine BitVec.or_eq_zero_iff.trans (and_congr_right fun _ => (ih once _).trans ?_)
    -- what the first row takes in does not matter to the later ones
    refine forall₂_congr fun row member => ?_
    rw [get_feed, if_neg (ne_of_mem_of_not_mem member fresh)]

end FeedRows

end Debouncer

/-- What can be done with a scanner. -/
inductive ScannerEvent (rows cols : Nat) where
  | scan (sample : KeyRows rows cols)
  | acknowledge
  | due (now : UInt32)

/-- The sample of an event, if it is a scan. -/
def ScannerEvent.sample? {rows cols : Nat} : ScannerEvent rows cols → Option (KeyRows rows cols)
  | scan sample => some sample
  | _ => none

namespace MatrixScanner

variable {rows cols : Nat}

/-- Do one thing with a scanner. -/
def handle (scanner : MatrixScanner rows cols) : ScannerEvent rows cols → MatrixScanner rows cols
  | .scan sample => (scanner.scan sample).2
  | .acknowledge => scanner.acknowledge
  | .due now => (scanner.scanDue now).2

/-- The scanner after a number of events, of which the newest is the first. -/
def after (interval : UInt32) : List (ScannerEvent rows cols) → MatrixScanner rows cols
  | [] => new interval
  | event :: earlier => (after interval earlier).handle event

/-- The samples of these events. -/
def samples (events : List (ScannerEvent rows cols)) : List (KeyRows rows cols) :=
  events.filterMap ScannerEvent.sample?

section Scan
variable (scanner : MatrixScanner rows cols) (sample : KeyRows rows cols)

theorem debouncer_scan : (scanner.scan sample).2.debouncer =
    (scanner.debouncer.feedRows sample (List.finRange rows)).2 := by
  unfold scan
  dsimp only
  split <;> rfl

/-- A scan takes in the sample of every row. -/
theorem get_debouncer_scan (row : Fin rows) : (scanner.scan sample).2.debouncer.get row =
    ((scanner.debouncer.get row).feed (sample.get row)).2 := by
  rw [debouncer_scan, Debouncer.get_feedRows_of_mem sample (List.nodup_finRange rows) _
    (List.mem_finRange row)]

/-- **A scan that reports no change has changed no stable state**, and one that does has. -/
theorem scan_fst_iff : (scanner.scan sample).1 = true ↔
    (scanner.scan sample).2.debouncer.stable ≠ scanner.debouncer.stable := by
  have reported : (scanner.scan sample).1 = true ↔
      ¬∀ row : Fin rows, ((scanner.debouncer.get row).feed (sample.get row)).1 = 0 := by
    have quiet := Debouncer.feedRows_fst_eq_zero_iff sample (List.nodup_finRange rows)
      scanner.debouncer
    simp only [List.mem_finRange, true_implies] at quiet
    rw [← quiet]
    unfold scan
    dsimp only
    split
    case isTrue quiet => exact iff_of_false nofun (not_not_intro quiet)
    case isFalse changed => exact iff_of_true rfl changed
  rw [reported, ne_eq, Vector.ext_iff]
  -- row by row: the stable states of a row stay exactly if none of its keys flip
  refine not_congr ⟨fun quiet row h => ?_, fun same row => ?_⟩
  · have here := quiet ⟨row, h⟩
    rw [RowDebouncer.feed_fst_eq_zero_iff, ← get_debouncer_scan] at here
    simpa [Debouncer.stable, Vector.get] using here
  · have here := same row row.isLt
    rw [RowDebouncer.feed_fst_eq_zero_iff, ← get_debouncer_scan]
    simpa [Debouncer.stable, Vector.get] using here

theorem keys_scan : (scanner.scan sample).2.keys =
    if (scanner.scan sample).1 then
      scanner.keys.update (scanner.scan sample).2.debouncer.stable
    else scanner.keys := by
  unfold scan
  dsimp only
  split <;> rfl

theorem current_scan (h : scanner.keys.current = scanner.debouncer.stable) :
    (scanner.scan sample).2.keys.current = (scanner.scan sample).2.debouncer.stable := by
  rw [keys_scan]
  by_cases changed : (scanner.scan sample).1 = true
  · rw [if_pos changed]
    rfl
  · -- nothing flipped, so the old keys are the new ones
    rw [if_neg changed, h]
    rw [scan_fst_iff, ne_eq, Decidable.not_not] at changed
    exact changed.symm

end Scan

/-! ## Runs of a scanner -/

section Runs
variable (interval : UInt32) (events : List (ScannerEvent rows cols))

/-- The keys that the consumer sees are the stable ones. -/
theorem current_after :
    (after interval events).keys.current = (after interval events).debouncer.stable := by
  induction events with
  | nil =>
    change KeyRows.released = Debouncer.stable Debouncer.rest
    simp [KeyRows.released, Debouncer.stable, Debouncer.rest, RowDebouncer.rest]
  | cons event earlier ih =>
    cases event with
    | scan sample => exact current_scan _ sample ih
    | acknowledge => exact ih
    | due now =>
      change ((after interval earlier).scanDue now).2.keys.current =
        ((after interval earlier).scanDue now).2.debouncer.stable
      unfold scanDue
      split <;> exact ih

theorem tracks_after {row col : Nat} (inside : row < rows) (inside' : col < cols) :
    (after interval events).debouncer[row].Tracks col
      (KeyHistory.ofSamples (samples events) row col) := by
  induction events with
  | nil =>
    have rest : (after interval ([] : List (ScannerEvent rows cols))).debouncer[row] = .rest := by
      simp [after, new, Debouncer.rest]
    rw [rest]
    exact RowDebouncer.tracks_rest col
  | cons event earlier ih =>
    cases event with
    | scan sample =>
      have fed : (after interval (.scan sample :: earlier)).debouncer[row] =
          ((after interval earlier).debouncer[row].feed sample[row]).2 := by
        exact get_debouncer_scan (after interval earlier) sample ⟨row, inside⟩
      rw [fed]
      change RowDebouncer.Tracks _ col (KeyHistory.ofSamples (sample :: samples earlier) row col)
      rw [KeyHistory.ofSamples_cons, KeyRows.isPressed_of_lt sample _ inside]
      exact ih.feed _ inside'
    | acknowledge => exact ih
    | due now =>
      have same : ((after interval earlier).scanDue now).2.debouncer =
          (after interval earlier).debouncer := by
        unfold scanDue
        split <;> rfl
      change ((after interval earlier).scanDue now).2.debouncer[row].Tracks col _
      simp only [same]
      exact ih

/-- The most recent run of four equal samples of a key is of its stable state. -/
theorem settled_after (row col : Nat) :
    (KeyHistory.ofSamples (samples events) row col).Settled
      ((after interval events).debouncer.stable.isPressed row col) := by
  by_cases inside : row < rows ∧ col < cols
  · rw [Debouncer.isPressed_stable _ inside.1]
    exact (tracks_after interval events inside.1 inside.2).settled
  · rw [KeyRows.isPressed_of_outside _ inside]
    -- where there is no key, no sample has one
    refine KeyHistory.settled_of_runAt_zero fun i _ => ?_
    unfold KeyHistory.ofSamples
    split
    · exact KeyRows.isPressed_of_outside _ inside
    · rfl

/-- **A key is as the most recent run of four equal samples of it says**, whatever was done with the
scanner.  It changes with the fourth sample in a row that disagrees with it.  The scan of a sample
reports a change exactly if the keys change, and a row those of its keys that flip. -/
theorem debounced (interval : UInt32) (events : List (ScannerEvent rows cols)) :
    (∀ row col state, (KeyHistory.ofSamples (samples events) row col).Settled state ↔
      (after interval events).debouncer.stable.isPressed row col = state) ∧
    (∀ row col, (after interval events).keys.isPressed row col =
      (after interval events).debouncer.stable.isPressed row col) ∧
    (∀ sample row col,
      (after interval (.scan sample :: events)).keys.isPressed row col ≠
        (after interval events).keys.isPressed row col ↔
      ∀ i < 4, KeyHistory.ofSamples (sample :: samples events) row col i ≠
        (after interval events).keys.isPressed row col) ∧
    (∀ sample, ((after interval events).scan sample).1 = true ↔
      ((after interval events).scan sample).2.keys.current ≠
        (after interval events).keys.current) ∧
    (∀ (matrix : Debouncer rows cols) row sample col,
      (matrix.feed row sample).1.getLsbD col =
        (matrix.stable.isPressed row col ^^
          (matrix.feed row sample).2.stable.isPressed row col)) := by
  have seen : ∀ events : List (ScannerEvent rows cols), ∀ row col,
      (after interval events).keys.isPressed row col =
        (after interval events).debouncer.stable.isPressed row col := fun events row col => by
    rw [Keys.isPressed, current_after]
  refine ⟨fun row col state => ⟨fun settled => ?_, ?_⟩, seen events, fun sample row col => ?_,
    fun sample => ?_, Debouncer.getLsbD_feed_fst⟩
  · exact (settled_after interval events row col).unique settled
  · rintro rfl
    exact settled_after interval events row col
  · have before := settled_after interval events row col
    have now := settled_after interval (.scan sample :: events) row col
    change (KeyHistory.ofSamples (sample :: samples events) row col).Settled _ at now
    rw [seen, seen, KeyHistory.ofSamples_cons]
    rw [KeyHistory.ofSamples_cons] at now
    exact before.changes_iff now
  · have now := current_after interval (.scan sample :: events)
    change ((after interval events).scan sample).2.keys.current = _ at now
    rw [now, current_after]
    exact scan_fst_iff _ sample

end Runs
end MatrixScanner
end SplitBoard

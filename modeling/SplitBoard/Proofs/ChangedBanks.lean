import SplitBoard.Proofs.BankTurns

/-!
# Sending every bank that changed

All dirty banks can be sent in one go, by ascending number and up to the first
that does not arrive.  The loop asks each bank whether it is dirty when it comes
to it, and clears marks on its way.  **A mark that is cleared is never asked for
again, so the banks that are tried are those that were dirty in the beginning**
(`drains_of_plays`, by induction on the banks that are left).

Where it stops, the frames before are delivered and their banks clean, and the
bank that failed is as dirty as all that come after it (`Synced`).
-/

namespace SplitBoard

namespace LedBuffer

/-- The dirty banks, by ascending number. -/
def dirtyBanks (leds : LedBuffer) : List Nat :=
  (List.range leds.banks).filter leds.isDirty

variable {leds : LedBuffer}

theorem mem_dirtyBanks_iff {bank : Nat} : bank ∈ leds.dirtyBanks ↔ leds.isDirty bank = true := by
  rw [dirtyBanks, List.mem_filter, List.mem_range]
  exact ⟨And.right, fun dirty => ⟨lt_banks_of_isDirty dirty, dirty⟩⟩

theorem dirtyBanks_ascending (leds : LedBuffer) : leds.dirtyBanks.Pairwise (· < ·) :=
  List.pairwise_lt_range.filter _

end LedBuffer

namespace Half

open Dialogue Bus

variable {half mid half' : Half} {said : Talk} {bank : Nat}

/-! ## One frame on the bus -/

/-- The probe that comes before all else if one is due, and is answered. -/
def dueProbe (half : Half) : Talk :=
  if half.countdown = 1 then [⟨.write half.address [], Transmission.complete⟩] else []

/-- The frame of a bank, and that it arrived. -/
def arrival (half : Half) (bank : Nat) : Exchange vocabulary :=
  ⟨.write half.address (half.bankFrame bank), Transmission.complete⟩

/-- What delivering the frames of some banks in a row takes on the bus. -/
def deliveries (half : Half) : List Nat → Talk
  | [] => []
  | bank :: rest => half.dueProbe ++ (bank :: rest).map half.arrival

/-- How sending stops at a bank once the frames of others have arrived, and what it took on the bus
in all. -/
inductive Stops (half : Half) : (sent : List Nat) → (bank : Nat) → LinkError → Talk → Prop where
  /-- The half is left alone. -/
  | away {bank : Nat} (absent : half.countdown ≠ 0) (early : half.countdown ≠ 1) :
      Stops half [] bank .unavailable []
  /-- The half does not answer its probe. -/
  | absent {bank : Nat} (due : half.countdown = 1) {status : Transmission}
      (refused : status ≠ .complete) :
      Stops half [] bank .unavailable [⟨.write half.address [], status⟩]
  /-- The frame is refused. -/
  | refused {sent : List Nat} {bank : Nat} {status : Transmission} (refused : status ≠ .complete) :
      Stops half sent bank .noResponse (half.dueProbe ++ sent.map half.arrival ++
        [⟨.write half.address (half.bankFrame bank), status⟩])

theorem Consults.transactions_eq (h : Consults half said true half') :
    transactions said = half.dueProbe := by
  cases h with
  | present here =>
    rw [dueProbe, here]
    rfl
  | returned due =>
    rw [dueProbe, if_pos due]
    rfl

/-- A request that arrives is sent behind the probe that is due, and the next one needs none. -/
theorem Sends.transactions_eq {request : List UInt8} (h : Sends request half said (.ok ()) half') :
    transactions said = half.dueProbe ++ [⟨.write half.address request, Transmission.complete⟩] ∧
      half'.countdown = 0 := by
  cases h with
  | acknowledged consults =>
    refine ⟨?_, consults.countdown_eq_zero⟩
    rw [transactions_append, consults.transactions_eq, consults.moved.address_eq]
    rfl

theorem Sends.stops {error : LinkError}
    (h : Sends (half.bankFrame bank) half said (.error error) half') :
    Stops half [] bank error (transactions said) := by
  cases h with
  | unavailable consults =>
    cases consults with
    | absent due refused => exact .absent due refused
    | silent absent early => exact .away absent early
  | @refused _ half₁ consults status refused =>
    have alone := @Stops.refused half [] bank status refused
    rw [List.map_nil, List.append_nil] at alone
    rw [transactions_append, consults.transactions_eq, consults.moved.address_eq]
    exact alone

/-! ## The dirty ones among some banks -/

/-- Two halves that differ at most in whether they are there and in their dirty marks. -/
def Unmoved (half half' : Half) : Prop :=
  half' = { half with
    online := half'.online
    countdown := half'.countdown
    leds := { half.leds with dirty := half'.leds.dirty } }

theorem Unmoved.trans (h : half.Unmoved mid) (h' : mid.Unmoved half') : half.Unmoved half' := by
  unfold Unmoved at h h' ⊢
  rw [h', h]

theorem Moved.unmoved (h : half.Moved half') : half.Unmoved half' := by
  unfold Unmoved
  rw [h]

theorem Moved.unmoved_clearDirty (h : half.Moved half') (bank : Nat) :
    half.Unmoved (half'.mapLeds (·.clearDirty bank)) := by
  have cleared : half'.leds.clearDirty bank =
      { half.leds with dirty := (half'.leds.clearDirty bank).dirty } := by
    rw [← h.leds_eq]
    exact LedBuffer.clearDirty_eq half'.leds bank
  unfold Unmoved mapLeds
  dsimp only
  rw [← cleared, h]

theorem Moved.isDirty_clearDirty (h : half.Moved half') (inside : bank < half.leds.banks)
    (other : Nat) : (half'.mapLeds (·.clearDirty bank)).leds.isDirty other =
      (half.leds.isDirty other && decide (other ≠ bank)) := by
  change (half'.leds.clearDirty bank).isDirty other = _
  rw [h.leds_eq]
  exact LedBuffer.isDirty_clearDirty inside other

/-- What is sent for a bank does not depend on the marks. -/
theorem Moved.arrival_clearDirty (h : half.Moved half') (bank other : Nat) :
    (half'.mapLeds (·.clearDirty bank)).arrival other = half.arrival other := by
  have frame : (half'.mapLeds (·.clearDirty bank)).bankFrame other = half.bankFrame other :=
    (LedBuffer.frame_clearDirty half'.leds _ _ bank other).trans (h.bankFrame_eq other)
  have address : (half'.mapLeds (·.clearDirty bank)).address = half.address := h.address_eq
  rw [arrival, arrival, frame, address]

/-- What comes of sending the dirty ones among some banks: the banks that were sent, and those that
wait because one of them failed. -/
inductive Drains (half : Half) :
    (sent waiting : List Nat) → Talk → Except LinkError Nat → Prop where
  | all {sent : List Nat} : Drains half sent [] (half.deliveries sent) (.ok sent.length)
  | stopped {sent rest : List Nat} {bank : Nat} {error : LinkError} {talk : Talk}
      (stops : Stops half sent bank error talk) :
      Drains half sent (bank :: rest) talk (.error error)

/-- A frame that arrived comes before those that are delivered from then on. -/
theorem deliveries_cons (here : mid.countdown = 0)
    (same : ∀ bank, mid.arrival bank = half.arrival bank) (bank : Nat) (sent : List Nat) :
    half.dueProbe ++ [half.arrival bank] ++ mid.deliveries sent =
      half.deliveries (bank :: sent) := by
  have later : mid.deliveries sent = sent.map half.arrival := by
    cases sent with
    | nil => rfl
    | cons next sent =>
      rw [deliveries, dueProbe, here, if_neg (by decide), List.nil_append]
      exact List.map_congr_left fun bank _ => same bank
  rw [later, deliveries, List.map_cons, List.append_assoc]
  rfl

/-- A bank that arrived comes before what is sent from then on. -/
theorem Drains.cons {sent waiting : List Nat} {talk : Talk} {result : Except LinkError Nat}
    (h : Drains mid sent waiting talk result) (here : mid.countdown = 0)
    (same : ∀ bank, mid.arrival bank = half.arrival bank) :
    Drains half (bank :: sent) waiting (half.dueProbe ++ [half.arrival bank] ++ talk)
      (result.map (· + 1)) := by
  cases h with
  | all =>
    rw [deliveries_cons here same]
    exact @Drains.all half (bank :: sent)
  | @stopped _ other _ _ stops =>
    refine .stopped ?_
    cases stops with
    | away absent => exact absurd here absent
    | absent due => cases here.symm.trans due
    | refused refused =>
      have probed : mid.dueProbe = [] := by
        rw [dueProbe, here]
        rfl
      have arrivals : sent.map mid.arrival = sent.map half.arrival :=
        List.map_congr_left fun bank _ => same bank
      have failed : mid.address = half.address ∧ mid.bankFrame other = half.bankFrame other := by
        injection same other with request
        injection request with address frame
        exact ⟨address, frame⟩
      rw [probed, List.nil_append, arrivals, failed.1, failed.2, ← List.append_assoc,
        List.append_assoc half.dueProbe]
      exact @Stops.refused half (bank :: sent) other _ refused

theorem perform_sendDirtyAmong (half : Half) (bank : Nat) (rest : List Nat) :
    perform (sendDirtyAmong (bank :: rest)) half =
      if half.leds.isDirty bank then
        perform (sendBank bank >>= fun _ => sendDirtyAmong rest >>= fun n => pure (n + 1)) half
      else perform (sendDirtyAmong rest) half := by
  change perform (if half.leds.isDirty bank = true then _ else _) half = _
  split <;> rfl

/-- The induction is on the banks.  Those still to come are as dirty as they were, because no bank
is met twice. -/
theorem drains_of_plays {banks : List Nat} {result : Except LinkError Nat}
    (h : Plays (perform (sendDirtyAmong banks) half) said (result, half')) (once : banks.Nodup)
    (inside : ∀ bank ∈ banks, bank < half.leds.banks) :
    ∃ sent waiting, banks.filter half.leds.isDirty = sent ++ waiting ∧ half.Unmoved half' ∧
      (∀ bank, half'.leds.isDirty bank = (half.leds.isDirty bank && decide (bank ∉ sent))) ∧
      Drains half sent waiting (transactions said) result := by
  induction banks generalizing half said result with
  | nil =>
    obtain ⟨rfl, ⟨⟩⟩ := plays_done_iff.mp h
    exact ⟨[], [], rfl, rfl, by simp, .all⟩
  | cons bank banks ih =>
    obtain ⟨fresh, once⟩ := List.nodup_cons.mp once
    obtain ⟨within, inside⟩ := List.forall_mem_cons.mp inside
    rw [perform_sendDirtyAmong] at h
    rcases dirty : half.leds.isDirty bank
    · rw [dirty] at h
      rw [List.filter_cons_of_neg (by simp [dirty])]
      exact ih h once inside
    rw [dirty, if_pos rfl] at h
    rw [List.filter_cons_of_pos dirty]
    rcases plays_perform_bind h with
      ⟨error, rfl, fails⟩ | ⟨first, more, _, mid, rfl, works, later⟩
    · cases plays_sendBank fails with
      | unsent sends =>
        exact ⟨[], _, rfl, sends.moved.unmoved, by simp [sends.moved.leds_eq],
          .stopped sends.stops⟩
    obtain ⟨result, goes, rfl⟩ := plays_perform_map later
    cases plays_sendBank works with
    | @sent said half₁ sends =>
      obtain ⟨talk, here⟩ := sends.transactions_eq
      have cleared := sends.moved.isDirty_clearDirty within
      have others : banks.filter (half₁.mapLeds (·.clearDirty bank)).leds.isDirty =
          banks.filter half.leds.isDirty := by
        refine List.filter_congr fun other member => ?_
        have ne : other ≠ bank := fun same => fresh (same ▸ member)
        rw [cleared, decide_eq_true ne, Bool.and_true]
      obtain ⟨sent, waiting, split, unmoved, dirty', drains⟩ := ih goes once (by
        intro other member
        change other < (half₁.leds.clearDirty bank).banks
        rw [LedBuffer.banks_clearDirty, sends.moved.leds_eq]
        exact inside other member)
      refine ⟨bank :: sent, waiting, ?_, ?_, fun other => ?_, ?_⟩
      · rw [List.cons_append, ← split]
        exact congrArg _ others.symm
      · exact (sends.moved.unmoved_clearDirty bank).trans unmoved
      · rw [dirty', cleared, Bool.and_assoc]
        simp [List.mem_cons, not_or]
      · change Drains half _ _ (transactions (said ++ more)) _
        rw [transactions_append, talk]
        exact drains.cons here (sends.moved.arrival_clearDirty bank)

/-! ## All banks -/

/-- What comes of sending every dirty bank. -/
structure Synced (half : Half) (said : Talk) (result : Except LinkError Nat) (half' : Half) :
    Prop where
  /-- The banks in question are the dirty ones, by ascending number. -/
  ascending : half.leds.dirtyBanks.Pairwise (· < ·) ∧
    ∀ bank, bank ∈ half.leds.dirtyBanks ↔ half.leds.isDirty bank = true
  /-- In any case nothing changes but the availability and the dirty marks. -/
  unmoved : half.Unmoved half'
  /-- If it succeeds, it tells how many they were, each of their frames arrived once, nothing else
  was written but a probe that was due, and no bank is dirty any more. -/
  finished : ∀ n, result = .ok n → n = half.leds.dirtyBanks.length ∧
    transactions said = half.deliveries half.leds.dirtyBanks ∧
    ∀ bank, half'.leds.isDirty bank = false
  /-- If it fails, it fails with one of them.  The frames of those before it arrived, nothing is
  sent after it, and it is dirty still with all that come after it, and no other bank is. -/
  stopped : ∀ error, result = .error error → ∃ sent bank waiting,
    half.leds.dirtyBanks = sent ++ bank :: waiting ∧
    Stops half sent bank error (transactions said) ∧
    ∀ other, half'.leds.isDirty other = true ↔ other ∈ bank :: waiting

/-- **Exactly the banks that arrived are clean afterwards**, wherever it stops. -/
theorem synced_of_plays {result : Except LinkError Nat}
    (plays : Plays (perform syncChanged half) said (result, half')) :
    Synced half said result half' := by
  obtain ⟨sent, waiting, split, unmoved, dirty, drains⟩ :=
    drains_of_plays (show Plays (perform (sendDirtyAmong (List.range half.leds.banks)) half) _ _
      from plays) List.nodup_range fun bank => List.mem_range.mp
  change half.leds.dirtyBanks = sent ++ waiting at split
  have left : ∀ bank, half'.leds.isDirty bank = true ↔ bank ∈ waiting := by
    intro bank
    have disjoint : bank ∈ sent → bank ∉ waiting := by
      have once : (sent ++ waiting).Nodup := by
        rw [← split]
        exact List.nodup_range.filter _
      exact fun early late => List.disjoint_of_nodup_append once early late
    rw [dirty, Bool.and_eq_true, decide_eq_true_eq, ← LedBuffer.mem_dirtyBanks_iff, split,
      List.mem_append]
    constructor
    · rintro ⟨early | late, unsent⟩
      · exact absurd early unsent
      · exact late
    · exact fun late => ⟨.inr late, fun early => disjoint early late⟩
  refine ⟨⟨half.leds.dirtyBanks_ascending, fun _ => LedBuffer.mem_dirtyBanks_iff⟩, unmoved, ?_, ?_⟩
  · intro n ok
    subst ok
    generalize transactions said = talk at drains ⊢
    cases drains with
    | all =>
      rw [split, List.append_nil]
      refine ⟨rfl, rfl, fun bank => ?_⟩
      simpa using left bank
  · intro error failed
    subst failed
    generalize transactions said = talk at drains ⊢
    cases drains with
    | stopped stops => exact ⟨sent, _, _, split, stops, left⟩

/-- Banks 1, 3, 6 and 8 are dirty.  All of them arrive, or the third is refused. -/
theorem synced_of_plays_patched :
    patched.leds.dirtyBanks = [1, 3, 6, 8] ∧
    (let run := (perform syncChanged patched).transcribe Script.partner {}
    Plays (perform syncChanged patched) run.2.1 run.1 ∧ run.1.1.toOption = some 4 ∧
      Synced patched run.2.1 run.1.1 run.1.2) ∧
    (let run := (perform syncChanged patched).transcribe Script.partner
      { statuses := [.complete, .complete, .complete, .dataNack] }
    Plays (perform syncChanged patched) run.2.1 run.1 ∧ run.1.1.toOption = none ∧
      run.1.2.leds.dirtyBanks = [6, 8] ∧ Synced patched run.2.1 run.1.1 run.1.2) := by
  have smooth := plays_transcribe Script.partner (perform syncChanged patched) {}
  have refused := plays_transcribe Script.partner (perform syncChanged patched)
    { statuses := [.complete, .complete, .complete, .dataNack] }
  refine ⟨by decide +kernel, ⟨smooth, by decide +kernel, ?_⟩, ⟨refused, by decide +kernel,
    by decide +kernel, ?_⟩⟩
  · exact synced_of_plays smooth
  · exact synced_of_plays refused

end Half

end SplitBoard

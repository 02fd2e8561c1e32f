import SplitBoard.Led.Preview
import SplitBoard.Proofs.BankBytes
import SplitBoard.Proofs.ChangedBanks

/-!
# A full refresh

Calls for the next bank send the banks in a circle, dirty or not.  As many calls as
there are banks go round once: **every bank is told its colors in one frame of its
own, and afterwards it is the turn of the bank that was the first**
(`refreshed_of_refreshing`).

How far the calls have come is read off the queue of the banks (`Advanced`, by
induction on the calls): they have sent the banks that stood first in it.  What
all frames say together was settled before there were any calls (`BankBytes`).
-/

namespace SplitBoard.Half

open Dialogue Bus

/-! ## Calls for the next bank -/

/-- A call for the next bank: what was said, and what came of it. -/
structure Sending where
  said : Talk
  result : Except LinkError Unit

/-- Not a write that did not complete. -/
def completes : Exchange vocabulary → Bool
  | ⟨.write _ _, status⟩ => Transmission.isComplete status
  | _ => true

/-- Every write of the call completed. -/
def Sending.Undisturbed (call : Sending) : Prop :=
  ∀ e ∈ call.said, completes e = true

instance (call : Sending) : Decidable call.Undisturbed :=
  inferInstanceAs (Decidable (∀ e ∈ call.said, completes e = true))

/-- Calls for the next bank in a row, on any bus. -/
inductive Refreshing : Half → List Sending → Half → Prop where
  | nil {half : Half} : Refreshing half [] half
  | call {half mid half' : Half} {calls : List Sending} {said : Talk}
      {result : Except LinkError Unit}
      (plays : Plays (perform sendNextBank half) said (result, mid))
      (rest : Refreshing mid calls half') : Refreshing half (⟨said, result⟩ :: calls) half'

variable {half mid half' : Half} {calls : List Sending} {said : Talk}
  {result : Except LinkError Unit}

/-- What a call does on a bus where everything arrives. -/
theorem delivers_of_plays (plays : Plays (perform sendNextBank half) said (result, mid))
    (available : half.countdown = 0 ∨ half.countdown = 1)
    (undisturbed : Sending.Undisturbed ⟨said, result⟩) :
    result = .ok () ∧ transactions said = half.dueProbe ++ [half.arrival half.leds.nextBank] ∧
      mid.countdown = 0 ∧ (∀ bank, mid.arrival bank = half.arrival bank) ∧
      mid.leds = (half.leds.passTurn half.leds.nextBank).clearDirty half.leds.nextBank := by
  have sends : SendsBank half.leds.nextBank (half.passTurn half.leds.nextBank) said result mid :=
    plays_sendBank plays
  cases sends with
  | @sent _ half₁ sends =>
    obtain ⟨talk, here⟩ := sends.transactions_eq
    refine ⟨rfl, talk, here, sends.moved.arrival_clearDirty _, ?_⟩
    exact congrArg (LedBuffer.clearDirty · half.leds.nextBank) sends.moved.leds_eq
  | unsent sends =>
    obtain ⟨ok, -⟩ := sends.delivers available fun _ _ _ member =>
      of_decide_eq_true (undisturbed _ (List.mem_cons_of_mem _ member))
    cases ok

/-- How far calls have come that all arrive: they sent the banks that stood first in the queue. -/
structure Advanced (half : Half) (calls : List Sending) (half' : Half) : Prop where
  succeeded : ∀ call ∈ calls, call.result = .ok ()
  arrived : transactions (calls.flatMap Sending.said) =
    half.deliveries (half.leds.queue.take calls.length)
  turn : half'.leds.nextBank = (half.leds.nextBank + calls.length) % max half.leds.banks 1
  clean : ∀ bank, half'.leds.isDirty bank =
    (half.leds.isDirty bank && decide (bank ∉ half.leds.queue.take calls.length))

/-- The induction is on the calls.  The bank that was sent goes to the end of the queue, where the
calls that are left do not come. -/
theorem Refreshing.advanced (h : Refreshing half calls half')
    (turn : half.leds.nextBank < max half.leds.banks 1) (few : calls.length ≤ half.leds.banks)
    (available : half.countdown = 0 ∨ half.countdown = 1)
    (undisturbed : ∀ call ∈ calls, call.Undisturbed) : Advanced half calls half' := by
  induction h with
  | nil => exact ⟨nofun, rfl, (Nat.mod_eq_of_lt turn).symm, by simp⟩
  | @call half mid half' calls said result plays rest ih =>
    rw [List.length_cons] at few
    have several : max half.leds.banks 1 = half.leds.banks := Nat.max_eq_left (by omega)
    have inside : half.leds.nextBank < half.leds.banks := several ▸ turn
    obtain ⟨after, queued, passed⟩ := LedBuffer.queue_passTurn_clearDirty inside
    obtain ⟨ok, talk, here, frames, leds⟩ :=
      delivers_of_plays plays available (undisturbed _ List.mem_cons_self)
    rw [← leds] at passed
    have banks : mid.leds.banks = half.leds.banks := by
      rw [leds, LedBuffer.banks_clearDirty]
      rfl
    have next : mid.leds.nextBank = (half.leds.nextBank + 1) % max half.leds.banks 1 := by
      rw [leds, LedBuffer.nextBank_clearDirty]
      rfl
    have enough : calls.length ≤ after.length := by
      have whole := half.leds.length_queue
      rw [queued, List.length_cons] at whole
      omega
    have queue : mid.leds.queue.take calls.length = after.take calls.length := by
      rw [passed, List.take_append_of_le_length enough]
    have advanced := ih (by rw [next, banks]; exact Nat.mod_lt _ (by omega)) (by omega) (.inl here)
      fun call member => undisturbed call (List.mem_cons_of_mem _ member)
    refine ⟨?_, ?_, ?_, fun bank => ?_⟩
    · exact List.forall_mem_cons.mpr ⟨ok, advanced.succeeded⟩
    · rw [List.flatMap_cons, transactions_append, advanced.arrived, talk, queue, queued,
        List.length_cons, List.take_succ_cons]
      exact deliveries_cons here frames _ _
    · rw [advanced.turn, banks, next, Nat.mod_add_mod, Nat.add_assoc, Nat.add_comm 1,
        List.length_cons]
    · rw [advanced.clean, leds, LedBuffer.isDirty_passTurn_clearDirty inside, ← leds, queue, queued,
        List.length_cons, List.take_succ_cons, Bool.and_assoc]
      simp [List.mem_cons, not_or]

/-! ## All banks -/

/-- A half whose LEDs all have one color gets the frames that are previewed for it. -/
theorem previewFrames_eq (reachable : LedBuffer.Reachable half.profile.leds half.leds)
    {color : Color} (same : ∀ index < half.leds.count, half.leds.get? index = some color) :
    previewFrames half.profile color half.brightness =
      (List.range half.leds.banks).map half.bankFrame := by
  have filled : LedBuffer.Reachable half.profile.leds
      ((LedBuffer.new half.profile.leds).fill color) := LedBuffer.Reachable.new.fill color
  have count := filled.layout_eq.1.trans reachable.layout_eq.1.symm
  have perBank := filled.layout_eq.2.trans reachable.layout_eq.2.symm
  have colors : ∀ index, ((LedBuffer.new half.profile.leds).fill color).get? index =
      half.leds.get? index := by
    intro index
    by_cases inside : index < half.leds.count
    · rw [same index inside]
      exact LedBuffer.get?_fill .new color (reachable.layout_eq.1 ▸ inside)
    · rw [LedBuffer.get?, LedBuffer.get?, count, if_neg inside, if_neg inside]
  have dimming : 255 - half.brightness = half.dimming := by
    rw [brightness, UInt8.sub_eq_iff_eq_add, UInt8.add_comm, UInt8.sub_add_cancel]
  let leds := (LedBuffer.new half.profile.leds).fill color
  change (List.range leds.banks).map (leds.frame half.profile (255 - half.brightness)) = _
  rw [LedBuffer.banks_congr count perBank, dimming]
  refine List.map_congr_left fun bank _ => ?_
  exact LedBuffer.frame_congr perBank colors half.profile half.dimming bank

/-- What a full refresh of a half comes to. -/
structure Refreshed (layout : LedLayout) (half : Half) (calls : List Sending) (half' : Half) :
    Prop where
  /-- The layout is taken as far as a buffer can hold it. -/
  clamped : half.leds.perBank = min (max layout.perBank.toNat 1) 16 ∧
    half.leds.count = min (min layout.count.toNat 72) (half.leds.perBank * 16)
  succeeded : ∀ call ∈ calls, call.result = .ok ()
  /-- Every bank is sent once, in a circle from the one whose turn it is, and nothing else is
  written but a probe that was due. -/
  arrived : transactions (calls.flatMap Sending.said) =
    half.deliveries ((List.range half.leds.banks).rotate half.leds.nextBank)
  /-- A frame begins with the number that stands for its bank. -/
  named : ∀ bank < half.leds.banks, (half.bankFrame bank).length = 1 + 3 * half.leds.perBank ∧
    ((half.bankFrame bank).headD 0).toNat = 0x80 + bank
  /-- The rest of the frames, by ascending bank, are all colors and then darkness. -/
  shown : ((List.range half.leds.banks).flatMap fun bank =>
      (half.bankFrame bank).tail.map UInt8.toNat) =
    half.leds.slots.flatMap (half.profile.colorSent half.dimming)
  /-- Of what was in the place before in which the frames are built nothing is sent. -/
  assembled : ∀ bank buffer, let built := half.leds.assemble half.profile half.dimming bank buffer
    built.2.bytes.take (1 + built.1) = half.bankFrame bank ∧
      built.2.bytes.take (1 + half.leds.bankBytes) = half.bankFrame bank
  turn : half'.leds.nextBank = half.leds.nextBank
  clean : ∀ bank, half'.leds.isDirty bank = false
  /-- A preview shows what is sent to such a half if its LEDs all have the color. -/
  previewed : layout = half.profile.leds → ∀ color,
    (∀ index < half.leds.count, half.leds.get? index = some color) →
    previewFrames half.profile color half.brightness =
      (List.range half.leds.banks).map half.bankFrame

/-- **As many calls as there are banks tell the half every color once**, if the half is there and
everything arrives. -/
theorem refreshed_of_refreshing {layout : LedLayout}
    (reachable : LedBuffer.Reachable layout half.leds)
    (available : half.countdown = 0 ∨ half.countdown = 1) (run : Refreshing half calls half')
    (undisturbed : ∀ call ∈ calls, call.Undisturbed) (all : calls.length = half.leds.banks) :
    Refreshed layout half calls half' := by
  have leds := reachable.wellFormed
  have advanced := run.advanced reachable.nextBank_lt all.le available undisturbed
  have whole : half.leds.queue.take calls.length = half.leds.queue := by
    rw [all, ← half.leds.length_queue, List.take_length]
  refine ⟨?_, advanced.succeeded, ?_, fun bank inside => ⟨?_, ?_⟩, ?_, ?_, ?_, fun bank => ?_, ?_⟩
  · refine ⟨reachable.layout_eq.2, ?_⟩
    rw [reachable.layout_eq.1, reachable.layout_eq.2]
    rfl
  · rw [advanced.arrived, whole, LedBuffer.queue_eq_rotate]
  · exact half.leds.length_frame half.profile half.dimming bank
  · exact LedBuffer.toNat_bankCommand_add (Nat.lt_of_lt_of_le inside leds.banks_le)
  · exact LedBuffer.flatMap_tail_frame leds half.profile half.dimming
  · exact fun bank buffer => LedBuffer.frame_of_assemble leds half.profile half.dimming bank buffer
  · have turn := reachable.nextBank_lt
    rw [advanced.turn, all]
    rcases Nat.eq_zero_or_pos half.leds.banks with none | some
    · rw [none, Nat.add_zero]
      exact Nat.mod_eq_of_lt (none ▸ turn)
    · rw [Nat.max_eq_left some] at turn ⊢
      rw [Nat.add_mod_right, Nat.mod_eq_of_lt turn]
  · -- every bank stood in the queue
    rw [advanced.clean, whole, Bool.and_eq_false_iff, decide_eq_false_iff_not, not_not,
      LedBuffer.mem_queue_iff]
    rcases dirty : half.leds.isDirty bank
    · exact .inl rfl
    · exact .inr (LedBuffer.lt_banks_of_isDirty dirty)
  · rintro rfl color same
    exact previewFrames_eq reachable same

section Partner
variable {σ : Type} (partner : Partner vocabulary σ)

/-- Call for the next bank some times on a bus. -/
def refresh (half : Half) (state : σ) : Nat → List Sending × Half × σ
  | 0 => ([], half, state)
  | times + 1 =>
    let ((result, mid), said, state) := (perform sendNextBank half).transcribe partner state
    let (calls, after) := refresh mid state times
    (⟨said, result⟩ :: calls, after)

theorem refreshing_refresh (half : Half) (state : σ) (times : Nat) :
    Refreshing half (refresh partner half state times).1
      (refresh partner half state times).2.1 := by
  induction times generalizing half state with
  | zero => exact .nil
  | succ times ih => exact .call (plays_transcribe partner _ _) (ih _ _)

end Partner

/-- A half that was not seen yet.  Its third bank is not full, and it is the second one's turn. -/
def uneven : Half :=
  (((new 0 { Profile.raise with leds := { count := 10, perBank := 4 } }).setBrightness 200).mapLeds
    (·.fill ⟨200, 100, 50⟩)).mapLeds (·.setNextBank 1)

theorem refreshed_of_refreshing_uneven :
    let run := refresh Script.partner uneven {} 3
    LedBuffer.Reachable { count := 10, perBank := 4 } uneven.leds ∧ uneven.countdown = 1 ∧
      Refreshing uneven run.1 run.2.1 ∧ (∀ call ∈ run.1, call.Undisturbed) ∧
      run.1.length = uneven.leds.banks ∧
      Refreshed { count := 10, perBank := 4 } uneven run.1 run.2.1 := by
  have reachable : LedBuffer.Reachable { count := 10, perBank := 4 } uneven.leds :=
    (LedBuffer.Reachable.new.fill ⟨200, 100, 50⟩).setNextBank 1
  have run := refreshing_refresh Script.partner uneven {} 3
  have undisturbed : ∀ call ∈ (refresh Script.partner uneven {} 3).1, call.Undisturbed := by
    decide +kernel
  have all : (refresh Script.partner uneven {} 3).1.length = uneven.leds.banks := by
    decide +kernel
  refine ⟨reachable, rfl, run, undisturbed, all, ?_⟩
  exact refreshed_of_refreshing reachable (.inr rfl) run undisturbed all

end SplitBoard.Half

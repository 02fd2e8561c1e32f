import SplitBoard.Bus.Script
import SplitBoard.Proofs.BoardRun

/-!
# Clean banks show their colors

A bank counts as clean until something changes what it should look like.  From
the first half that comes on, **the last frame that arrived for a clean bank is
the frame that would be sent now** (`delivered_of_clean`): no color, brightness,
replug, suspension, update or failed transmission leaves a clean bank stale.

Small changes of a half spare its clean banks (`Half.Spares`); a bank becomes
clean by streaming only, and then its frame arrived.
-/

namespace SplitBoard

open Dialogue Bus

namespace Half

/-! ## Changes that spare clean banks -/

/-- What is clean afterwards was clean before, and looks the same. -/
structure Spares (half half' : Half) : Prop where
  banks : half'.leds.banks = half.leds.banks
  clean : ∀ bank, bank < half.leds.banks → half'.leds.isDirty bank = false →
    half.leds.isDirty bank = false ∧ half'.bankFrame bank = half.bankFrame bank

variable {half mid half' : Half} {said : Talk} {profile : Profile} {select : UInt8}

theorem Spares.refl (half : Half) : half.Spares half := ⟨rfl, fun _ _ clean => ⟨clean, rfl⟩⟩

theorem Spares.trans (h : half.Spares mid) (h' : mid.Spares half') : half.Spares half' := by
  refine ⟨h'.banks.trans h.banks, fun bank inside clean => ?_⟩
  obtain ⟨before, same⟩ := h'.clean bank (by rw [h.banks]; exact inside) clean
  obtain ⟨first, same'⟩ := h.clean bank inside before
  exact ⟨first, same.trans same'⟩

theorem Moved.spares (h : half.Moved half') : half.Spares half' := by
  rw [h]
  exact ⟨rfl, fun _ _ clean => ⟨clean, rfl⟩⟩

theorem Change.spares (h : Change half half') (leds : half.leds.WellFormed) :
    half.Spares half' := by
  cases h with
  | availability moved => exact moved.spares
  | keys => exact ⟨rfl, fun _ _ clean => ⟨clean, rfl⟩⟩
  | crcErrors => exact ⟨rfl, fun _ _ clean => ⟨clean, rfl⟩⟩
  | color index color =>
    rcases LedBuffer.set_cases half.leds index color with same | ⟨inside, changed⟩
    · rw [mapLeds, same]
      exact .refl half
    · rw [mapLeds, changed]
      -- the bank of the LED is dirty now, and the others have other LEDs
      refine ⟨rfl, fun bank _ clean => ?_⟩
      rw [LedBuffer.isDirty_recolor leds inside, Bool.or_eq_false_iff,
        decide_eq_false_iff_not] at clean
      exact ⟨clean.1, LedBuffer.frame_recolor_of_ne leds clean.2 color _ _⟩
  | resend =>
    refine ⟨rfl, fun bank inside clean => ?_⟩
    cases (LedBuffer.isDirty_markAllDirty leds inside).symm.trans clean

theorem Changes.spares (h : Changes half half') (sound : half.Sound profile select) :
    half.Spares half' := by
  induction h with
  | refl => exact .refl half
  | tail changes change ih => exact ih.trans (change.spares (Changes.sound changes sound).leds)

/-! ## Frames that arrive -/

/-- The frame of a bank in a write that completed. -/
def frameOf? (bank : Nat) : Exchange vocabulary → Option (List UInt8)
  | ⟨.write _ (command :: levels), status⟩ =>
    if command = LedBuffer.bankCommand + UInt8.ofNat bank ∧ status = Transmission.complete then
      some (command :: levels)
    else none
  | _ => none

/-- The last such frame. -/
def delivered? (bank : Nat) (said : Talk) : Option (List UInt8) :=
  lastSaid? (frameOf? bank) said

variable {bank : Nat}

theorem delivered?_append {first second : Talk} :
    delivered? bank (first ++ second) = (delivered? bank second).or (delivered? bank first) :=
  lastSaid?_append

theorem delivered?_singleton (e : Exchange vocabulary) : delivered? bank [e] = frameOf? bank e :=
  lastSaid?_singleton e

/-- Probes deliver nothing. -/
theorem Consults.delivered?_eq_none {available : Bool} (h : Consults half said available half') :
    delivered? bank said = none := by
  cases h <;> rfl

theorem frameOf?_eq_none {address : UInt8} {bytes : List UInt8} {status : Transmission}
    (refused : status ≠ .complete) : frameOf? bank ⟨.write address bytes, status⟩ = none := by
  unfold frameOf?
  split
  · rename_i here
    cases here
    exact if_neg fun both => refused both.2
  · rfl

/-- What a failed operation sent did not arrive. -/
theorem Sends.delivered?_eq_none {request : List UInt8} {error : LinkError}
    (h : Sends request half said (.error error) half') : delivered? bank said = none := by
  cases h with
  | unavailable consults => exact consults.delivered?_eq_none
  | refused consults refused =>
    rw [delivered?_append, consults.delivered?_eq_none, Option.or_none]
    change delivered? bank ([⟨.write _ _, _⟩] ++ [⟨.tell _, ()⟩]) = none
    rw [delivered?_append, delivered?_singleton, delivered?_singleton, frameOf?_eq_none refused]
    rfl

/-- A frame that was sent arrived, and no other did. -/
theorem Sends.delivered?_eq {sent : Nat} {leds : LedBuffer} {dimming : UInt8}
    (h : Sends (leds.frame profile dimming sent) half said (.ok ()) half')
    (small : bank < LedBuffer.maxBanks) (small' : sent < LedBuffer.maxBanks) :
    delivered? bank said = if bank = sent then some (leds.frame profile dimming sent) else none := by
  cases h with
  | acknowledged consults =>
    rw [delivered?_append, consults.delivered?_eq_none, Option.or_none, delivered?_singleton,
      LedBuffer.frame, frameOf?]
    by_cases same : bank = sent
    · rw [if_pos same, same, if_pos ⟨rfl, rfl⟩]
    · rw [if_neg same, if_neg]
      exact fun both => same (LedBuffer.bankCommand_add_inj small' small both.1).symm

theorem Streams.banks_eq {result : Except LinkError Bool} (h : Streams half said result half') :
    half'.leds.banks = half.leds.banks := by
  cases h with
  | clean => rfl
  | sent _ sends =>
    refine (LedBuffer.banks_clearDirty _ _).trans ?_
    rw [sends.moved.leds_eq]
    rfl
  | unsent _ sends =>
    rw [sends.moved.leds_eq]
    rfl

/-- **A bank that is clean after streaming was just delivered, or was clean before.** -/
theorem Streams.clean_cases {result : Except LinkError Bool} (h : Streams half said result half')
    (sound : half.Sound profile select) (inside : bank < half.leds.banks)
    (clean : half'.leds.isDirty bank = false) :
    delivered? bank said = some (half'.bankFrame bank) ∨
      delivered? bank said = none ∧ half.leds.isDirty bank = false ∧
        half'.bankFrame bank = half.bankFrame bank := by
  have told : ∀ (note : Note) (rest : Talk),
      delivered? bank (⟨.tell note, ()⟩ :: rest) = delivered? bank rest := by
    intro note rest
    change delivered? bank ([⟨.tell note, ()⟩] ++ rest) = _
    rw [delivered?_append, delivered?_singleton]
    exact Option.or_none
  cases h with
  | clean => exact .inr ⟨rfl, clean, rfl⟩
  | @sent turn next said half₁ sends =>
    have dirty : turn < half.leds.banks :=
      LedBuffer.lt_banks_of_isDirty (LedBuffer.isDirty_of_nextDirtyBank? next)
    have small : bank < LedBuffer.maxBanks := Nat.lt_of_lt_of_le inside sound.leds.banks_le
    have small' : turn < LedBuffer.maxBanks := Nat.lt_of_lt_of_le dirty sound.leds.banks_le
    -- frames name their banks, so no other bank was delivered
    have arrived : delivered? bank said = if bank = turn then some (half.bankFrame turn) else none :=
      sends.delivered?_eq small small'
    have looks : (half₁.mapLeds (·.clearDirty turn)).bankFrame bank = half.bankFrame bank :=
      (LedBuffer.frame_clearDirty half₁.leds _ _ turn bank).trans (sends.moved.bankFrame_eq bank)
    rw [told, arrived, looks]
    by_cases same : bank = turn
    · rw [if_pos same, same]
      exact .inl rfl
    · have turned : turn < (half.passTurn turn).leds.banks := dirty
      change (half₁.leds.clearDirty turn).isDirty bank = false at clean
      rw [sends.moved.leds_eq, LedBuffer.isDirty_clearDirty turned, decide_eq_true same,
        Bool.and_true] at clean
      rw [if_neg same]
      exact .inr ⟨rfl, clean, rfl⟩
  | unsent _ sends =>
    rw [sends.moved.leds_eq] at clean
    rw [told, sends.moved.bankFrame_eq]
    exact .inr ⟨sends.delivered?_eq_none, clean, rfl⟩

end Half

namespace Board

/-! ## Runs -/

/-- The last frame of a bank that arrived at the half on one side. -/
def lastDelivered? (side : Side) (bank : Nat) (past : List Deed) : Option (List UInt8) :=
  past.findSome? fun deed => Half.delivered? bank (deed.streamed side)

/-- What was last delivered for a clean bank is what would be sent now. -/
def Coherent (past : List Deed) (board : Board) : Prop :=
  ∀ side bank, bank < (board.half side).leds.banks → (board.half side).leds.isDirty bank = false →
    lastDelivered? side bank past = some ((board.half side).bankFrame bank)

section Runs
variable {profile : Profile} {past : List Deed} {board after : Board} {deed : Deed}

theorem lastDelivered?_cons {side : Side} {bank : Nat} :
    lastDelivered? side bank (deed :: past) =
      (Half.delivered? bank (deed.streamed side)).or (lastDelivered? side bank past) := by
  rw [lastDelivered?, List.findSome?_cons]
  cases Half.delivered? bank (deed.streamed side) <;> rfl

/-- Nothing is clean once everything is to be sent again. -/
theorem isDirty_resendAll (sound : board.Sound profile) {side : Side} {bank : Nat}
    (inside : bank < (board.resendAll.half side).leds.banks) :
    (board.resendAll.half side).leds.isDirty bank = true := by
  have leds : ∀ half : Half, half.leds.WellFormed → bank < half.leds.markAllDirty.banks →
      half.leds.markAllDirty.isDirty bank = true :=
    fun half leds inside => LedBuffer.isDirty_markAllDirty leds inside
  cases side with
  | left => exact leds _ (LedBuffer.wellFormed_set (sound .left).leds _ _) inside
  | right => exact leds _ (sound .right).leds inside

/-- The LED that only ISO boards have is dark then, if the half has it. -/
theorem get?_resendAll (sound : board.Sound profile)
    (inside : profile.isoOnlyLed.toNat < (board.resendAll.half .left).leds.count) :
    (board.resendAll.half .left).leds.get? profile.isoOnlyLed.toNat = some .black := by
  have same : board.profile = profile := (sound .left).profile_eq
  have blanked : (board.resendAll.half .left).leds =
      ((board.half .left).leds.set profile.isoOnlyLed.toNat .black).markAllDirty := by
    rw [← same]
    rfl
  rw [blanked] at inside ⊢
  refine LedBuffer.get?_set_self (sound .left).leds ?_ .black
  rcases LedBuffer.set_cases (board.half .left).leds profile.isoOnlyLed.toNat .black with
    unchanged | ⟨within, -⟩
  · rw [unchanged] at inside
    exact inside
  · exact within

/-- Whatever the halves are told, everything is to be sent again in the end. -/
theorem StartsOver.resends {said : Talk} (h : StartsOver board said after)
    (sound : board.Sound profile) : ∃ pushed : Board, pushed.Sound profile ∧ after = pushed.resendAll := by
  cases h with
  | @intro _ _ _ _ _ layout asked pushed asks _ pushes =>
    have settled : Sound profile { asked with layout } :=
      sound.of_changes (asks.changes Half.moves_readLayout)
    exact ⟨pushed, settled.of_changes (pushes.changes (Half.moves_send _)), rfl⟩

/-- When a half came, nothing is clean on either side. -/
theorem Effect.coherent_of_connects (h : Effect board deed after) (sound : board.Sound profile)
    (connects : deed.connects = true) : Coherent (deed :: past) after := by
  cases h with
  | scan scans =>
    cases scans with
    | noticed _ _ none =>
      rw [Deed.connects, none] at connects
      cases connects
    | appeared pollsLeft pollsRight _ startsOver =>
      have polled := sound.of_changes (pollsLeft.changes.trans pollsRight.changes)
      obtain ⟨pushed, told, rfl⟩ := startsOver.resends polled
      intro side bank inside clean
      cases (isDirty_resendAll told inside).symm.trans clean
  | _ => cases connects

theorem Effect.coherent (h : Effect board deed after) (sound : board.Sound profile)
    (coherent : Coherent past board) : Coherent (deed :: past) after := by
  intro side bank inside clean
  rw [lastDelivered?_cons]
  by_cases other : ∀ left right, deed ≠ .sync left right
  · -- only streaming delivers frames
    have silent : deed.streamed side = [] := by
      cases deed with
      | sync => exact absurd rfl (other _ _)
      | scan => rfl
      | work => rfl
    have spares := (h.changes other side).spares (sound side)
    rw [spares.banks] at inside
    obtain ⟨before, same⟩ := spares.clean bank inside clean
    rw [silent, same]
    exact coherent side bank inside before
  · obtain ⟨left, right, rfl⟩ : ∃ left right, deed = .sync left right := by
      simpa using other
    cases h with
    | sync acts =>
      rcases streams_sync acts side with ⟨silent, same⟩ | ⟨_, streams⟩
      · rw [same] at inside clean ⊢
        rw [silent]
        exact coherent side bank inside clean
      · rw [streams.banks_eq] at inside
        rcases streams.clean_cases (sound side) inside clean with arrived | ⟨silent, before, same⟩
        · rw [arrived]
          rfl
        · rw [silent, same]
          exact coherent side bank inside before

theorem coherent_of_reaches (reaches : Reaches profile past board)
    (arrived : ∃ deed ∈ past, deed.connects = true) : Coherent past board := by
  induction reaches with
  | new =>
    obtain ⟨_, never, _⟩ := arrived
    cases never
  | @step past board after deed reaches does ih =>
    have effect := does_effect does
    by_cases connects : deed.connects = true
    · exact effect.coherent_of_connects reaches.sound connects
    · obtain ⟨earlier, member, connected⟩ := arrived
      rcases List.mem_cons.mp member with rfl | before
      · exact absurd connected connects
      · exact effect.coherent reaches.sound (ih ⟨earlier, before, connected⟩)

/-- **No clean bank is stale**: once a half came, the last frame of a clean bank that arrived is the
frame that its colors, the brightness and the profile make now, whatever was done and whatever the
bus answered. -/
theorem delivered_of_clean (reaches : Reaches profile past board)
    (arrived : ∃ deed ∈ past, deed.connects = true) {side : Side} {bank : Nat}
    (inside : bank < (board.half side).leds.banks)
    (clean : (board.half side).leds.isDirty bank = false) :
    lastDelivered? side bank past =
      some ((board.half side).leds.frame profile (board.half side).dimming bank) := by
  have delivered := coherent_of_reaches reaches arrived side bank inside clean
  rw [Half.bankFrame, (reaches.sound side).profile_eq] at delivered
  exact delivered

/-- Both halves come, the left one is given a color, and one bank of each is streamed. -/
theorem delivered_of_clean_first_bank :
    let run := history Script.partner .raise
      { replies := [[1, 0, 0, 0, 0, 0], [1, 0, 0, 0, 0, 0], [0], [0]] }
      [.sync, .work (.setLed .left 3 ⟨200, 100, 50⟩), .scan]
    (∃ deed ∈ run.1, deed.connects = true) ∧ 0 < (run.2.1.half .left).leds.banks ∧
    (run.2.1.half .left).leds.isDirty 0 = false ∧
    lastDelivered? .left 0 run.1 =
      some ((run.2.1.half .left).leds.frame .raise (run.2.1.half .left).dimming 0) :=
  ⟨by decide +kernel, by decide +kernel, by decide +kernel,
    delivered_of_clean
      (reaches_history Script.partner .raise
        { replies := [[1, 0, 0, 0, 0, 0], [1, 0, 0, 0, 0, 0], [0], [0]] }
        [.sync, .work (.setLed .left 3 ⟨200, 100, 50⟩), .scan])
      (by decide +kernel) (by decide +kernel) (by decide +kernel)⟩

end Runs

end Board

end SplitBoard

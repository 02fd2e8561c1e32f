import SplitBoard.Half.Streaming
import SplitBoard.Proofs.Conduct
import SplitBoard.Proofs.LedBuffer

/-!
# What an operation on a half can do

Every operation on a half is taken apart here once: which transactions it can
send, what they can end in, and which half comes out of each (`Consults`,
`Sends`, `Answers`, `Polls`, `Streams`).  The rest of the theory looks at these
cases and never at the operations again.

**Nothing is assumed of the bus**, so every status and every delivery is a case.
-/

namespace SplitBoard.Half

open Dialogue Bus

/-! ## Operations as dialogues -/

section Perform
variable {α β : Type} (half : Half)

theorem perform_bind (op : HalfOp α) (next : α → HalfOp β) :
    perform (op >>= next) half = (perform op half).bind fun
      | (.ok a, half) => perform (next a) half
      | (.error error, half) => .done (.error error, half) := by
  change ((ExceptT.run op).run half).bind _ = ((ExceptT.run op).run half).bind _
  congr 1
  funext ⟨result, half⟩
  cases result <;> rfl

theorem run_checkAvailable :
    checkAvailable.run half =
      if half.countdown = 0 then .done (true, half)
      else if half.countdown = 1 then
        .ask (.write half.address []) fun (status : Transmission) =>
        if status.isComplete then
          .ask (.tell (.present half.address)) fun _ =>
          .done (true, { half with online := true, countdown := 0 })
        else
          .ask (.tell (.absent half.address half.profile.retryBackoff)) fun _ =>
          .done (false, { half with online := false, countdown := max half.profile.retryBackoff 1 })
      else .done (false, { half with countdown := half.countdown - 1 }) := by
  unfold checkAvailable
  change StateT.run (if half.countdown = 0 then pure true else
    if half.countdown = 1 then _ else _) half = _
  by_cases zero : half.countdown = 0
  · rw [if_pos zero, if_pos zero]
    rfl
  · rw [if_neg zero, if_neg zero]
    by_cases one : half.countdown = 1
    · rw [if_pos one, if_pos one]
      change ask (V := vocabulary) (.write half.address []) _ = _
      congr 1
      funext (status : Transmission)
      cases status <;> rfl
    · rw [if_neg one, if_neg one]
      rfl

theorem perform_send (request : List UInt8) :
    perform (send request) half = (checkAvailable.run half).bind fun (available, half) =>
      if available then
        .ask (.write half.address request) fun (status : Transmission) =>
        if status.isComplete then .done (.ok (), { half with online := true })
        else
          .ask (.tell (.writeFailed (request.headD 0) half.address status)) fun _ =>
          .done (.error .noResponse, half.markUnavailable)
      else .done (.error .unavailable, half) := by
  unfold send requireAvailable
  change (((checkAvailable.run half).bind _).bind _).bind _ = _
  rw [Dialogue.bind_assoc, Dialogue.bind_assoc]
  congr 1
  funext ⟨available, half⟩
  cases available
  · rfl
  · change ask (V := vocabulary) (.write half.address request) _ = _
    congr 1
    funext (status : Transmission)
    cases status <;> rfl

theorem perform_readAnswer (command : UInt8) (length : Nat) :
    perform (readAnswer command length) half = (perform (send [command]) half).bind fun
      | (.ok (), half) =>
        .ask (.wait (half.profile.settleDelay.toNat * 1000)) fun _ =>
        .ask (.read half.address length) fun (delivery : Delivery length) =>
        if delivery.isFull then .done (.ok delivery.bytes, half)
        else
          .ask (.tell (.noAnswer command half.address)) fun _ =>
          .done (.error .noResponse, half.markUnavailable)
      | (.error error, half) => .done (.error error, half) := by
  unfold readAnswer
  rw [perform_bind]
  congr 1
  funext ⟨result, half⟩
  rcases result with error | _
  · rfl
  · change ask (V := vocabulary) (.wait (half.profile.settleDelay.toNat * 1000)) _ = _
    congr 1
    funext _
    change ask (V := vocabulary) (.read half.address length) _ = _
    congr 1
    funext (delivery : Delivery length)
    change perform (if delivery.isFull = true then _ else _) half = _
    cases delivery.isFull <;> rfl

theorem perform_readKeys :
    perform readKeys half = (checkAvailable.run half).bind fun (available, half) =>
      if available then
        .ask (.read half.address keyDataLength) fun (delivery : Delivery keyDataLength) =>
        if delivery.isFull ∧ delivery.bytes.headD 0 = keyDataTag then
          .done (.ok (half.keys.update (rowsOfKeyData delivery.bytes)),
            { half with keys := half.keys.update (rowsOfKeyData delivery.bytes), online := true })
        else
          .ask (.tell (.badKeyFrame half.address delivery.bytes.length (delivery.bytes.headD 0)))
            fun _ => .done (.error .badFrame, half.markUnavailable)
      else .done (.error .unavailable, half) := by
  unfold readKeys requireAvailable
  change (((checkAvailable.run half).bind _).bind _).bind _ = _
  rw [Dialogue.bind_assoc, Dialogue.bind_assoc]
  congr 1
  funext ⟨available, half⟩
  cases available
  · rfl
  · change ask (V := vocabulary) (.read half.address keyDataLength) _ = _
    congr 1
    funext (delivery : Delivery keyDataLength)
    change perform (if delivery.isFull ∧ delivery.bytes.headD 0 = keyDataTag then _ else _) half = _
    by_cases good : delivery.isFull ∧ delivery.bytes.headD 0 = keyDataTag
    · rw [if_pos good]
      dsimp only
      rw [if_pos good]
      rfl
    · rw [if_neg good]
      dsimp only
      rw [if_neg good]
      rfl

theorem perform_sendBank (bank : Nat) :
    perform (sendBank bank) half =
      .ask (.tell (.sendingBank bank half.address)) fun _ =>
      (perform (send (half.bankFrame bank)) half).bind fun
        | (.ok (), half) => .done (.ok (), half.mapLeds (·.clearDirty bank))
        | (.error error, half) => .done (.error error, half) := by
  unfold sendBank
  rw [perform_bind]
  change ask (V := vocabulary) (.tell (.sendingBank bank half.address)) _ = _
  congr 1
  funext _
  change perform (send (half.bankFrame bank) >>= fun _ => _) half = _
  rw [perform_bind]
  congr 1
  funext ⟨result, half⟩
  cases result <;> rfl

theorem perform_sendNextBank :
    perform sendNextBank half = perform (sendBank half.leds.takeNextBank.1)
      { half with leds := half.leds.takeNextBank.2 } := rfl

/-- It is the dirty bank's turn, and then that of the following one. -/
theorem perform_sendNextDirtyBank :
    perform sendNextDirtyBank half =
      match half.leds.nextDirtyBank? with
      | none => .done (.ok false, half)
      | some bank =>
        (perform sendNextBank (half.mapLeds (·.setNextBank bank))).bind fun
          | (.ok (), half) => .done (.ok true, half)
          | (.error error, half) => .done (.error error, half) := by
  unfold sendNextDirtyBank
  change perform (match half.leds.nextDirtyBank? with
    | none => _
    | some bank => _) half = _
  rcases half.leds.nextDirtyBank? with _ | bank
  · rfl
  · change perform (sendNextBank >>= fun _ => pure true) (half.mapLeds (·.setNextBank bank)) = _
    rw [perform_bind]
    congr 1
    funext ⟨result, half⟩
    cases result <;> rfl

end Perform

/-! ## What can come of them -/

/-- Consulting the countdown: the half is there, comes back, stays away, or is not asked. -/
inductive Consults (half : Half) : Talk → Bool → Half → Prop where
  | present (here : half.countdown = 0) : Consults half [] true half
  | returned (due : half.countdown = 1) :
      Consults half [⟨.write half.address [], Transmission.complete⟩,
        ⟨.tell (.present half.address), ()⟩] true { half with online := true, countdown := 0 }
  | absent (due : half.countdown = 1) {status : Transmission} (refused : status ≠ .complete) :
      Consults half [⟨.write half.address [], status⟩,
        ⟨.tell (.absent half.address half.profile.retryBackoff), ()⟩] false
        { half with online := false, countdown := max half.profile.retryBackoff 1 }
  | silent (away : half.countdown ≠ 0) (early : half.countdown ≠ 1) :
      Consults half [] false { half with countdown := half.countdown - 1 }

/-- Sending a request. -/
inductive Sends (request : List UInt8) (half : Half) :
    Talk → Except LinkError Unit → Half → Prop where
  | unavailable {said : Talk} {half' : Half} (consults : Consults half said false half') :
      Sends request half said (.error .unavailable) half'
  | refused {said : Talk} {half' : Half} (consults : Consults half said true half')
      {status : Transmission} (refused : status ≠ .complete) :
      Sends request half
        (said ++ [⟨.write half'.address request, status⟩,
          ⟨.tell (.writeFailed (request.headD 0) half'.address status), ()⟩])
        (.error .noResponse) half'.markUnavailable
  | acknowledged {said : Talk} {half' : Half} (consults : Consults half said true half') :
      Sends request half (said ++ [⟨.write half'.address request, Transmission.complete⟩])
        (.ok ()) { half' with online := true }

/-- Reading the answer to a command. -/
inductive Answers (command : UInt8) (length : Nat) (half : Half) :
    Talk → Except LinkError (List UInt8) → Half → Prop where
  | unsent {said : Talk} {error : LinkError} {half' : Half}
      (sends : Sends [command] half said (.error error) half') :
      Answers command length half said (.error error) half'
  | short {said : Talk} {half' : Half} (sends : Sends [command] half said (.ok ()) half')
      {delivery : Delivery length} (short : ¬delivery.isFull = true) :
      Answers command length half
        (said ++ [⟨.wait (half'.profile.settleDelay.toNat * 1000), ()⟩,
          ⟨.read half'.address length, delivery⟩, ⟨.tell (.noAnswer command half'.address), ()⟩])
        (.error .noResponse) half'.markUnavailable
  | full {said : Talk} {half' : Half} (sends : Sends [command] half said (.ok ()) half')
      {delivery : Delivery length} (full : delivery.isFull = true) :
      Answers command length half
        (said ++ [⟨.wait (half'.profile.settleDelay.toNat * 1000), ()⟩,
          ⟨.read half'.address length, delivery⟩])
        (.ok delivery.bytes) half'

/-- Reading the keys. -/
inductive Polls (half : Half) :
    Talk → Except LinkError (Keys halfRows halfCols) → Half → Prop where
  | unavailable {said : Talk} {half' : Half} (consults : Consults half said false half') :
      Polls half said (.error .unavailable) half'
  | bad {said : Talk} {half' : Half} (consults : Consults half said true half')
      {delivery : Delivery keyDataLength}
      (bad : ¬(delivery.isFull = true ∧ delivery.bytes.headD 0 = keyDataTag)) :
      Polls half
        (said ++ [⟨.read half'.address keyDataLength, delivery⟩,
          ⟨.tell (.badKeyFrame half'.address delivery.bytes.length (delivery.bytes.headD 0)), ()⟩])
        (.error .badFrame) half'.markUnavailable
  | good {said : Talk} {half' : Half} (consults : Consults half said true half')
      {delivery : Delivery keyDataLength}
      (good : delivery.isFull = true ∧ delivery.bytes.headD 0 = keyDataTag) :
      Polls half (said ++ [⟨.read half'.address keyDataLength, delivery⟩])
        (.ok (half'.keys.update (rowsOfKeyData delivery.bytes)))
        { half' with keys := half'.keys.update (rowsOfKeyData delivery.bytes), online := true }

/-- Sending one bank: it arrives and is clean, or it does not arrive. -/
inductive SendsBank (bank : Nat) (half : Half) : Talk → Except LinkError Unit → Half → Prop where
  | sent {said : Talk} {half' : Half}
      (sends : Sends (half.bankFrame bank) half said (.ok ()) half') :
      SendsBank bank half (⟨.tell (.sendingBank bank half.address), ()⟩ :: said) (.ok ())
        (half'.mapLeds (·.clearDirty bank))
  | unsent {said : Talk} {error : LinkError} {half' : Half}
      (sends : Sends (half.bankFrame bank) half said (.error error) half') :
      SendsBank bank half (⟨.tell (.sendingBank bank half.address), ()⟩ :: said) (.error error)
        half'

/-- The half once a bank had its turn. -/
def passTurn (half : Half) (bank : Nat) : Half :=
  half.mapLeds fun leds => { leds with nextBank := (bank + 1) % max leds.banks 1 }

/-- Sending the next dirty bank: none is dirty, it arrives and is clean, or it does not arrive. -/
inductive Streams (half : Half) : Talk → Except LinkError Bool → Half → Prop where
  | clean (none : half.leds.nextDirtyBank? = none) : Streams half [] (.ok false) half
  | sent {bank : Nat} (next : half.leds.nextDirtyBank? = some bank) {said : Talk} {half' : Half}
      (sends : Sends (half.bankFrame bank) (half.passTurn bank) said (.ok ()) half') :
      Streams half (⟨.tell (.sendingBank bank half.address), ()⟩ :: said) (.ok true)
        (half'.mapLeds (·.clearDirty bank))
  | unsent {bank : Nat} (next : half.leds.nextDirtyBank? = some bank) {said : Talk}
      {error : LinkError} {half' : Half}
      (sends : Sends (half.bankFrame bank) (half.passTurn bank) said (.error error) half') :
      Streams half (⟨.tell (.sendingBank bank half.address), ()⟩ :: said) (.error error) half'

section Plays
variable {half half' : Half} {said : Talk}

/-- An operation in two parts fails with the first one, or goes on with its result. -/
theorem plays_perform_bind {α β : Type} {op : HalfOp α} {next : α → HalfOp β}
    {result : Except LinkError β} (h : Plays (perform (op >>= next) half) said (result, half')) :
    (∃ error, result = .error error ∧ Plays (perform op half) said (.error error, half')) ∨
      ∃ first rest a mid, said = first ++ rest ∧ Plays (perform op half) first (.ok a, mid) ∧
        Plays (perform (next a) mid) rest (result, half') := by
  rw [perform_bind] at h
  obtain ⟨first, rest, ⟨r, mid⟩, rfl, works, after⟩ := plays_bind_iff.mp h
  rcases r with error | a
  · obtain ⟨rfl, ⟨⟩⟩ := plays_done_iff.mp (show Plays (done _) rest _ from after)
    rw [List.append_nil]
    exact .inl ⟨error, rfl, works⟩
  · exact .inr ⟨first, rest, a, mid, rfl, works, after⟩

theorem plays_perform_map {α β : Type} {op : HalfOp α} {f : α → β} {result : Except LinkError β}
    (h : Plays (perform (op >>= fun a => pure (f a)) half) said (result, half')) :
    ∃ r, Plays (perform op half) said (r, half') ∧ result = r.map f := by
  rcases plays_perform_bind h with ⟨error, rfl, works⟩ | ⟨first, rest, a, mid, rfl, works, after⟩
  · exact ⟨.error error, works, rfl⟩
  · obtain ⟨rfl, ⟨⟩⟩ := plays_done_iff.mp (show Plays (done _) rest _ from after)
    rw [List.append_nil]
    exact ⟨.ok a, works, rfl⟩

theorem plays_checkAvailable {available : Bool}
    (h : Plays (checkAvailable.run half) said (available, half')) :
    Consults half said available half' := by
  rw [run_checkAvailable] at h
  by_cases zero : half.countdown = 0
  · rw [if_pos zero] at h
    obtain ⟨rfl, ⟨⟩⟩ := plays_done_iff.mp h
    exact .present zero
  rw [if_neg zero] at h
  by_cases one : half.countdown = 1
  · rw [if_pos one] at h
    obtain ⟨(status : Transmission), rest, rfl, probed⟩ := plays_ask_iff.mp h
    by_cases complete : status = .complete
    · subst complete
      obtain ⟨_, rest, rfl, told⟩ := plays_ask_iff.mp (show Plays (ask _ _) rest _ from probed)
      obtain ⟨rfl, ⟨⟩⟩ := plays_done_iff.mp told
      exact .returned one
    · rw [if_neg (by simpa [Transmission.isComplete] using complete)] at probed
      obtain ⟨_, rest, rfl, told⟩ := plays_ask_iff.mp probed
      obtain ⟨rfl, ⟨⟩⟩ := plays_done_iff.mp told
      exact .absent one complete
  · rw [if_neg one] at h
    obtain ⟨rfl, ⟨⟩⟩ := plays_done_iff.mp h
    exact .silent zero one

theorem plays_send {request : List UInt8} {result : Except LinkError Unit}
    (h : Plays (perform (send request) half) said (result, half')) :
    Sends request half said result half' := by
  rw [perform_send] at h
  obtain ⟨first, rest, ⟨available, half₁⟩, rfl, consulted, after⟩ := plays_bind_iff.mp h
  have consults := plays_checkAvailable consulted
  cases available
  · obtain ⟨rfl, ⟨⟩⟩ := plays_done_iff.mp (show Plays (done _) rest _ from after)
    rw [List.append_nil]
    exact .unavailable consults
  · obtain ⟨(status : Transmission), rest, rfl, written⟩ :=
      plays_ask_iff.mp (show Plays (ask _ _) rest _ from after)
    by_cases complete : status = .complete
    · subst complete
      obtain ⟨rfl, ⟨⟩⟩ := plays_done_iff.mp (show Plays (done _) rest _ from written)
      exact .acknowledged consults
    · rw [if_neg (by simpa [Transmission.isComplete] using complete)] at written
      obtain ⟨_, rest, rfl, told⟩ := plays_ask_iff.mp written
      obtain ⟨rfl, ⟨⟩⟩ := plays_done_iff.mp told
      exact .refused consults complete

theorem plays_readAnswer {command : UInt8} {length : Nat} {result : Except LinkError (List UInt8)}
    (h : Plays (perform (readAnswer command length) half) said (result, half')) :
    Answers command length half said result half' := by
  rw [perform_readAnswer] at h
  obtain ⟨first, rest, ⟨sent, half₁⟩, rfl, sending, after⟩ := plays_bind_iff.mp h
  have sends := plays_send sending
  rcases sent with error | _
  · obtain ⟨rfl, ⟨⟩⟩ := plays_done_iff.mp (show Plays (done _) rest _ from after)
    rw [List.append_nil]
    exact .unsent sends
  · obtain ⟨_, rest, rfl, waited⟩ := plays_ask_iff.mp (show Plays (ask _ _) rest _ from after)
    obtain ⟨(delivery : Delivery length), rest, rfl, read⟩ := plays_ask_iff.mp waited
    by_cases full : delivery.isFull = true
    · rw [if_pos full] at read
      obtain ⟨rfl, ⟨⟩⟩ := plays_done_iff.mp read
      exact .full sends full
    · rw [if_neg full] at read
      obtain ⟨_, rest, rfl, told⟩ := plays_ask_iff.mp read
      obtain ⟨rfl, ⟨⟩⟩ := plays_done_iff.mp told
      exact .short sends full

/-- A number that stands for no clock is a bad frame, and that is found out last. -/
theorem plays_readSpiClock {clock : Except LinkError SpiClock}
    (h : Plays (perform readSpiClock half) said (clock, half')) :
    ∃ answer, Answers Command.ledSpiClock 1 half said answer half' ∧
      clock = answer.bind fun bytes =>
        (SpiClock.ofCode? (bytes.headD 0)).elim (.error .badFrame) .ok := by
  rcases plays_perform_bind h with
    ⟨error, rfl, fails⟩ | ⟨first, rest, code, mid, rfl, works, after⟩
  · obtain ⟨answer, asks, failed⟩ := plays_perform_map fails
    cases answer with
    | error => exact ⟨_, plays_readAnswer asks, congrArg _ (Except.error.inj failed)⟩
    | ok => cases failed
  · obtain ⟨answer, asks, read⟩ := plays_perform_map works
    cases answer with
    | error => cases read
    | ok bytes =>
      obtain rfl := Except.ok.inj read
      have ends : rest = [] ∧ clock = (SpiClock.ofCode? (bytes.headD 0)).elim
          (.error .badFrame) .ok ∧ half' = mid := by
        rcases known : SpiClock.ofCode? (bytes.headD 0) with _ | found
        all_goals
          rw [known] at after
          obtain ⟨rfl, ⟨⟩⟩ := plays_done_iff.mp (show Plays (done _) rest _ from after)
          exact ⟨rfl, rfl, rfl⟩
      obtain ⟨rfl, rfl, rfl⟩ := ends
      rw [List.append_nil]
      exact ⟨_, plays_readAnswer asks, rfl⟩

theorem plays_readKeys {result : Except LinkError (Keys halfRows halfCols)}
    (h : Plays (perform readKeys half) said (result, half')) : Polls half said result half' := by
  rw [perform_readKeys] at h
  obtain ⟨first, rest, ⟨available, half₁⟩, rfl, consulted, after⟩ := plays_bind_iff.mp h
  have consults := plays_checkAvailable consulted
  cases available
  · obtain ⟨rfl, ⟨⟩⟩ := plays_done_iff.mp (show Plays (done _) rest _ from after)
    rw [List.append_nil]
    exact .unavailable consults
  · obtain ⟨(delivery : Delivery keyDataLength), rest, rfl, read⟩ :=
      plays_ask_iff.mp (show Plays (ask _ _) rest _ from after)
    by_cases good : delivery.isFull = true ∧ delivery.bytes.headD 0 = keyDataTag
    · rw [if_pos good] at read
      obtain ⟨rfl, ⟨⟩⟩ := plays_done_iff.mp read
      exact .good consults good
    · rw [if_neg good] at read
      obtain ⟨_, rest, rfl, told⟩ := plays_ask_iff.mp read
      obtain ⟨rfl, ⟨⟩⟩ := plays_done_iff.mp told
      exact .bad consults good

theorem plays_sendBank {bank : Nat} {result : Except LinkError Unit}
    (h : Plays (perform (sendBank bank) half) said (result, half')) :
    SendsBank bank half said result half' := by
  rw [perform_sendBank] at h
  obtain ⟨_, rest, rfl, told⟩ := plays_ask_iff.mp h
  obtain ⟨first, second, ⟨sent, half₁⟩, rfl, sending, after⟩ := plays_bind_iff.mp told
  have sends := plays_send sending
  rcases sent with error | _
  · obtain ⟨rfl, ⟨⟩⟩ := plays_done_iff.mp (show Plays (done _) second _ from after)
    rw [List.append_nil]
    exact .unsent sends
  · obtain ⟨rfl, ⟨⟩⟩ := plays_done_iff.mp (show Plays (done _) second _ from after)
    rw [List.append_nil]
    exact .sent sends

theorem plays_sendNextDirtyBank {result : Except LinkError Bool}
    (h : Plays (perform sendNextDirtyBank half) said (result, half')) :
    Streams half said result half' := by
  rw [perform_sendNextDirtyBank] at h
  rcases next : half.leds.nextDirtyBank? with _ | bank
  · simp only [next] at h
    obtain ⟨rfl, ⟨⟩⟩ := plays_done_iff.mp h
    exact .clean next
  · -- the bank that was found is the one whose turn is taken
    have turn := LedBuffer.takeNextBank_setNextBank
      (LedBuffer.lt_banks_of_isDirty (LedBuffer.isDirty_of_nextDirtyBank? next))
    simp only [next, perform_sendNextBank, mapLeds, turn] at h
    obtain ⟨first, second, ⟨sent, half₁⟩, rfl, sending, after⟩ := plays_bind_iff.mp h
    have sends : SendsBank bank (half.passTurn bank) first sent half₁ := plays_sendBank sending
    cases sends with
    | sent sends =>
      obtain ⟨rfl, ⟨⟩⟩ := plays_done_iff.mp (show Plays (done _) second _ from after)
      rw [List.append_nil]
      exact .sent next sends
    | unsent sends =>
      obtain ⟨rfl, ⟨⟩⟩ := plays_done_iff.mp (show Plays (done _) second _ from after)
      rw [List.append_nil]
      exact .unsent next sends

end Plays

/-! ## Availability -/

/-- A half counts as online exactly while no probe is due. -/
def Consistent (half : Half) : Prop :=
  half.online = true ↔ half.countdown = 0

theorem consistent_new (select : UInt8) (profile : Profile) : (new select profile).Consistent := by
  simp [Consistent, new]

theorem consistent_markUnavailable (half : Half) : half.markUnavailable.Consistent := by
  simp [Consistent, markUnavailable]

section Outcomes
variable {half half' : Half} {said : Talk}

theorem Consults.countdown_eq_zero (h : Consults half said true half') : half'.countdown = 0 := by
  cases h with
  | present here => exact here
  | returned => rfl

/-- Whether the half may be talked to is whether it is online afterwards. -/
theorem Consults.online_eq {available : Bool} (h : Consults half said available half')
    (consistent : half.Consistent) : half'.online = available := by
  cases h with
  | present here => exact consistent.mpr here
  | returned => rfl
  | absent => rfl
  | silent away =>
    have offline : ¬half.online = true := fun online => away (consistent.mp online)
    simpa using offline

theorem Consults.consistent {available : Bool} (h : Consults half said available half')
    (consistent : half.Consistent) : half'.Consistent := by
  have online := h.online_eq consistent
  cases h with
  | present => exact consistent
  | returned => simp [Consistent]
  | absent =>
    -- a half that is absent waits for one operation at least
    have positive : max half.profile.retryBackoff 1 ≠ 0 := by
      change (if half.profile.retryBackoff ≤ 1 then 1 else half.profile.retryBackoff) ≠ 0
      split
      case isTrue => decide
      case isFalse large =>
        intro zero
        rw [zero] at large
        exact large (by decide)
    simp [Consistent, positive]
  | silent away early =>
    -- above one, a step down does not reach zero
    have positive : half.countdown - 1 ≠ 0 := fun zero => early (by
      rw [← UInt16.sub_add_cancel half.countdown 1, zero]
      rfl)
    exact ⟨fun here => absurd (online.symm.trans here) nofun, fun here => absurd here positive⟩

theorem Sends.online_iff {request : List UInt8} {result : Except LinkError Unit}
    (h : Sends request half said result half') (consistent : half.Consistent) :
    half'.online = true ↔ result = .ok () := by
  cases h with
  | unavailable consults => simp [consults.online_eq consistent]
  | refused => simp [markUnavailable]
  | acknowledged => simp

theorem Sends.consistent {request : List UInt8} {result : Except LinkError Unit}
    (h : Sends request half said result half') (consistent : half.Consistent) :
    half'.Consistent := by
  cases h with
  | unavailable consults => exact consults.consistent consistent
  | refused => exact consistent_markUnavailable _
  | acknowledged consults => simp [Consistent, consults.countdown_eq_zero]

theorem Answers.consistent {command : UInt8} {length : Nat} {result : Except LinkError (List UInt8)}
    (h : Answers command length half said result half') (consistent : half.Consistent) :
    half'.Consistent := by
  cases h with
  | unsent sends => exact sends.consistent consistent
  | short => exact consistent_markUnavailable _
  | full sends => exact sends.consistent consistent

theorem Polls.consistent {result : Except LinkError (Keys halfRows halfCols)}
    (h : Polls half said result half') (consistent : half.Consistent) : half'.Consistent := by
  cases h with
  | unavailable consults => exact consults.consistent consistent
  | bad => exact consistent_markUnavailable _
  | good consults => simp [Consistent, consults.countdown_eq_zero]

/-! ## What stays as it was -/

/-- Two halves that differ at most in whether they are there. -/
def Moved (half half' : Half) : Prop :=
  half' = { half with online := half'.online, countdown := half'.countdown }

theorem Moved.trans {half'' : Half} (h : half.Moved half') (h' : half'.Moved half'') :
    half.Moved half'' := by
  unfold Moved at h h' ⊢
  rw [h', h]

theorem moved_markUnavailable (half : Half) : half.Moved half.markUnavailable := rfl

theorem Moved.address_eq (h : half.Moved half') : half'.address = half.address := by
  rw [h]
  rfl

theorem Moved.keys_eq (h : half.Moved half') : half'.keys = half.keys := by
  rw [h]

theorem Moved.leds_eq (h : half.Moved half') : half'.leds = half.leds := by
  rw [h]

theorem Moved.bankFrame_eq (h : half.Moved half') (bank : Nat) :
    half'.bankFrame bank = half.bankFrame bank := by
  rw [h]
  rfl

theorem Consults.moved {available : Bool} (h : Consults half said available half') :
    half.Moved half' := by
  cases h <;> rfl

theorem Sends.moved {request : List UInt8} {result : Except LinkError Unit}
    (h : Sends request half said result half') : half.Moved half' := by
  cases h with
  | unavailable consults => exact consults.moved
  | refused consults => exact consults.moved.trans (moved_markUnavailable _)
  | acknowledged consults => exact consults.moved.trans rfl

theorem Answers.moved {command : UInt8} {length : Nat} {result : Except LinkError (List UInt8)}
    (h : Answers command length half said result half') : half.Moved half' := by
  cases h with
  | unsent sends => exact sends.moved
  | short sends => exact sends.moved.trans (moved_markUnavailable _)
  | full sends => exact sends.moved

/-- Reading the keys changes no more than the keys besides. -/
theorem Polls.moved {result : Except LinkError (Keys halfRows halfCols)}
    (h : Polls half said result half') : { half with keys := half'.keys }.Moved half' := by
  cases h with
  | unavailable consults =>
    have moved := consults.moved
    rw [moved]
    rfl
  | bad consults =>
    have moved := consults.moved
    rw [moved]
    rfl
  | good consults =>
    have moved := consults.moved
    rw [moved]
    rfl

/-! ## What is written -/

/-- A write goes to the address, and is a probe or one of the allowed ones. -/
def MayWrite (address : UInt8) (allowed : List UInt8 → Prop) : Request → Prop
  | .write a bytes => a = address ∧ (bytes = [] ∨ allowed bytes)
  | _ => True

/-- Every write does. -/
def WritesOnly (address : UInt8) (allowed : List UInt8 → Prop) (said : Talk) : Prop :=
  ∀ e ∈ said, MayWrite address allowed e.request

variable {address : UInt8} {allowed : List UInt8 → Prop}

theorem writesOnly_nil : WritesOnly address allowed [] := nofun

theorem writesOnly_cons {e : Exchange vocabulary} {rest : Talk} :
    WritesOnly address allowed (e :: rest) ↔
      MayWrite address allowed e.request ∧ WritesOnly address allowed rest :=
  List.forall_mem_cons

theorem writesOnly_append {first second : Talk} :
    WritesOnly address allowed (first ++ second) ↔
      WritesOnly address allowed first ∧ WritesOnly address allowed second :=
  List.forall_mem_append

/-- The countdown writes probes only. -/
theorem Consults.writesOnly {available : Bool} (h : Consults half said available half') :
    WritesOnly half.address allowed said := by
  cases h with
  | present => exact writesOnly_nil
  | returned => exact writesOnly_cons.mpr ⟨⟨rfl, .inl rfl⟩,
      writesOnly_cons.mpr ⟨trivial, writesOnly_nil⟩⟩
  | absent => exact writesOnly_cons.mpr ⟨⟨rfl, .inl rfl⟩,
      writesOnly_cons.mpr ⟨trivial, writesOnly_nil⟩⟩
  | silent => exact writesOnly_nil

theorem Sends.writesOnly {request : List UInt8} {result : Except LinkError Unit}
    (h : Sends request half said result half') (allow : allowed request) :
    WritesOnly half.address allowed said := by
  cases h with
  | unavailable consults => exact consults.writesOnly
  | refused consults =>
    refine writesOnly_append.mpr ⟨consults.writesOnly, ?_⟩
    rw [consults.moved.address_eq]
    exact writesOnly_cons.mpr ⟨⟨rfl, .inr allow⟩, writesOnly_cons.mpr ⟨trivial, writesOnly_nil⟩⟩
  | acknowledged consults =>
    refine writesOnly_append.mpr ⟨consults.writesOnly, ?_⟩
    rw [consults.moved.address_eq]
    exact writesOnly_cons.mpr ⟨⟨rfl, .inr allow⟩, writesOnly_nil⟩

theorem Answers.writesOnly {command : UInt8} {length : Nat}
    {result : Except LinkError (List UInt8)} (h : Answers command length half said result half')
    (allow : allowed [command]) : WritesOnly half.address allowed said := by
  cases h with
  | unsent sends => exact sends.writesOnly allow
  | short sends =>
    refine writesOnly_append.mpr ⟨sends.writesOnly allow, ?_⟩
    simp [WritesOnly, MayWrite]
  | full sends =>
    refine writesOnly_append.mpr ⟨sends.writesOnly allow, ?_⟩
    simp [WritesOnly, MayWrite]

theorem Polls.writesOnly {result : Except LinkError (Keys halfRows halfCols)}
    (h : Polls half said result half') : WritesOnly half.address allowed said := by
  cases h with
  | unavailable consults => exact consults.writesOnly
  | bad consults =>
    refine writesOnly_append.mpr ⟨consults.writesOnly, ?_⟩
    simp [WritesOnly, MayWrite]
  | good consults =>
    refine writesOnly_append.mpr ⟨consults.writesOnly, ?_⟩
    simp [WritesOnly, MayWrite]

/-- The request itself completes exactly if the operation succeeds. -/
theorem Sends.mem_iff {request : List UInt8} {result : Except LinkError Unit}
    (h : Sends request half said result half') (content : request ≠ []) :
    ⟨.write half.address request, Transmission.complete⟩ ∈ said ↔ result = .ok () := by
  -- probes are empty, and the request is not
  have quiet : ∀ {said : Talk} {available : Bool} {half' : Half},
      Consults half said available half' →
      ⟨.write half.address request, Transmission.complete⟩ ∉ said := by
    intro said available half' consults member
    have probes : WritesOnly half.address (fun _ => False) said := consults.writesOnly
    rcases (probes _ member).2 with none | never
    · exact content none
    · exact never
  cases h with
  | unavailable consults => simpa using quiet consults
  | refused consults refused => simpa [refused.symm] using quiet consults
  | acknowledged consults => simp [consults.moved.address_eq]

/-! ## What is read -/

/-- Nothing is read. -/
def NoReads (said : Talk) : Prop :=
  ∀ e ∈ said, ∀ address length, e.request ≠ .read address length

theorem noReads_nil : NoReads [] := nofun

theorem noReads_write (address : UInt8) (bytes : List UInt8) (status : Transmission) :
    NoReads [⟨.write address bytes, status⟩] :=
  List.forall_mem_cons.mpr ⟨nofun, noReads_nil⟩

theorem noReads_tell (note : Note) : NoReads [⟨.tell note, ()⟩] :=
  List.forall_mem_cons.mpr ⟨nofun, noReads_nil⟩

theorem NoReads.append {first second : Talk} (h : NoReads first) (h' : NoReads second) :
    NoReads (first ++ second) :=
  List.forall_mem_append.mpr ⟨h, h'⟩

/-- The countdown reads nothing. -/
theorem Consults.noReads {available : Bool} (h : Consults half said available half') :
    NoReads said := by
  cases h with
  | present | silent => exact noReads_nil
  | returned | absent => exact (noReads_write _ _ _).append (noReads_tell _)

theorem Sends.noReads {request : List UInt8} {result : Except LinkError Unit}
    (h : Sends request half said result half') : NoReads said := by
  cases h with
  | unavailable consults => exact consults.noReads
  | refused consults =>
    exact consults.noReads.append ((noReads_write _ _ _).append (noReads_tell _))
  | acknowledged consults => exact consults.noReads.append (noReads_write _ _ _)

end Outcomes

/-! ## Operations that change nothing but availability -/

/-- Whatever the bus does, the operation leaves all but the availability of the half alone, and it
writes only what is allowed. -/
def Moves {α : Type} (op : HalfOp α) (allowed : List UInt8 → Prop) : Prop :=
  ∀ (half half' : Half) (said : Talk) (result : Except LinkError α),
    Plays (perform op half) said (result, half') →
    half.Moved half' ∧ (half.Consistent → half'.Consistent) ∧
      WritesOnly half.address allowed said

theorem moves_send (request : List UInt8) : Moves (send request) (· = request) := by
  intro half half' said result h
  have sends := plays_send h
  exact ⟨sends.moved, sends.consistent, sends.writesOnly rfl⟩

theorem moves_readAnswer (command : UInt8) (length : Nat) :
    Moves (readAnswer command length) (· = [command]) := by
  intro half half' said result h
  have answers := plays_readAnswer h
  exact ⟨answers.moved, answers.consistent, answers.writesOnly rfl⟩

/-- Looking at a result on the way changes nothing. -/
theorem Moves.map {α β : Type} {op : HalfOp α} {allowed : List UInt8 → Prop}
    (h : Moves op allowed) (f : α → β) : Moves (op >>= fun a => pure (f a)) allowed := by
  intro half half' said result plays
  obtain ⟨r, works, -⟩ := plays_perform_map plays
  exact h half half' said r works

theorem moves_readRegister (command : UInt8) : Moves (readRegister command) (· = [command]) :=
  Moves.map (moves_readAnswer command 1) _

theorem moves_readLayout : Moves readLayout (· = [Command.layout]) :=
  Moves.map (moves_readRegister Command.layout) _

end SplitBoard.Half

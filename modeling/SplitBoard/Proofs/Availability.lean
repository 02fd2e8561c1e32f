import SplitBoard.Bus.Script
import SplitBoard.Proofs.HalfOps

/-!
# When a half is talked to

A countdown stands before every operation on a half.  At zero the half is talked
to, at one it is probed first, above one it is left alone.  **Whatever is done to
a half, and whatever the bus answers, it counts as online exactly while the
countdown is zero**, and it only comes back by a probe that was answered after
everything that failed (`Watched`).

All operations come to one of three ends (`Attempts`): the half is taken to be
away, it does not do its part and is probed next time, or it is there.
-/

namespace SplitBoard.Half

open Dialogue Bus

/-! ## Operations -/

/-- The operations on a half by itself. -/
inductive Task where
  | send (request : List UInt8)
  | readRegister (command : UInt8)
  | writeRegister (command value : UInt8)
  | readKeys
  | readVersion
  | readKeyscanInterval
  | setKeyscanInterval (interval : UInt8)
  | readSpiClock
  | setSpiClock (clock : SpiClock)
  | setColsUsePullups (enabled : Bool)
  | setGlobalBrightness (level : UInt8)
  | readSledStatus
  | readSledCurrent
  | setSledCurrent (current : UInt8)
  | sledSelfTest
  | readOpenLeds
  | readShortedLeds
  | readLayout
  | readJoint
  | showOnAll (color : Color)
  | showOnOne (led : UInt8) (color : Color)

/-- Carry the task out, whatever it reads. -/
def Task.op : Task → HalfOp Unit
  | send request => Half.send request
  | readRegister command => do let _ ← Half.readRegister command
  | writeRegister command value => Half.writeRegister command value
  | readKeys => do let _ ← Half.readKeys
  | readVersion => do let _ ← Half.readVersion
  | readKeyscanInterval => do let _ ← Half.readKeyscanInterval
  | setKeyscanInterval interval => Half.setKeyscanInterval interval
  | readSpiClock => do let _ ← Half.readSpiClock
  | setSpiClock clock => Half.setSpiClock clock
  | setColsUsePullups enabled => Half.setColsUsePullups enabled
  | setGlobalBrightness level => Half.setGlobalBrightness level
  | readSledStatus => do let _ ← Half.readSledStatus
  | readSledCurrent => do let _ ← Half.readSledCurrent
  | setSledCurrent current => Half.setSledCurrent current
  | sledSelfTest => Half.sledSelfTest
  | readOpenLeds => do let _ ← Half.readOpenLeds
  | readShortedLeds => do let _ ← Half.readShortedLeds
  | readLayout => do let _ ← Half.readLayout
  | readJoint => do let _ ← Half.readJoint
  | showOnAll color => Half.showOnAll color
  | showOnOne led color => Half.showOnOne led color

/-- What the task writes to a half that is there.  Keys are read without a request. -/
def Task.request? (half : Half) : Task → Option (List UInt8)
  | send request => some request
  | readRegister command => some [command]
  | writeRegister command value => some [command, value]
  | readKeys => none
  | readVersion => some [Command.version]
  | readKeyscanInterval => some [Command.keyscanInterval]
  | setKeyscanInterval interval => some [Command.keyscanInterval, interval]
  | readSpiClock => some [Command.ledSpiClock]
  | setSpiClock clock => some [Command.ledSpiClock, clock.code]
  | setColsUsePullups enabled => some [Command.colsUsePullups, if enabled then 1 else 0]
  | setGlobalBrightness level => some [Command.globalBrightness, level]
  | readSledStatus => some [Command.sledStatus]
  | readSledCurrent => some [Command.sledCurrent]
  | setSledCurrent current => some [Command.sledCurrent, current]
  | sledSelfTest => some [Command.sledSelfTest]
  | readOpenLeds => some [Command.ledOpen]
  | readShortedLeds => some [Command.ledShort]
  | readLayout => some [Command.layout]
  | readJoint => some [Command.joined]
  | showOnAll color => some (Command.setAllLeds :: half.correctedLevels color)
  | showOnOne led color => some (Command.setOneLed :: led :: half.correctedLevels color)

/-! ## What is said with one address -/

/-- What occupied the bus; notes and pauses do not. -/
def transactions (said : Talk) : Talk :=
  said.filter fun e => e.request.address?.isSome

theorem transactions_append {first second : Talk} :
    transactions (first ++ second) = transactions first ++ transactions second :=
  List.filter_append first second

/-- The bytes of a write. -/
def written? (e : Exchange vocabulary) : Option (List UInt8) :=
  match e.request with
  | .write _ bytes => some bytes
  | .hold _ bytes => some bytes
  | _ => none

/-- Only this address is spoken with, and just these frames are written to it. -/
structure Speaks (address : UInt8) (frames : List (List UInt8)) (said : Talk) : Prop where
  address_eq : ∀ e ∈ said, ∀ other, e.request.address? = some other → other = address
  written_eq : said.filterMap written? = frames

section Speaks
variable {address : UInt8} {frames more : List (List UInt8)} {first second : Talk}

theorem Speaks.append (h : Speaks address frames first) (h' : Speaks address more second) :
    Speaks address (frames ++ more) (first ++ second) := by
  refine ⟨fun e member => ?_, ?_⟩
  · rcases List.mem_append.mp member with before | after
    · exact h.address_eq e before
    · exact h'.address_eq e after
  · rw [List.filterMap_append, h.written_eq, h'.written_eq]

theorem speaks_write (address : UInt8) (bytes : List UInt8) (status : Transmission) :
    Speaks address [bytes] [⟨.write address bytes, status⟩] := by
  refine ⟨fun e member other here => ?_, rfl⟩
  rw [List.mem_singleton.mp member] at here
  exact (Option.some.inj here).symm

theorem speaks_read (address : UInt8) {length : Nat} (delivery : Delivery length) :
    Speaks address [] [⟨.read address length, delivery⟩] := by
  refine ⟨fun e member other here => ?_, rfl⟩
  rw [List.mem_singleton.mp member] at here
  exact (Option.some.inj here).symm

theorem speaks_tell (address : UInt8) (note : Note) : Speaks address [] [⟨.tell note, ()⟩] := by
  refine ⟨fun e member other here => ?_, rfl⟩
  rw [List.mem_singleton.mp member] at here
  cases here

theorem speaks_wait (address : UInt8) (nanoseconds : Nat) :
    Speaks address [] [⟨.wait nanoseconds, ()⟩] := by
  refine ⟨fun e member other here => ?_, rfl⟩
  rw [List.mem_singleton.mp member] at here
  cases here

end Speaks

/-! ## What becomes of an operation -/

/-- Everything an operation can come to, by what it writes to a half that is there. -/
inductive Attempts (request? : Option (List UInt8)) (half : Half) :
    Talk → Option LinkError → Half → Prop where
  /-- The half is taken to be away. -/
  | unavailable {said : Talk} {half' : Half} (consults : Consults half said false half') :
      Attempts request? half said (some .unavailable) half'
  /-- The half does not do its part. -/
  | failed {first rest : Talk} {half' : Half} {error : LinkError}
      (consults : Consults half first true half')
      (speaks : Speaks half.address request?.toList rest)
      (error_eq : error = if request?.isSome then .noResponse else .badFrame) :
      Attempts request? half (first ++ rest) (some error) half'.markUnavailable
  /-- The half does its part, though the answer to a request may make no sense. -/
  | served {first rest : Talk} {half' : Half} {error? : Option LinkError}
      {keys : Keys halfRows halfCols} (consults : Consults half first true half')
      (speaks : Speaks half.address request?.toList rest)
      (error_eq : error? = none ∨ error? = some .badFrame ∧ request?.isSome = true) :
      Attempts request? half (first ++ rest) error? { half' with online := true, keys }

/-- Why an operation has no result. -/
def failure? {α : Type} : Except LinkError α → Option LinkError
  | .ok _ => none
  | .error error => some error

section Attempts
variable {half half' : Half} {said : Talk}

theorem Sends.attempts {request : List UInt8} {result : Except LinkError Unit}
    (h : Sends request half said result half') :
    Attempts (some request) half said (failure? result) half' := by
  cases h with
  | unavailable consults => exact .unavailable consults
  | refused consults =>
    rw [consults.moved.address_eq]
    exact .failed consults ((speaks_write _ request _).append (speaks_tell _ _)) rfl
  | acknowledged consults =>
    rw [consults.moved.address_eq]
    exact .served consults (speaks_write _ request _) (.inl rfl)

theorem Answers.attempts {command : UInt8} {length : Nat} {result : Except LinkError (List UInt8)}
    (h : Answers command length half said result half') :
    Attempts (some [command]) half said (failure? result) half' := by
  cases h with
  | unsent sends => exact sends.attempts
  | short sends =>
    rw [sends.moved.address_eq]
    cases sends with
    | @acknowledged _ half₁ consults =>
      rw [consults.moved.address_eq, List.append_assoc]
      change Attempts _ half _ _ half₁.markUnavailable
      refine .failed consults ((speaks_write _ [command] _).append ?_) rfl
      exact (speaks_wait _ _).append ((speaks_read _ _).append (speaks_tell _ _))
  | full sends =>
    rw [sends.moved.address_eq]
    cases sends with
    | acknowledged consults =>
      rw [consults.moved.address_eq, List.append_assoc]
      refine .served consults ((speaks_write _ [command] _).append ?_) (.inl rfl)
      exact (speaks_wait _ _).append (speaks_read _ _)

theorem Polls.attempts {result : Except LinkError (Keys halfRows halfCols)}
    (h : Polls half said result half') : Attempts none half said (failure? result) half' := by
  cases h with
  | unavailable consults => exact .unavailable consults
  | bad consults =>
    rw [consults.moved.address_eq]
    exact .failed consults ((speaks_read _ _).append (speaks_tell _ _)) rfl
  | good consults =>
    rw [consults.moved.address_eq]
    exact .served consults (speaks_read _ _) (.inl rfl)

/-- What an operation that writes this comes to, whatever the bus does. -/
def Attempting {α : Type} (op : HalfOp α) (request? : Half → Option (List UInt8)) : Prop :=
  ∀ (half half' : Half) (said : Talk) (result : Except LinkError α),
    Plays (perform op half) said (result, half') →
    Attempts (request? half) half said (failure? result) half'

section Operations
variable {α β : Type} {op : HalfOp α} {request? : Half → Option (List UInt8)}

theorem attempting_send (request : List UInt8) :
    Attempting (send request) fun _ => some request :=
  fun _ _ _ _ plays => (plays_send plays).attempts

theorem attempting_readAnswer (command : UInt8) (length : Nat) :
    Attempting (readAnswer command length) fun _ => some [command] :=
  fun _ _ _ _ plays => (plays_readAnswer plays).attempts

theorem attempting_readKeys : Attempting readKeys fun _ => none :=
  fun _ _ _ _ plays => (plays_readKeys plays).attempts

/-- Looking at a result on the way makes no difference. -/
theorem Attempting.map (h : Attempting op request?) (f : α → β) :
    Attempting (op >>= fun a => pure (f a)) request? := by
  intro half half' said result plays
  obtain ⟨r, works, rfl⟩ := plays_perform_map plays
  have attempts := h half half' said r works
  cases r <;> exact attempts

/-- An answer may turn out to make no sense, but the half is there. -/
theorem Attempts.misread {request : List UInt8}
    (h : Attempts (some request) half said none half') :
    Attempts (some request) half said (some .badFrame) half' := by
  cases h with
  | served consults speaks => exact .served consults speaks (.inr ⟨rfl, rfl⟩)

theorem attempting_readRegister (command : UInt8) :
    Attempting (readRegister command) fun _ => some [command] :=
  (attempting_readAnswer command 1).map _

theorem attempting_readSpiClock : Attempting readSpiClock fun _ => some [Command.ledSpiClock] := by
  intro half half' said result plays
  obtain ⟨answer, answers, rfl⟩ := plays_readSpiClock plays
  have attempts := answers.attempts
  cases answer with
  | error => exact attempts
  | ok bytes =>
    simp only [Except.bind]
    cases SpiClock.ofCode? (bytes.headD 0) with
    | none => exact attempts.misread
    | some => exact attempts

/-- A request that depends on the half. -/
theorem attempting_sendOf (request : Half → List UInt8) :
    Attempting (do send (request (← get))) fun half => some (request half) := by
  intro half half' said result plays
  rw [perform_bind] at plays
  have sends : Sends (request half) half said result half' := plays_send plays
  exact sends.attempts

end Operations

/-- Every task comes to one of the three ends. -/
theorem attempting_op (task : Task) : Attempting task.op (task.request? ·) := by
  cases task with
  | send request => exact attempting_send request
  | readRegister command => exact (attempting_readRegister command).map _
  | writeRegister command value => exact attempting_send _
  | readKeys => exact attempting_readKeys.map _
  | readVersion => exact (attempting_readRegister _).map _
  | readKeyscanInterval => exact (attempting_readRegister _).map _
  | setKeyscanInterval interval => exact attempting_send _
  | readSpiClock => exact attempting_readSpiClock.map _
  | setSpiClock clock => exact attempting_send _
  | setColsUsePullups enabled => exact attempting_send _
  | setGlobalBrightness level => exact attempting_send _
  | readSledStatus => exact (attempting_readRegister _).map _
  | readSledCurrent => exact (attempting_readRegister _).map _
  | setSledCurrent current => exact attempting_send _
  | sledSelfTest => exact attempting_send _
  | readOpenLeds => exact (attempting_readRegister _).map _
  | readShortedLeds => exact (attempting_readRegister _).map _
  | readLayout => exact ((attempting_readRegister _).map _).map _
  | readJoint => exact ((attempting_readAnswer _ 2).map _).map _
  | showOnAll color => exact attempting_sendOf fun half => _ :: half.correctedLevels color
  | showOnOne led color =>
    exact attempting_sendOf fun half => _ :: led :: half.correctedLevels color

end Attempts

/-! ## The countdown decides -/

section Countdown
variable {half half' : Half} {said : Talk} {available : Bool}

theorem Consults.of_countdown_gt (h : Consults half said available half')
    (large : 1 < half.countdown) :
    said = [] ∧ available = false ∧ half' = { half with countdown := half.countdown - 1 } := by
  cases h with
  | present here => exact absurd large (by rw [here]; decide)
  | returned due => exact absurd large (by rw [due]; decide)
  | absent due => exact absurd large (by rw [due]; decide)
  | silent => exact ⟨rfl, rfl, rfl⟩

theorem Consults.of_countdown_eq_one (h : Consults half said available half')
    (due : half.countdown = 1) :
    available = true ∧
        said = [⟨.write half.address [], Transmission.complete⟩,
          ⟨.tell (.present half.address), ()⟩] ∨
      available = false ∧ ∃ status ≠ Transmission.complete,
        said = [⟨.write half.address [], status⟩,
          ⟨.tell (.absent half.address half.profile.retryBackoff), ()⟩] ∧
        half' = { half with online := false, countdown := max half.profile.retryBackoff 1 } := by
  cases h with
  | present here => cases here.symm.trans due
  | returned => exact .inl ⟨rfl, rfl⟩
  | absent _ refused => exact .inr ⟨rfl, _, refused, rfl, rfl⟩
  | silent _ early => exact absurd due early

theorem Consults.of_countdown_eq_zero (h : Consults half said available half')
    (here : half.countdown = 0) : said = [] ∧ available = true := by
  cases h with
  | present => exact ⟨rfl, rfl⟩
  | returned due => cases here.symm.trans due
  | absent due => cases here.symm.trans due
  | silent away => exact absurd here away

theorem Consults.address_eq (h : Consults half said available half') :
    ∀ e ∈ said, ∀ other, e.request.address? = some other → other = half.address := by
  have probed : ∀ (status : Transmission) (note : Note),
      Speaks half.address [[]] [⟨.write half.address [], status⟩, ⟨.tell note, ()⟩] :=
    fun status note => (speaks_write half.address [] status).append (speaks_tell _ note)
  cases h with
  | present => exact nofun
  | returned => exact (probed _ _).address_eq
  | absent => exact (probed _ _).address_eq
  | silent => exact nofun

end Countdown

/-- What the countdown makes of an operation, and what the operation makes of the countdown. -/
structure Gated (request? : Option (List UInt8)) (half : Half) (said : Talk)
    (error? : Option LinkError) (half' : Half) : Prop where
  /-- Above one, the half is left alone and comes one step nearer to its probe. -/
  silent : 1 < half.countdown → said = [] ∧ error? = some .unavailable ∧
    half' = { half with countdown := half.countdown - 1 }
  /-- At one, the half is probed.  If it does not answer, nothing else happens on the bus and the
  half is given up for a while, otherwise it is talked to. -/
  probed : half.countdown = 1 → ∃ (status : Transmission) (rest : Talk),
    transactions said = ⟨.write half.address [], status⟩ :: rest ∧
    (status ≠ .complete → rest = [] ∧ error? = some .unavailable ∧ half'.online = false ∧
      half'.countdown = max half.profile.retryBackoff 1) ∧
    (status = .complete → rest.filterMap written? = request?.toList ∧
      error? ≠ some .unavailable)
  /-- At zero, the half is talked to. -/
  talked : half.countdown = 0 → said.filterMap written? = request?.toList ∧
    error? ≠ some .unavailable
  /-- No other address is spoken with. -/
  address_eq : ∀ e ∈ said, ∀ other, e.request.address? = some other → other = half.address
  /-- A half that does not respond is probed next time. -/
  lost : error? = some .noResponse ∨ request? = none ∧ error? = some .badFrame →
    half'.online = false ∧ half'.countdown = 1
  /-- A half that does is there, even if its answer to a request makes no sense. -/
  kept : error? = none ∨ request?.isSome = true ∧ error? = some .badFrame →
    half'.online = true ∧ half'.countdown = 0

theorem written_transactions (said : Talk) :
    (transactions said).filterMap written? = said.filterMap written? := by
  rw [transactions, List.filterMap_filter]
  congr 1
  funext e
  -- what writes something has an address
  rcases e with ⟨request, reply⟩
  cases request <;> rfl

section Gate
variable {half half' : Half} {said : Talk} {request? : Option (List UInt8)}
  {error? : Option LinkError}

theorem Attempts.address_eq (h : Attempts request? half said error? half') :
    ∀ e ∈ said, ∀ other, e.request.address? = some other → other = half.address := by
  cases h with
  | unavailable consults => exact consults.address_eq
  | failed consults speaks =>
    exact List.forall_mem_append.mpr ⟨consults.address_eq, speaks.address_eq⟩
  | served consults speaks =>
    exact List.forall_mem_append.mpr ⟨consults.address_eq, speaks.address_eq⟩

/-- The three ends at each stage of the countdown. -/
theorem Attempts.gated (h : Attempts request? half said error? half') :
    Gated request? half said error? half' where
  silent large := by
    cases h with
    | unavailable consults =>
      obtain ⟨rfl, -, rfl⟩ := consults.of_countdown_gt large
      exact ⟨rfl, rfl, rfl⟩
    | failed consults => cases (consults.of_countdown_gt large).2.1
    | served consults => cases (consults.of_countdown_gt large).2.1
  probed due := by
    cases h with
    | unavailable consults =>
      rcases consults.of_countdown_eq_one due with ⟨never, -⟩ | ⟨-, status, refused, rfl, rfl⟩
      · cases never
      · exact ⟨status, [], rfl, fun _ => ⟨rfl, rfl, rfl, rfl⟩, fun complete =>
          absurd complete refused⟩
    | @failed _ rest _ _ consults speaks error_eq =>
      rcases consults.of_countdown_eq_one due with ⟨-, rfl⟩ | ⟨never, -⟩
      · refine ⟨.complete, transactions rest, rfl, fun refused => absurd rfl refused, fun _ => ?_⟩
        rw [written_transactions, speaks.written_eq, error_eq]
        exact ⟨rfl, by split <;> decide⟩
      · cases never
    | @served _ rest _ _ _ consults speaks error_eq =>
      rcases consults.of_countdown_eq_one due with ⟨-, rfl⟩ | ⟨never, -⟩
      · refine ⟨.complete, transactions rest, rfl, fun refused => absurd rfl refused, fun _ => ?_⟩
        rw [written_transactions, speaks.written_eq]
        refine ⟨rfl, ?_⟩
        rcases error_eq with rfl | ⟨rfl, -⟩ <;> decide
      · cases never
  talked here := by
    cases h with
    | unavailable consults => cases (consults.of_countdown_eq_zero here).2
    | failed consults speaks error_eq =>
      obtain ⟨rfl, -⟩ := consults.of_countdown_eq_zero here
      rw [List.nil_append, speaks.written_eq, error_eq]
      exact ⟨rfl, by split <;> decide⟩
    | served consults speaks error_eq =>
      obtain ⟨rfl, -⟩ := consults.of_countdown_eq_zero here
      rw [List.nil_append, speaks.written_eq]
      refine ⟨rfl, ?_⟩
      rcases error_eq with rfl | ⟨rfl, -⟩ <;> decide
  address_eq := h.address_eq
  lost lost := by
    cases h with
    | unavailable => simp at lost
    | failed => exact ⟨rfl, rfl⟩
    | served _ _ error_eq =>
      rcases error_eq with rfl | ⟨rfl, asked⟩
      · simp at lost
      · rcases lost with never | ⟨rfl, -⟩
        · cases never
        · cases asked
  kept kept := by
    cases h with
    | unavailable => simp at kept
    | failed _ _ error_eq =>
      rcases kept with never | ⟨asked, same⟩
      · cases never
      · rw [error_eq, if_pos asked] at same
        cases same
    | served consults => exact ⟨rfl, consults.countdown_eq_zero⟩

end Gate

/-! ## What is kept -/

/-- What holds of a half whatever was done to it. -/
structure Kept (profile : Profile) (select : UInt8) (half : Half) : Prop where
  profile_eq : half.profile = profile
  address_eq : half.address = profile.scannerAddress select
  consistent : half.Consistent
  countdown_le : half.countdown ≤ max profile.retryBackoff 1

section Kept
variable {half half' : Half} {said : Talk} {request? : Option (List UInt8)}
  {error? : Option LinkError} {profile : Profile} {select : UInt8}

theorem toNat_countdown_sub_one {countdown : UInt16} (away : countdown ≠ 0) :
    (countdown - 1).toNat = countdown.toNat - 1 := by
  have positive : countdown.toNat ≠ 0 := fun zero => away (UInt16.toNat_inj.mp zero)
  refine UInt16.toNat_sub_of_le _ _ (UInt16.le_iff_toNat_le.mpr ?_)
  exact Nat.one_le_iff_ne_zero.mpr positive

theorem one_le_max (backoff : UInt16) : 1 ≤ max backoff 1 := by
  change 1 ≤ (if backoff ≤ 1 then 1 else backoff)
  split
  · exact UInt16.le_refl 1
  · exact UInt16.le_of_lt (UInt16.not_le.mp ‹_›)

theorem kept_new (profile : Profile) (select : UInt8) :
    (new select profile).Kept profile select where
  profile_eq := rfl
  address_eq := by
    change profile.scannerBase ||| (select &&& 3 &&& 3) = profile.scannerBase ||| (select &&& 3)
    rw [UInt8.and_assoc, UInt8.and_self]
  consistent := consistent_new select profile
  countdown_le := one_le_max profile.retryBackoff

theorem Kept.markUnavailable (h : half.Kept profile select) :
    half.markUnavailable.Kept profile select where
  profile_eq := h.profile_eq
  address_eq := h.address_eq
  consistent := consistent_markUnavailable half
  countdown_le := one_le_max profile.retryBackoff

theorem Kept.consults {available : Bool} (h : half.Kept profile select)
    (consults : Consults half said available half') : half'.Kept profile select where
  profile_eq := by
    rw [consults.moved]
    exact h.profile_eq
  address_eq := by
    rw [consults.moved.address_eq]
    exact h.address_eq
  consistent := consults.consistent h.consistent
  countdown_le := by
    cases consults with
    | present => exact h.countdown_le
    | returned => exact UInt16.zero_le
    | absent =>
      rw [h.profile_eq]
      exact UInt16.le_refl _
    | silent away =>
      have before := UInt16.le_iff_toNat_le.mp h.countdown_le
      rw [UInt16.le_iff_toNat_le, toNat_countdown_sub_one away]
      omega

theorem Attempts.kept (h : Attempts request? half said error? half')
    (kept : half.Kept profile select) : half'.Kept profile select := by
  cases h with
  | unavailable consults => exact kept.consults consults
  | failed consults => exact (kept.consults consults).markUnavailable
  | served consults =>
    obtain ⟨profile_eq, address_eq, -, countdown_le⟩ := kept.consults consults
    refine ⟨profile_eq, address_eq, ?_, countdown_le⟩
    simp [Consistent, consults.countdown_eq_zero]

end Kept

/-! ## Runs -/

/-- What happened to a half: a task was carried out, or the half was taken to be away for another
reason. -/
inductive Event where
  | worked (task : Task) (said : Talk) (result : Except LinkError Unit)
  | marked

namespace Event

/-- What was said meanwhile. -/
def said : Event → Talk
  | worked _ said _ => said
  | marked => []

/-- It began with a probe that was answered. -/
def Finds (address : UInt8) : Event → Prop
  | worked _ said _ => ∃ rest, said =
      ⟨.write address [], Transmission.complete⟩ :: ⟨.tell (.present address), ()⟩ :: rest
  | marked => False

/-- All that it was is a probe that was not answered. -/
def Misses (address : UInt8) : Event → Prop
  | worked _ said result => ∃ status ≠ Transmission.complete,
      transactions said = [⟨.write address [], status⟩] ∧ result = .error .unavailable
  | marked => False

/-- The half did not do its part. -/
def Loses : Event → Prop
  | worked task _ result => result = .error .unavailable ∨ result = .error .noResponse ∨
      task = .readKeys ∧ result = .error .badFrame
  | marked => True

end Event

/-- The halves that such events lead to from a new one, the newest first, on any bus. -/
inductive Lives (profile : Profile) (select : UInt8) : List Event → Half → Prop where
  | new : Lives profile select [] (.new select profile)
  | work {past : List Event} {half half' : Half} {task : Task} {said : Talk}
      {result : Except LinkError Unit} (lives : Lives profile select past half)
      (plays : Plays (perform task.op half) said (result, half')) :
      Lives profile select (.worked task said result :: past) half'
  | mark {past : List Event} {half : Half} (lives : Lives profile select past half) :
      Lives profile select (.marked :: past) half.markUnavailable

/-- What is known of a half by what happened to it. -/
structure Watched (profile : Profile) (select : UInt8) (past : List Event) (half : Half) : Prop
    extends Kept profile select half where
  /-- Nothing was ever said to another address. -/
  spoken : ∀ event ∈ past, ∀ e ∈ event.said, ∀ other, e.request.address? = some other →
    other = half.address
  /-- It is only online after a probe that was answered, with no failure since. -/
  found : half.online = true → ∃ later found earlier, past = later ++ found :: earlier ∧
    found.Finds half.address ∧ ¬found.Loses ∧ ∀ event ∈ later, ¬event.Loses
  /-- After a probe that was not answered, operations stay off the bus until the next probe is due:
  all of the back-off but one. -/
  waits : ∀ later missed earlier, past = later ++ missed :: earlier →
    missed.Misses half.address → (∀ event ∈ later, event ≠ .marked) →
    later.length < max profile.retryBackoff.toNat 1 →
    (∀ event ∈ later, event.said = []) ∧
      half.countdown.toNat = max profile.retryBackoff.toNat 1 - later.length
  /-- Whatever task comes next, the countdown decides what it does. -/
  next : ∀ (task : Task) (said : Talk) (result : Except LinkError Unit) (half' : Half),
    Plays (perform task.op half) said (result, half') →
    Gated (task.request? half) half said (failure? result) half'

section Runs
variable {profile : Profile} {select : UInt8} {past : List Event} {half : Half}

theorem Lives.kept (lives : Lives profile select past half) : half.Kept profile select := by
  induction lives with
  | new => exact kept_new profile select
  | work _ plays ih => exact (attempting_op _ _ _ _ _ plays).kept ih
  | mark _ ih => exact ih.markUnavailable

theorem Lives.address_eq (lives : Lives profile select past half) :
    ∀ event ∈ past, ∀ e ∈ event.said, ∀ other, e.request.address? = some other →
      other = profile.scannerAddress select := by
  induction lives with
  | new => exact nofun
  | work lives plays ih =>
    refine List.forall_mem_cons.mpr ⟨?_, ih⟩
    rw [← lives.kept.address_eq]
    exact (attempting_op _ _ _ _ _ plays).address_eq
  | mark _ ih => exact List.forall_mem_cons.mpr ⟨nofun, ih⟩

/-- What a half that is online after an operation went through. -/
theorem Attempts.online_cases {half' : Half} {said : Talk} {request? : Option (List UInt8)}
    {error? : Option LinkError} (h : Attempts request? half said error? half')
    (consistent : half.Consistent) (online : half'.online = true) :
    (error? = none ∨ error? = some .badFrame ∧ request?.isSome = true) ∧
      (half.online = true ∨ ∃ rest, said = ⟨.write half.address [], Transmission.complete⟩ ::
        ⟨.tell (.present half.address), ()⟩ :: rest) := by
  cases h with
  | unavailable consults => cases (consults.online_eq consistent).symm.trans online
  | failed => cases online
  | served consults _ error_eq =>
    refine ⟨error_eq, ?_⟩
    cases consults with
    | present here => exact .inl (consistent.mpr here)
    | returned => exact .inr ⟨_, rfl⟩

/-- A half is only online after a probe that was answered, with no failure since. -/
theorem Lives.found (lives : Lives profile select past half) (online : half.online = true) :
    ∃ later found earlier, past = later ++ found :: earlier ∧
      found.Finds (profile.scannerAddress select) ∧ ¬found.Loses ∧
      ∀ event ∈ later, ¬event.Loses := by
  induction lives with
  | new => cases online
  | @work past half half' task said result lives plays ih =>
    obtain ⟨served, before⟩ :=
      (attempting_op _ _ _ _ _ plays).online_cases lives.kept.consistent online
    have keeps : ¬(Event.worked task said result).Loses := by
      rintro (rfl | rfl | ⟨rfl, rfl⟩)
      · simp [failure?] at served
      · simp [failure?] at served
      · simp [failure?, Task.request?] at served
    rcases before with before | ⟨rest, probed⟩
    · obtain ⟨later, found, earlier, rfl, finds, kept, none⟩ := ih before
      exact ⟨.worked task said result :: later, found, earlier, rfl, finds, kept,
        List.forall_mem_cons.mpr ⟨keeps, none⟩⟩
    · rw [lives.kept.address_eq] at probed
      exact ⟨[], .worked task said result, past, rfl, ⟨rest, probed⟩, keeps, nofun⟩
  | mark => cases online

theorem countdown_cases (countdown : UInt16) : countdown = 0 ∨ countdown = 1 ∨ 1 < countdown := by
  rw [← UInt16.toNat_inj, ← UInt16.toNat_inj, UInt16.lt_iff_toNat_lt]
  change countdown.toNat = 0 ∨ countdown.toNat = 1 ∨ 1 < countdown.toNat
  omega

theorem toNat_max_one (backoff : UInt16) : (max backoff 1).toNat = max backoff.toNat 1 := by
  change (if backoff ≤ 1 then 1 else backoff).toNat = _
  split
  case isTrue small =>
    have small : backoff.toNat ≤ 1 := UInt16.le_iff_toNat_le.mp small
    exact (Nat.max_eq_right small).symm
  case isFalse large =>
    have large : 1 < backoff.toNat := UInt16.lt_iff_toNat_lt.mp (UInt16.not_le.mp large)
    exact (Nat.max_eq_left (Nat.le_of_lt large)).symm

/-- The countdown after a probe that was not answered. -/
theorem Gated.countdown_of_missed {half' : Half} {said : Talk} {request? : Option (List UInt8)}
    {error? : Option LinkError} (h : Gated request? half said error? half') {address : UInt8}
    {status : Transmission} (refused : status ≠ .complete)
    (probed : transactions said = [⟨.write address [], status⟩])
    (unavailable : error? = some .unavailable) :
    half'.countdown = max half.profile.retryBackoff 1 := by
  rcases countdown_cases half.countdown with here | due | large
  · exact absurd unavailable (h.talked here).2
  · obtain ⟨status', rest, probed', missed, -⟩ := h.probed due
    rw [probed] at probed'
    obtain ⟨⟨-, rfl⟩, -⟩ := by simpa using probed'
    exact (missed refused).2.2.2
  · obtain ⟨rfl, -⟩ := h.silent large
    cases probed

/-- **The back-off is exact**: with each operation the countdown of a half that did not answer its
probe goes down by one, and the bus is left alone. -/
theorem Lives.waits (lives : Lives profile select past half) {later earlier : List Event}
    {missed : Event} (split : past = later ++ missed :: earlier)
    (misses : missed.Misses (profile.scannerAddress select))
    (tasks : ∀ event ∈ later, event ≠ .marked)
    (few : later.length < max profile.retryBackoff.toNat 1) :
    (∀ event ∈ later, event.said = []) ∧
      half.countdown.toNat = max profile.retryBackoff.toNat 1 - later.length := by
  induction later generalizing past half with
  | nil =>
    refine ⟨nofun, ?_⟩
    subst split
    cases lives with
    | work lives plays =>
      obtain ⟨status, refused, probed, rfl⟩ := misses
      have gated := (attempting_op _ _ _ _ _ plays).gated
      rw [gated.countdown_of_missed refused probed rfl, lives.kept.profile_eq, toNat_max_one]
      rfl
    | mark => cases misses
  | cons event later ih =>
    subst split
    rw [List.length_cons] at few
    cases lives with
    | @work _ before _ task said result lives plays =>
      obtain ⟨silent, countdown⟩ :=
        ih lives rfl (List.forall_mem_cons.mp tasks).2 (by omega)
      -- the probe is not due yet
      have large : 1 < before.countdown := by
        rw [UInt16.lt_iff_toNat_lt, countdown]
        change 1 < _
        omega
      obtain ⟨rfl, -, rfl⟩ := (attempting_op task _ _ _ _ plays).gated.silent large
      refine ⟨List.forall_mem_cons.mpr ⟨rfl, silent⟩, ?_⟩
      have away : before.countdown ≠ 0 := fun zero => by
        rw [zero] at large
        exact absurd large (by decide)
      rw [toNat_countdown_sub_one away, countdown, List.length_cons]
      omega
    | mark => exact absurd rfl (tasks _ List.mem_cons_self)

/-- **A half is online exactly while its countdown is zero, and comes back by a probe only**,
whatever was done to it and whatever the bus answered. -/
theorem watched_of_lives (lives : Lives profile select past half) :
    Watched profile select past half where
  toKept := lives.kept
  spoken := by
    rw [lives.kept.address_eq]
    exact lives.address_eq
  found := by
    rw [lives.kept.address_eq]
    exact lives.found
  waits := by
    rw [lives.kept.address_eq]
    exact fun _ _ _ => lives.waits
  next task _ _ _ plays := (attempting_op task _ _ _ _ plays).gated

end Runs

/-! ## Runs on a given bus -/

section Partner
variable {σ : Type} (partner : Partner vocabulary σ)

/-- Carry a task out on a bus, or else take the half to be away. -/
def carryOut (half : Half) (state : σ) : Option Task → Event × Half × σ
  | some task =>
    let ((result, half), said, state) := (perform task.op half).transcribe partner state
    (.worked task said result, half, state)
  | none => (.marked, half.markUnavailable, state)

/-- What happens to a new half that is given these tasks, of which the newest is the first. -/
def history (profile : Profile) (select : UInt8) (state : σ) :
    List (Option Task) → List Event × Half × σ
  | [] => ([], new select profile, state)
  | task? :: earlier =>
    let (past, half, state) := history profile select state earlier
    let (event, half, state) := carryOut partner half state task?
    (event :: past, half, state)

theorem lives_history (profile : Profile) (select : UInt8) (state : σ)
    (tasks : List (Option Task)) :
    Lives profile select (history partner profile select state tasks).1
      (history partner profile select state tasks).2.1 := by
  induction tasks with
  | nil => exact .new
  | cons task? earlier ih =>
    cases task? with
    | some task => exact .work ih (plays_transcribe partner _ _)
    | none => exact .mark ih

end Partner

/-- The reference half with a back-off of three operations. -/
def impatient : Profile := { Profile.raise with retryBackoff := 3 }

/-- A half that misses its first probe, is left alone twice, and then answers. -/
theorem watched_of_lives_back_off :
    let run := history Script.partner impatient 1
      { statuses := [.addressNack], replies := [[7]] }
      [some .readVersion, some .readLayout, some .readKeys, some (.setKeyscanInterval 10)]
    Lives impatient 1 run.1 run.2.1 ∧ run.2.1.online = true ∧
      (run.1.map fun event => (transactions event.said).length) = [3, 0, 0, 1] ∧
      Watched impatient 1 run.1 run.2.1 :=
  have lives := lives_history Script.partner impatient 1
    { statuses := [.addressNack], replies := [[7]] }
    [some .readVersion, some .readLayout, some .readKeys, some (.setKeyscanInterval 10)]
  ⟨lives, by decide +kernel, by decide +kernel, watched_of_lives lives⟩

end SplitBoard.Half

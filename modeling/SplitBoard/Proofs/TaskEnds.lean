import SplitBoard.Proofs.Availability

/-!
# How an operation on a half ends

An operation fails before anything is put down, or it puts down what it found: **an
error leaves the half as it was, but for whether it is there**, and a success
changes no more than the current keys besides (`taskEnd_of_plays`).

There are three kinds of operations.  Requests are sent, and nothing is found out.
Registers are asked for and then read, all of them in the same way; what tells them
apart is the command, the length of the answer and what it means (`Register`).
Keys are read without being asked for.  When the latter two succeed is read off
what was said.
-/

namespace SplitBoard.Half

open Dialogue Bus

/-! ## What operations find out -/

/-- What an operation finds out. -/
inductive Finding where
  | nothing
  | byte (byte : UInt8)
  | clock (clock : SpiClock)
  | layout (layout : KeyLayout)
  | joint (word : UInt16)
  | keys (keys : Keys halfRows halfCols)
  deriving DecidableEq

/-- Carry the task out and give what it finds out. -/
def Task.find : Task → HalfOp Finding
  | send request => do Half.send request; return .nothing
  | readRegister command => do return .byte (← Half.readRegister command)
  | writeRegister command value => do Half.writeRegister command value; return .nothing
  | readKeys => do return .keys (← Half.readKeys)
  | readVersion => do return .byte (← Half.readVersion)
  | readKeyscanInterval => do return .byte (← Half.readKeyscanInterval)
  | setKeyscanInterval interval => do Half.setKeyscanInterval interval; return .nothing
  | readSpiClock => do return .clock (← Half.readSpiClock)
  | setSpiClock clock => do Half.setSpiClock clock; return .nothing
  | setColsUsePullups enabled => do Half.setColsUsePullups enabled; return .nothing
  | setGlobalBrightness level => do Half.setGlobalBrightness level; return .nothing
  | readSledStatus => do return .byte (← Half.readSledStatus)
  | readSledCurrent => do return .byte (← Half.readSledCurrent)
  | setSledCurrent current => do Half.setSledCurrent current; return .nothing
  | sledSelfTest => do Half.sledSelfTest; return .nothing
  | readOpenLeds => do return .byte (← Half.readOpenLeds)
  | readShortedLeds => do return .byte (← Half.readShortedLeds)
  | readLayout => do return .layout (← Half.readLayout)
  | readJoint => do return .joint (← Half.readJoint)
  | showOnAll color => do Half.showOnAll color; return .nothing
  | showOnOne led color => do Half.showOnOne led color; return .nothing

/-- A register: the command that asks for it, how long the answer is, and what the answer means, if
it means anything. -/
structure Register where
  command : UInt8
  length : Nat
  decode : List UInt8 → Option Finding

/-- A register of one byte that may have any value. -/
def Register.ofByte (command : UInt8) (meaning : UInt8 → Finding) : Register :=
  ⟨command, 1, fun bytes => some (meaning (bytes.headD 0))⟩

/-- The clocks in the order of their numbers, from zero on. -/
def clocks : List SpiClock :=
  [.off, .khz64, .khz128, .khz256, .khz512, .mhz1, .mhz2, .mhz4]

/-- The register that the task reads. -/
def Task.register? : Task → Option Register
  | readRegister command => some (.ofByte command .byte)
  | readVersion => some (.ofByte Command.version .byte)
  | readKeyscanInterval => some (.ofByte Command.keyscanInterval .byte)
  | readSpiClock => some ⟨Command.ledSpiClock, 1, fun bytes =>
      clocks[(bytes.headD 0).toNat]?.map .clock⟩
  | readSledStatus => some (.ofByte Command.sledStatus .byte)
  | readSledCurrent => some (.ofByte Command.sledCurrent .byte)
  | readOpenLeds => some (.ofByte Command.ledOpen .byte)
  | readShortedLeds => some (.ofByte Command.ledShort .byte)
  | readLayout => some (.ofByte Command.layout fun byte =>
      .layout (if byte = 1 then .ansi else .iso))
  | readJoint => some ⟨Command.joined, 2, fun bytes =>
      some (.joint (.ofNat ((bytes.getD 0 0).toNat + 0x100 * (bytes.getD 1 0).toNat)))⟩
  | _ => none

/-! ## What has to be said -/

/-- The half may be talked to: it is known to be there, or it was probed and answered. -/
def PassesCheck (half : Half) (said : Talk) : Prop :=
  half.countdown = 0 ∨
    half.countdown = 1 ∧ ⟨.write half.address [], Transmission.complete⟩ ∈ said

/-- A read delivered all that it asked for. -/
def ReadsAll (half : Half) (said : Talk) (length : Nat) (bytes : List UInt8) : Prop :=
  ∃ delivery : Delivery length,
    ⟨.read half.address length, delivery⟩ ∈ said ∧ delivery.isFull = true ∧ delivery.bytes = bytes

/-- The half may be talked to, the request for the register arrived, and all of the answer did. -/
def Register.Answered (register : Register) (half : Half) (said : Talk) (bytes : List UInt8) :
    Prop :=
  PassesCheck half said ∧
    ⟨.write half.address [register.command], Transmission.complete⟩ ∈ said ∧
    ReadsAll half said register.length bytes

section Talk
variable {half half' : Half} {first second said : Talk} {length : Nat} {bytes : List UInt8}

theorem PassesCheck.append (h : PassesCheck half first) (second : Talk) :
    PassesCheck half (first ++ second) :=
  h.imp_right fun ⟨due, answered⟩ => ⟨due, List.mem_append_left _ answered⟩

theorem Consults.passesCheck_iff {available : Bool} (h : Consults half said available half') :
    PassesCheck half said ↔ available = true := by
  cases h with
  | present here => exact iff_of_true (.inl here) rfl
  | returned due => exact iff_of_true (.inr ⟨due, List.mem_cons_self⟩) rfl
  | absent due refused =>
    refine iff_of_false ?_ nofun
    rintro (here | ⟨-, answered⟩)
    · cases here.symm.trans due
    · simp [refused.symm] at answered
  | silent away early =>
    refine iff_of_false ?_ nofun
    rintro (here | ⟨due, -⟩)
    · exact away here
    · exact early due

theorem Sends.passesCheck {request : List UInt8} (h : Sends request half said (.ok ()) half') :
    PassesCheck half said := by
  cases h with
  | acknowledged consults => exact (consults.passesCheck_iff.mpr rfl).append _

/-- The only read is this one. -/
theorem readsAll_iff {delivery : Delivery length} (before : NoReads first)
    (after : NoReads second) :
    ReadsAll half (first ++ ⟨.read half.address length, delivery⟩ :: second) length bytes ↔
      delivery.isFull = true ∧ delivery.bytes = bytes := by
  constructor
  · rintro ⟨other, member, full, rfl⟩
    rcases List.mem_append.mp member with early | rest
    · exact absurd rfl (before _ early _ _)
    rcases List.mem_cons.mp rest with same | late
    · cases same
      exact ⟨full, rfl⟩
    · exact absurd rfl (after _ late _ _)
  · rintro ⟨full, rfl⟩
    exact ⟨delivery, List.mem_append_right _ List.mem_cons_self, full, rfl⟩

/-- Registers are answered exactly if nothing is missing. -/
theorem Answers.eq_ok_iff {command : UInt8} {result : Except LinkError (List UInt8)}
    (h : Answers command length half said result half') :
    result = .ok bytes ↔ PassesCheck half said ∧
      ⟨.write half.address [command], Transmission.complete⟩ ∈ said ∧
      ReadsAll half said length bytes := by
  have before : ∀ {said : Talk} {half' : Half} {pause : Nat},
      Sends [command] half said (.ok ()) half' → NoReads (said ++ [⟨.wait pause, ()⟩]) :=
    fun sends => sends.noReads.append (List.forall_mem_cons.mpr ⟨nofun, noReads_nil⟩)
  cases h with
  | unsent sends =>
    refine iff_of_false nofun fun ⟨_, arrived, _⟩ => ?_
    cases (sends.mem_iff (List.cons_ne_nil _ _)).mp arrived
  | short sends short =>
    refine iff_of_false nofun fun ⟨_, _, reads⟩ => ?_
    rw [List.append_cons, sends.moved.address_eq,
      readsAll_iff (before sends) (noReads_tell _)] at reads
    exact short reads.1
  | full sends full =>
    have arrived := (sends.mem_iff (List.cons_ne_nil _ _)).mpr rfl
    rw [List.append_cons, sends.moved.address_eq, readsAll_iff (before sends) noReads_nil]
    constructor
    · intro ok
      exact ⟨(sends.passesCheck.append _).append _,
        List.mem_append_left _ (List.mem_append_left _ arrived), full, Except.ok.inj ok⟩
    · rintro ⟨-, -, -, rfl⟩
      rfl

theorem ReadsAll.length_eq (h : ReadsAll half said length bytes) : bytes.length = length := by
  obtain ⟨delivery, -, full, rfl⟩ := h
  exact of_decide_eq_true full

/-- Six bytes of which the first is the tag are the tag and one byte for each row. -/
theorem exists_rows_of_tag (all : bytes.length = 6) (tag : bytes.headD 0 = keyDataTag) :
    ∃ a b c d e, bytes = [0x01, a, b, c, d, e] := by
  match bytes, all with
  | [first, a, b, c, d, e], _ => exact ⟨a, b, c, d, e, by rw [show first = 0x01 from tag]⟩

/-- Keys are read exactly if key data arrives. -/
theorem Polls.eq_ok_iff {result : Except LinkError (Keys halfRows halfCols)}
    {keys : Keys halfRows halfCols} (h : Polls half said result half') :
    result = .ok keys ↔ PassesCheck half said ∧ ∃ bytes,
      ReadsAll half said keyDataLength bytes ∧ bytes.headD 0 = keyDataTag ∧
      keys = half.keys.update (rowsOfKeyData bytes) := by
  cases h with
  | unavailable consults =>
    refine iff_of_false nofun fun ⟨passes, _⟩ => ?_
    cases consults.passesCheck_iff.mp passes
  | bad consults bad =>
    refine iff_of_false nofun ?_
    rintro ⟨-, bytes, reads, tag, -⟩
    rw [consults.moved.address_eq, readsAll_iff consults.noReads (noReads_tell _)] at reads
    obtain ⟨full, rfl⟩ := reads
    exact bad ⟨full, tag⟩
  | @good _ _ consults delivery good =>
    rw [consults.moved.address_eq, consults.moved.keys_eq]
    simp only [readsAll_iff consults.noReads noReads_nil]
    constructor
    · intro ok
      exact ⟨(consults.passesCheck_iff.mpr rfl).append _, delivery.bytes, ⟨good.1, rfl⟩, good.2,
        (Except.ok.inj ok).symm⟩
    · rintro ⟨-, bytes, ⟨-, rfl⟩, -, rfl⟩
      rfl

end Talk

/-! ## The three kinds of operations -/

/-- What is made of the answer. -/
def Register.verdict (register : Register) (bytes : List UInt8) : Except LinkError Finding :=
  match register.decode bytes with
  | some finding => .ok finding
  | none => .error .badFrame

theorem Register.verdict_eq_ok_iff {register : Register} {bytes : List UInt8} {finding : Finding} :
    register.verdict bytes = .ok finding ↔ register.decode bytes = some finding := by
  unfold verdict
  cases register.decode bytes <;> simp

/-- Reading a register: its answer is read and then made sense of. -/
def Register.Reads (register : Register) (half : Half) (said : Talk)
    (result : Except LinkError Finding) (half' : Half) : Prop :=
  ∃ answer, Answers register.command register.length half said answer half' ∧
    result = answer.bind register.verdict

section Kinds
variable {task : Task} {register : Register} {half half' : Half} {said : Talk}
  {result : Except LinkError Finding} {bytes : List UInt8}

theorem reads_of_readRegister {command : UInt8} {meaning : UInt8 → Finding}
    (plays : Plays (perform (readRegister command >>= fun byte => pure (meaning byte)) half) said
      (result, half')) :
    (Register.ofByte command meaning).Reads half said result half' := by
  obtain ⟨byte, works, rfl⟩ := plays_perform_map plays
  obtain ⟨answer, asks, rfl⟩ := plays_perform_map works
  refine ⟨answer, plays_readAnswer asks, ?_⟩
  cases answer <;> rfl

/-- The low byte comes first. -/
theorem word_eq (low high : UInt8) :
    low.toUInt16 ||| (high.toUInt16 <<< 8) = .ofNat (low.toNat + 0x100 * high.toNat) := by
  have small := low.toNat_lt
  have few := high.toNat_lt
  refine UInt16.toNat_inj.mp ?_
  rw [UInt16.toNat_ofNat', Nat.mod_eq_of_lt (by omega), UInt16.toNat_or, UInt16.toNat_shiftLeft,
    UInt8.toNat_toUInt16, UInt8.toNat_toUInt16]
  have shifted : high.toNat <<< (UInt16.toNat 8 % 16) % 2 ^ 16 = high.toNat <<< 8 := by
    rw [Nat.mod_eq_of_lt (by simp [Nat.shiftLeft_eq]; omega)]
    rfl
  rw [shifted, Nat.or_comm, ← Nat.shiftLeft_add_eq_or_of_lt small, Nat.shiftLeft_eq]
  omega

theorem ofCode?_eq (code : UInt8) : SpiClock.ofCode? code = clocks[code.toNat]? := by
  unfold SpiClock.ofCode?
  split
  case h_9 =>
    refine (List.getElem?_eq_none ?_).symm
    change 8 ≤ code.toNat
    grind
  all_goals
    next number => rw [number]; rfl

theorem reads_of_plays (register? : task.register? = some register)
    (plays : Plays (perform task.find half) said (result, half')) :
    register.Reads half said result half' := by
  cases task with
  | readRegister | readVersion | readKeyscanInterval | readSledStatus | readSledCurrent
  | readOpenLeds | readShortedLeds =>
    obtain rfl := Option.some.inj register?
    exact reads_of_readRegister plays
  | readSpiClock =>
    obtain rfl := Option.some.inj register?
    obtain ⟨clock, reads, rfl⟩ := plays_perform_map plays
    obtain ⟨answer, answers, rfl⟩ := plays_readSpiClock reads
    refine ⟨answer, answers, ?_⟩
    cases answer with
    | error => rfl
    | ok bytes =>
      simp only [Except.bind, Register.verdict, ← ofCode?_eq]
      cases SpiClock.ofCode? (bytes.headD 0) <;> rfl
  | readLayout =>
    obtain rfl := Option.some.inj register?
    obtain ⟨layout, reads, rfl⟩ := plays_perform_map plays
    obtain ⟨byte, works, rfl⟩ := plays_perform_map reads
    obtain ⟨answer, asks, rfl⟩ := plays_perform_map works
    refine ⟨answer, plays_readAnswer asks, ?_⟩
    cases answer <;> rfl
  | readJoint =>
    obtain rfl := Option.some.inj register?
    obtain ⟨word, works, rfl⟩ := plays_perform_map plays
    obtain ⟨answer, asks, rfl⟩ := plays_perform_map works
    refine ⟨answer, plays_readAnswer asks, ?_⟩
    cases answer with
    | error => rfl
    | ok bytes => exact congrArg (fun word => Except.ok (Finding.joint word)) (word_eq _ _)
  | _ => cases register?

theorem Register.Reads.moved (h : register.Reads half said result half') : half.Moved half' := by
  obtain ⟨answer, answers, -⟩ := h
  exact answers.moved

/-- A register is read exactly if nothing is missing and the answer makes sense. -/
theorem Register.Reads.eq_ok_iff {finding : Finding} (h : register.Reads half said result half') :
    result = .ok finding ↔
      ∃ bytes, register.Answered half said bytes ∧ register.decode bytes = some finding := by
  obtain ⟨answer, answers, rfl⟩ := h
  unfold Answered
  simp only [← answers.eq_ok_iff]
  cases answer with
  | error => exact iff_of_false nofun nofun
  | ok bytes =>
    rw [Except.bind, verdict_eq_ok_iff]
    constructor
    · exact fun found => ⟨bytes, rfl, found⟩
    · rintro ⟨_, ⟨⟩, found⟩
      exact found

/-- An answer that makes no sense is one all the same, so the half is there. -/
theorem Register.Reads.misread (h : register.Reads half said result half')
    (answered : register.Answered half said bytes) (senseless : register.decode bytes = none) :
    result = .error .badFrame ∧ half'.online = true := by
  obtain ⟨answer, answers, rfl⟩ := h
  obtain rfl := answers.eq_ok_iff.mpr answered
  refine ⟨by simp [Except.bind, verdict, senseless], ?_⟩
  cases answers with
  | full sends => cases sends with | acknowledged => rfl

/-- Only reading the keys changes more than the availability. -/
theorem moved_of_plays (plays : Plays (perform task.find half) said (result, half'))
    (other : task ≠ .readKeys) : half.Moved half' := by
  cases register? : task.register? with
  | some register => exact (reads_of_plays register? plays).moved
  | none =>
    -- what is no register is a request
    cases task with
    | readKeys => exact absurd rfl other
    | send | writeRegister | setKeyscanInterval | setSpiClock | setColsUsePullups
    | setGlobalBrightness | setSledCurrent | sledSelfTest =>
      obtain ⟨sent, works, -⟩ := plays_perform_map plays
      exact (plays_send works).moved
    | showOnAll color =>
      obtain ⟨sent, works, -⟩ := plays_perform_map plays
      rw [showOnAll, perform_bind] at works
      have sends : Sends (_ :: half.correctedLevels color) half said sent half' :=
        plays_send works
      exact sends.moved
    | showOnOne led color =>
      obtain ⟨sent, works, -⟩ := plays_perform_map plays
      rw [showOnOne, perform_bind] at works
      have sends : Sends (_ :: led :: half.correctedLevels color) half said sent half' :=
        plays_send works
      exact sends.moved
    | _ => cases register?

/-! ## All operations -/

/-- What there is to say about the end of an operation. -/
structure TaskEnd (task : Task) (half : Half) (said : Talk) (result : Except LinkError Finding)
    (half' : Half) : Prop where
  /-- If it fails, nothing has changed but whether the half is there. -/
  failed : ∀ error, result = .error error → half.Moved half'
  /-- If it succeeds, nothing else has changed but the current keys, and only if keys are read. -/
  succeeded : { half with keys := { half.keys with current := half'.keys.current } }.Moved half' ∧
    (task ≠ .readKeys → half.Moved half')
  /-- Keys are read exactly if the half may be talked to, all six bytes arrive and the first is the
  tag. The other five are the current rows then, in their order, and what was seen stays. -/
  polled : task = .readKeys → (∀ finding, result = .ok finding ↔
      PassesCheck half said ∧ ∃ a b c d e, ReadsAll half said 6 [0x01, a, b, c, d, e] ∧
        finding = .keys ⟨#v[a.toBitVec, b.toBitVec, c.toBitVec, d.toBitVec, e.toBitVec],
          half.keys.acknowledged⟩) ∧
    ∀ keys, result = .ok (.keys keys) → half'.keys = keys
  /-- A register is read exactly if the half may be talked to, the request arrives and all of the
  answer does, and the answer makes sense. -/
  read : ∀ register, task.register? = some register → ∀ finding, result = .ok finding ↔
    ∃ bytes, register.Answered half said bytes ∧ register.decode bytes = some finding
  /-- An answer that makes no sense is a bad frame, but the half counts as there. -/
  misread : ∀ register bytes, task.register? = some register →
    register.Answered half said bytes → register.decode bytes = none →
    result = .error .badFrame ∧ half'.online = true

/-- What has changed no more than the availability has not changed more than the keys besides. -/
theorem Moved.succeeded (h : half.Moved half') :
    { half with keys := { half.keys with current := half'.keys.current } }.Moved half' := by
  rw [h]
  rfl

/-- The current keys are all that reading them puts down. -/
theorem Polls.succeeded {keys : Except LinkError (Keys halfRows halfCols)}
    (h : Polls half said keys half') :
    { half with keys := { half.keys with current := half'.keys.current } }.Moved half' := by
  cases h with
  | unavailable consults => exact consults.moved.succeeded
  | bad consults => exact (consults.moved.trans (moved_markUnavailable _)).succeeded
  | good consults =>
    have moved := consults.moved
    rw [moved]
    rfl

theorem Polls.failed {error : LinkError} (h : Polls half said (.error error) half') :
    half.Moved half' := by
  cases h with
  | unavailable consults => exact consults.moved
  | bad consults => exact consults.moved.trans (moved_markUnavailable _)

/-- What is read is put down. -/
theorem Polls.keys_eq {keys : Keys halfRows halfCols} (h : Polls half said (.ok keys) half') :
    half'.keys = keys := by
  cases h with
  | good => rfl

/-- **An operation that fails changes nothing but whether the half is there**, and one that succeeds
changes the current keys at most. -/
theorem taskEnd_of_plays (plays : Plays (perform task.find half) said (result, half')) :
    TaskEnd task half said result half' := by
  by_cases other : task = .readKeys
  · subst other
    obtain ⟨keys, reads, rfl⟩ := plays_perform_map plays
    have polls := plays_readKeys reads
    have eq_ok : ∀ finding, keys.map Finding.keys = .ok finding →
        ∃ found, keys = .ok found ∧ finding = Finding.keys found := by
      intro finding ok
      cases keys with
      | error => cases ok
      | ok found => exact ⟨found, rfl, (Except.ok.inj ok).symm⟩
    refine ⟨fun error failed => ?_, ⟨polls.succeeded, fun other => absurd rfl other⟩,
      fun _ => ⟨fun finding => ⟨fun ok => ?_, ?_⟩, fun found ok => ?_⟩, nofun, nofun⟩
    · cases keys with
      | error => exact polls.failed
      | ok => cases failed
    · obtain ⟨found, rfl, rfl⟩ := eq_ok finding ok
      obtain ⟨passes, bytes, arrived, tag, rfl⟩ := polls.eq_ok_iff.mp rfl
      obtain ⟨a, b, c, d, e, rfl⟩ := exists_rows_of_tag arrived.length_eq tag
      exact ⟨passes, a, b, c, d, e, arrived, rfl⟩
    · rintro ⟨passes, a, b, c, d, e, arrived, rfl⟩
      rw [polls.eq_ok_iff.mpr ⟨passes, _, arrived, rfl, rfl⟩]
      rfl
    · obtain ⟨_, rfl, ⟨⟩⟩ := eq_ok _ ok
      exact polls.keys_eq
  · have moved := moved_of_plays plays other
    refine ⟨fun _ _ => moved, ⟨moved.succeeded, fun _ => moved⟩, fun keys => absurd keys other,
      fun register register? finding => ?_, fun register bytes register? answered senseless => ?_⟩
    · exact (reads_of_plays register? plays).eq_ok_iff
    · exact (reads_of_plays register? plays).misread answered senseless

/-- Of a half that is found by a probe the keys are read, a clock that makes no sense, and a word of
two bytes. -/
theorem taskEnd_of_plays_found :
    (let run := (perform (Task.find .readKeys) (new 0 .raise)).transcribe Script.partner
      { replies := [[1, 1, 2, 3, 4, 5]] }
    Plays (perform (Task.find .readKeys) (new 0 .raise)) run.2.1 run.1 ∧
      run.1.1.toOption = some (.keys ⟨#v[1, 2, 3, 4, 5], .released⟩) ∧
      TaskEnd .readKeys (new 0 .raise) run.2.1 run.1.1 run.1.2) ∧
    (let run := (perform (Task.find .readSpiClock) (new 0 .raise)).transcribe Script.partner
      { replies := [[9]] }
    Plays (perform (Task.find .readSpiClock) (new 0 .raise)) run.2.1 run.1 ∧
      failure? run.1.1 = some .badFrame ∧ run.1.2.online ∧
      TaskEnd .readSpiClock (new 0 .raise) run.2.1 run.1.1 run.1.2) ∧
    (let run := (perform (Task.find .readJoint) (new 0 .raise)).transcribe Script.partner
      { replies := [[0x34, 0x12]] }
    Plays (perform (Task.find .readJoint) (new 0 .raise)) run.2.1 run.1 ∧
      run.1.1.toOption = some (.joint 0x1234) ∧
      TaskEnd .readJoint (new 0 .raise) run.2.1 run.1.1 run.1.2) := by
  have keys := plays_transcribe Script.partner (perform (Task.find .readKeys) (new 0 .raise))
    { replies := [[1, 1, 2, 3, 4, 5]] }
  have clock := plays_transcribe Script.partner (perform (Task.find .readSpiClock) (new 0 .raise))
    { replies := [[9]] }
  have joint := plays_transcribe Script.partner (perform (Task.find .readJoint) (new 0 .raise))
    { replies := [[0x34, 0x12]] }
  exact ⟨⟨keys, by decide +kernel, taskEnd_of_plays keys⟩,
    ⟨clock, by decide +kernel, by decide +kernel, taskEnd_of_plays clock⟩,
    ⟨joint, by decide +kernel, taskEnd_of_plays joint⟩⟩

end Kinds

end SplitBoard.Half

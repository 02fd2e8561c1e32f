import SplitBoard.Firmware.Update

/-!
# The steps of an update as dialogues

An operation of an update carries a session and may fail.  Run from a session it
is a plain dialogue, and this module says which one, step by step: the rest of
the theory speaks about dialogues only.
-/

namespace SplitBoard.Firmware

open Dialogue

variable {α β : Type} (session : Session)

/-- The dialogue of an operation that starts from a session. -/
def UpdateOp.from (op : UpdateOp α) : Wire (Except Failure α × Session) :=
  (ExceptT.run op).run session

/-- A sequence goes on where its first part succeeded, and ends where that failed. -/
theorem from_bind (op : UpdateOp α) (next : α → UpdateOp β) :
    UpdateOp.from session (op >>= next) = (UpdateOp.from session op).bind fun
      | (.ok a, session) => UpdateOp.from session (next a)
      | (.error failure, session) => .done (.error failure, session) := by
  change ((ExceptT.run op).run session).bind _ = ((ExceptT.run op).run session).bind _
  congr 1
  funext ⟨result, session⟩
  cases result <;> rfl

theorem from_pure (a : α) : UpdateOp.from session (pure a) = .done (.ok a, session) := rfl

theorem from_throw (failure : Failure) :
    UpdateOp.from session (throw failure : UpdateOp α) = .done (.error failure, session) := rfl

theorem from_get : UpdateOp.from session (get : UpdateOp Session) =
    .done (.ok session, session) := rfl

theorem from_modify (f : Session → Session) :
    UpdateOp.from session (modify f) = .done (.ok (), f session) := rfl

theorem from_onWire (work : ExceptT Failure Wire α) :
    UpdateOp.from session (onWire work) =
      (ExceptT.run work).bind fun result => .done (result, session) := rfl

theorem from_enter (phase : Phase) :
    UpdateOp.from session (liftM (enter phase)) =
      .ask (.tell (.phase phase)) fun _ => .done (.ok (), { session with phase }) := rfl

theorem from_wire (work : Wire α) :
    UpdateOp.from session (liftM work) = work.bind fun a => .done (.ok a, session) := by
  change (work.bind _).bind _ = work.bind _
  rw [Dialogue.bind_assoc]
  rfl

theorem from_ite {c : Prop} [Decidable c] (op₁ op₂ : UpdateOp α) :
    UpdateOp.from session (if c then op₁ else op₂) =
      if c then UpdateOp.from session op₁ else UpdateOp.from session op₂ := by
  split <;> rfl

/-! ## Questions and pages -/

section Wire
variable (address : UInt8) (format : FlashFormat) (image : Image)

/-- A device is asked for its report in two transactions; the second needs the first. -/
theorem askReport_eq {request : List UInt8}
    (h : reportRequest? format.commands image = some request) :
    askReport address format image =
      .ask (.hold address request) fun (status : Transmission) =>
      if status.isComplete then
        .ask (.wait (format.crcSettle.toNat * 1000000)) fun _ =>
        .ask (.read address 3) fun (delivery : Delivery 3) =>
        .done (reportOfBytes? delivery.bytes)
      else .done none := by
  unfold askReport
  rw [h]
  rfl

theorem askCrcRepeatedly_succ (attempts : Nat) :
    askCrcRepeatedly address format image (attempts + 1) =
      (askReport address format image).bind fun
        | some (_, crc) => .done (some crc)
        | none =>
          .ask (.wait (format.reverifyDelay.toNat * 1000000)) fun _ =>
          askCrcRepeatedly address format image attempts := by
  rfl

theorem run_sendFrames_cons (page : Nat) (offset : UInt16) (frame : Nat) (rest : List Nat) :
    ExceptT.run (sendFrames address format image page offset (frame :: rest)) =
      let data := image.frameData format
        (page * format.pageSize.toNat + frame * format.frameSize.toNat)
      .ask (.write address (frameBytes format.commands data)) fun (status : Transmission) =>
      .ask (.tell (.frameSent offset frame (Crc16.ofList data) status)) fun _ =>
      if status.code = format.frameAck then
        .ask (.wait (format.delay.toNat * 1000000)) fun _ =>
        ExceptT.run (sendFrames address format image page offset rest)
      else .done (.error (.pageRefused offset)) := by
  rfl

theorem run_sendPage {page : Nat} {offset : UInt16}
    (h : image.pageOffset? page format.pageSize = some offset) :
    ExceptT.run (sendPage address format image page) =
      .ask (.write address (format.commands.pageAddress :: wordBytes offset))
        fun (status : Transmission) =>
      .ask (.wait (format.delay.toNat * 1000000)) fun _ =>
      if status.isComplete then
        ExceptT.run
          (sendFrames address format image page offset (List.range format.framesPerPage))
      else .done (.error (.pageRefused offset)) := by
  unfold sendPage
  rw [h]
  rfl

theorem run_sendPages_cons (total page : Nat) (rest : List Nat) :
    ExceptT.run (sendPages address format image total (page :: rest)) =
      (ExceptT.run (sendPage address format image page)).bind fun
        | .ok () =>
          .ask (.tell (.page (page + 1) total)) fun _ =>
          ExceptT.run (sendPages address format image total rest)
        | .error failure => .done (.error failure) := by
  change (ExceptT.run (sendPage address format image page)).bind _ =
    (ExceptT.run (sendPage address format image page)).bind _
  congr 1
  funext result
  cases result <;> rfl

end Wire

/-! ## Steps -/

/-- The first question of an update, and what follows the answer to the second. -/
theorem from_reportBefore (image : Image) :
    UpdateOp.from session (reportBefore image) =
      .ask (.tell (.phase .verifying)) fun _ =>
      .ask (.read session.half.bootloaderAddress 3) fun _ =>
      (askReport session.half.bootloaderAddress session.half.profile.flasher image).bind fun report =>
      match usable? report with
      | none => .done (.error .noReport, { session with phase := .verifying })
      | some (version, crc) =>
        .ask (.tell (.reported session.half.bootloaderAddress version crc)) fun _ =>
        .done (.ok (version, crc), { session with phase := .verifying }) := by
  simp only [reportBefore, from_bind, from_get, from_enter, from_wire, Wire.read_bind, ask_bind,
    done_bind, Dialogue.bind_assoc]
  congr 1
  funext _
  congr 1
  funext _
  congr 1
  funext report
  rcases usable? report with _ | ⟨version, crc⟩
  · rfl
  · rfl

theorem from_erase :
    UpdateOp.from session erase =
      .ask (.tell (.phase .erasing)) fun _ =>
      .ask (.write session.half.bootloaderAddress
        [session.half.profile.flasher.commands.eraseProgram]) fun (status : Transmission) =>
      .ask (.wait (session.half.profile.flasher.eraseDelay.toNat * 1000000)) fun _ =>
      .done (if status.isComplete then .ok () else .error .eraseRefused,
        { session with phase := .erasing }) := by
  simp only [erase, from_bind, from_get, from_enter, from_wire, from_ite, from_pure, from_throw,
    Wire.write_bind, Wire.waitMilliseconds_bind, ask_bind, done_bind]
  congr 1
  funext _
  congr 1
  funext (status : Transmission)
  congr 1
  funext _
  by_cases h : status.isComplete = true
  · rw [if_pos h, if_pos h]
  · rw [if_neg h, if_neg h]

theorem from_writePages (image : Image) :
    UpdateOp.from session (writePages image) =
      .ask (.tell (.phase .writing)) fun _ =>
      (ExceptT.run (sendPages session.half.bootloaderAddress session.half.profile.flasher image
        (image.pageCount session.half.profile.flasher.pageSize)
        (List.range (image.pageCount session.half.profile.flasher.pageSize)))).bind fun result =>
      .done (result, { session with phase := .writing }) := by
  simp only [writePages, from_bind, from_get, from_enter, from_onWire, ask_bind, done_bind]

theorem from_verifyWritten (image : Image) :
    UpdateOp.from session (verifyWritten image) =
      .ask (.tell (.phase .reverifying)) fun _ =>
      (askCrcRepeatedly session.half.bootloaderAddress session.half.profile.flasher image
        session.half.profile.flasher.reverifyAttempts.toNat).bind fun answer =>
      .done (match answer with
        | none => (.error .silentAfterwards, { session with phase := .reverifying })
        | some actual =>
          if actual = image.expectedCrc then (.ok actual, { session with phase := .reverifying })
          else (.error (.mismatch image.expectedCrc actual),
            { half := session.half.recordCrcError, phase := .reverifying })) := by
  simp only [verifyWritten, from_bind, from_get, from_enter, from_wire, ask_bind, done_bind,
    Dialogue.bind_assoc]
  congr 1
  funext _
  congr 1
  funext answer
  rcases answer with _ | actual
  · rfl
  · by_cases h : actual = image.expectedCrc
    · simp only [h, if_true, from_pure]
    · simp only [h, if_false, from_bind, from_modify, from_throw, done_bind]

theorem from_startProgram :
    UpdateOp.from session startProgram =
      .ask (.write session.half.bootloaderAddress
        [session.half.profile.flasher.commands.execute, 0]) fun (status : Transmission) =>
      .done (if status.isComplete then .ok () else .error .executeRefused, session) := by
  simp only [startProgram, from_bind, from_get, from_wire, from_ite, from_pure, from_throw,
    Wire.write_bind, ask_bind, done_bind]
  congr 1
  funext (status : Transmission)
  by_cases h : status.isComplete = true
  · rw [if_pos h, if_pos h]
  · rw [if_neg h, if_neg h]

/-- How an update ends, on the wire and in its session. -/
theorem run_conclude (result : Except Failure Report) :
    (conclude result).run session =
      match result with
      | .ok _ =>
        .ask (.tell (.phase .done)) fun _ =>
        .done (result, ⟨session.half.markUnavailable, .done⟩)
      | .error failure =>
        .ask (.tell (.updateFailed session.half.bootloaderAddress session.phase failure)) fun _ =>
        .ask (.tell (.phase .failed)) fun _ =>
        .done (result, ⟨session.half.markUnavailable, .failed⟩) := by
  cases result <;> rfl

/-- An update writes its image only if that can be written, and then concludes. -/
theorem run_update (image : Image) :
    (update image).run session =
      match image.validate session.half.profile.flasher with
      | .ok () => (UpdateOp.from session (writeImage image)).bind fun (result, session) =>
          (conclude result).run session
      | .error failure => (conclude (.error failure)).run session := by
  unfold update
  change (match image.validate session.half.profile.flasher with
    | .ok () => _
    | .error failure => _ : StateT Session Wire _).run session = _
  rcases image.validate session.half.profile.flasher with failure | _
  · rfl
  · rfl

end SplitBoard.Firmware

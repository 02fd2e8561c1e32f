import SplitBoard.Proofs.ContiguousUpdate

/-!
# Frames that are mistaken for questions

If the code of a frame is that of the question for the report, a device takes frames
for questions, and a busy one refuses them with an address NACK.  Where frames are
meant to end that way, the updater takes each refusal for an accepted frame
(`Mistaken`).  **So the frames themselves use up the questions that the device would
ignore after the erase**, and the update is over sooner by their pauses
(`run_update_mistaken`).
-/

namespace SplitBoard.Firmware

open Dialogue

namespace Bootloader

section Mistaken
variable {b : Bootloader} {image : Image}

/-- A format whose frames a device takes for questions, and whose refused questions an updater takes
for accepted frames.  Its other commands are what they should be. -/
structure Mistaken (format : FlashFormat) : Prop where
  asks : format.commands.continuePage = format.commands.getVersionAndCrc
  acks : format.frameAck = Transmission.addressNack.code
  differ : [format.commands.getVersionAndCrc, format.commands.eraseProgram,
    format.commands.pageAddress, format.commands.execute].Nodup

/-- A device that takes frames for questions is one question less busy after each of them. -/
theorem run_sendFrames_mistaken (mistaken : Mistaken b.format) (page : Nat) (offset left : UInt16)
    {frames : List Nat} (busy : b.busy.toNat = frames.length + left.toNat) :
    ∃ log, (ExceptT.run (sendFrames b.address b.format image page offset frames)).run partner b =
      (.ok (), { b with
        busy := left
        elapsed := b.elapsed + .ofNat (frames.length * (b.format.delay.toNat * 1000000))
        log }) := by
  induction frames generalizing b with
  | nil =>
    rw [List.length_nil, Nat.zero_add] at busy
    refine ⟨b.log, ?_⟩
    simp only [List.length_nil, Nat.zero_mul, add_ofNat_zero, ← UInt16.toNat.inj busy]
    rfl
  | cons frame frames ih =>
    rw [List.length_cons] at busy
    have busyNow : b.busy ≠ 0 := fun idle => by
      rw [idle, UInt16.toNat_zero] at busy
      omega
    -- the frame is refused as a question is
    have taken (arguments : List UInt8) : b.take (b.format.commands.continuePage :: arguments) =
        (.addressNack, { b with busy := b.busy - 1 }) := by
      simp only [take, mistaken.asks, if_true, takeReportRequest, if_pos busyNow]
    rw [run_sendFrames_cons]
    dsimp only
    rw [frameBytes, List.cons_append, List.cons_append, run_own_write (taken _), run_tell,
      if_pos mistaken.acks.symm, run_wait]
    obtain ⟨log, rest⟩ := @ih
      { b with
        busy := b.busy - 1
        elapsed := b.elapsed + .ofNat (b.format.delay.toNat * 1000000)
        log := _ } mistaken ((toNat_busy_sub_one busyNow).trans (by omega))
    refine ⟨log, rest.trans ?_⟩
    simp only [List.length_cons, add_ofNat_ofNat, Nat.succ_mul,
      Nat.add_comm (b.format.delay.toNat * 1000000)]

theorem run_sendPages_mistaken (mistaken : Mistaken b.format) (total : Nat) (left : UInt16)
    {pages : List Nat}
    (placed : ∀ page ∈ pages, ∃ offset, image.pageOffset? page b.format.pageSize = some offset)
    (busy : b.busy.toNat = pages.length * b.format.framesPerPage + left.toNat) :
    ∃ log page frameInPage,
      (ExceptT.run (sendPages b.address b.format image total pages)).run partner b =
        (.ok (), { b with
          busy := left
          elapsed := b.elapsed + .ofNat
            (pages.length * ((1 + b.format.framesPerPage) * (b.format.delay.toNat * 1000000)))
          page, frameInPage, log }) := by
  induction pages generalizing b with
  | nil =>
    rw [List.length_nil, Nat.zero_mul, Nat.zero_add] at busy
    refine ⟨b.log, b.page, b.frameInPage, ?_⟩
    simp only [List.length_nil, Nat.zero_mul, add_ofNat_zero, ← UInt16.toNat.inj busy]
    rfl
  | cons first rest ih =>
    obtain ⟨offset, place⟩ := placed first List.mem_cons_self
    have differ := mistaken.differ
    simp only [List.nodup_cons, List.mem_cons, not_or] at differ
    have taken : b.take (b.format.commands.pageAddress :: wordBytes offset) =
        (.complete, { b with page := offset, frameInPage := 0 }) := by
      simp only [take, if_neg (Ne.symm differ.1.2.1), if_neg (Ne.symm differ.2.1.1), if_true,
        wordBytes, takePageAddress, wordOfBytes_wordBytes]
    rw [List.length_cons, Nat.succ_mul] at busy
    have small : rest.length * b.format.framesPerPage + left.toNat < UInt16.size :=
      Nat.lt_of_le_of_lt (by omega) b.busy.toNat_lt_size
    rw [run_sendPages_cons, run_bind, Firmware.run_sendPage _ _ _ place, run_own_write taken,
      run_wait]
    simp only [Transmission.isComplete, decide_true, if_true]
    obtain ⟨log₁, frames⟩ := @run_sendFrames_mistaken
      { b with
        page := offset
        frameInPage := 0
        elapsed := b.elapsed + .ofNat (b.format.delay.toNat * 1000000)
        log := _ } image mistaken first offset
      (UInt16.ofNat (rest.length * b.format.framesPerPage + left.toNat))
      (List.range b.format.framesPerPage)
      (by
        rw [List.length_range, UInt16.toNat_ofNat_of_lt' small]
        exact busy.trans (by omega))
    obtain ⟨log, page, frameInPage, others⟩ := @ih
      { b with
        page := offset
        frameInPage := 0
        busy := UInt16.ofNat (rest.length * b.format.framesPerPage + left.toNat)
        elapsed := b.elapsed + .ofNat (b.format.delay.toNat * 1000000) +
          .ofNat (b.format.framesPerPage * (b.format.delay.toNat * 1000000))
        log := log₁ } mistaken (fun page member => placed page (List.mem_cons_of_mem _ member))
      (UInt16.toNat_ofNat_of_lt' small)
    refine ⟨log, page, frameInPage, ?_⟩
    rw [List.length_range] at frames
    rw [frames]
    refine others.trans ?_
    simp only [List.length_cons, add_ofNat_ofNat, Nat.succ_mul, Nat.add_mul 1, Nat.zero_mul,
      Nat.zero_add, Nat.add_assoc, Nat.add_comm (rest.length * _)]

theorem run_writePages_mistaken (session : Session) (mistaken : Mistaken b.format)
    (own : session.half.bootloaderAddress = b.address)
    (fed : session.half.profile.flasher = b.format) (valid : image.validate b.format = .ok ())
    {left : UInt16}
    (busy : b.busy.toNat =
      image.pageCount b.format.pageSize * b.format.framesPerPage + left.toNat) :
    ∃ log page frameInPage, (UpdateOp.from session (writePages image)).run partner b =
      ((.ok (), { session with phase := .writing }),
        { b with
          busy := left
          elapsed := b.elapsed + .ofNat (image.pageCount b.format.pageSize *
            ((1 + b.format.framesPerPage) * (b.format.delay.toNat * 1000000)))
          page, frameInPage, log }) := by
  obtain ⟨log, page, frameInPage, pages⟩ := run_sendPages_mistaken mistaken
    (image.pageCount b.format.pageSize) left
    (fun _ member => Image.exists_pageOffset valid (List.mem_range.mp member))
    (by rw [List.length_range]; exact busy)
  refine ⟨log, page, frameInPage, ?_⟩
  rw [from_writePages, own, fed, run_tell, run_bind, pages, List.length_range]
  rfl

/-- **Frames that are mistaken for questions save time**: the questions that the device ignores
after the erase are the frames, and only those left over have to be asked again.  No frame is
written, so the image must be one that an erased flash passes for. -/
theorem run_update_mistaken (session : Session) (mistaken : Mistaken b.format)
    (own : session.half.bootloaderAddress = b.address)
    (fed : session.half.profile.flasher = b.format) (valid : image.validate b.format = .ok ())
    {offset left : UInt16} (first : image.crcOffset? = some offset) (idle : b.busy = 0)
    (program : b.version ≠ 0xFF)
    (checked : rangeCrc b.flash offset.toNat image.crcLength.toNat ≠ 0xFFFF)
    (busy : b.busyAfterErase.toNat =
      image.pageCount b.format.pageSize * b.format.framesPerPage + left.toNat)
    (patient : left.toNat < b.format.reverifyAttempts.toNat)
    (passes : rangeCrc (Vector.replicate 0x10000 0xFF) offset.toNat image.crcLength.toNat =
      image.expectedCrc) :
    ∃ report after device, ((update image).run session).run partner b =
        ((.ok report, after), device) ∧
      device.elapsed = b.elapsed +
        .ofNat (updateTime b.format (image.pageCount b.format.pageSize) left.toNat) := by
  have differ := mistaken.differ
  simp only [List.nodup_cons, List.mem_cons, not_or] at differ
  obtain ⟨⟨h₁, -, h₂, -⟩, ⟨-, h₃, -⟩, ⟨h₄, -⟩, -⟩ := differ
  have takeErase (d : Bootloader) (format : d.format = b.format) :
      d.take [d.format.commands.eraseProgram] = d.takeErase := by
    simp only [take, format, if_neg (Ne.symm h₁), if_true]
  have takeExecute (d : Bootloader) (format : d.format = b.format) :
      d.take [d.format.commands.execute, 0] = (.complete, { d with executed := true }) := by
    simp only [take, format, mistaken.asks, if_neg (Ne.symm h₂), if_neg (Ne.symm h₃),
      if_neg (Ne.symm h₄), if_true]
  obtain ⟨_, report⟩ := run_reportBefore session own fed first idle program checked
  obtain ⟨_, erased⟩ := @run_erase { b with pending := none, elapsed := _, log := _ }
    { session with phase := .verifying } own fed (takeErase _ rfl)
  obtain ⟨_, _, _, written⟩ := @run_writePages_mistaken
    { b with
      flash := Vector.replicate 0x10000 0xFF
      eraseCount := b.eraseCount + 1
      busy := b.busyAfterErase
      pending := none
      elapsed := _
      log := _ } image { session with phase := .erasing } mistaken own fed valid left busy
  obtain ⟨_, verified⟩ := @run_verifyWritten
    { b with
      flash := Vector.replicate 0x10000 0xFF
      eraseCount := b.eraseCount + 1
      busy := left
      pending := none
      elapsed := _
      page := _
      frameInPage := _
      log := _ } { session with phase := .writing } image own fed offset first patient
  rw [if_pos passes] at verified
  obtain ⟨_, started⟩ := @run_startProgram
    { b with
      flash := Vector.replicate 0x10000 0xFF
      eraseCount := b.eraseCount + 1
      busy := 0
      pending := none
      elapsed := _
      page := _
      frameInPage := _
      log := _ } { session with phase := .reverifying } own fed (takeExecute _ rfl)
  have whole : ∃ report device, (UpdateOp.from session (writeImage image)).run partner b =
        ((.ok report, { session with phase := .reverifying }), device) ∧
      device.elapsed = b.elapsed +
        .ofNat (updateTime b.format (image.pageCount b.format.pageSize) left.toNat) := by
    refine ⟨?report, ?device, ?run, ?time⟩
    case run =>
      unfold writeImage
      refine (run_from_bind rfl).trans ?_
      refine (run_from_bind report).trans ?_
      refine (run_from_bind erased).trans ?_
      refine (run_from_bind written).trans ?_
      refine (run_from_bind verified).trans ?_
      refine (run_from_bind started).trans ?_
      rfl
    case time =>
      simp only [add_ofNat_ofNat]
      refine congrArg (fun pauses => b.elapsed + .ofNat pauses) ?_
      unfold updateTime
      ring
  obtain ⟨report, device, run, time⟩ := whole
  refine ⟨report, ⟨session.half.markUnavailable, .done⟩, device, ?_, time⟩
  rw [run_update, fed, valid]
  simp only [run_bind, run, run_conclude, run_tell]
  rfl

end Mistaken

/-- The reference halves with one frame to a page, its code that of a question, and meant to end
as a device ends a question that it refuses. -/
def mistakenProfile : Profile :=
  { Profile.raise with
    flasher := { Profile.raise.flasher with
      pageSize := 16
      frameAck := 2
      commands := { Profile.raise.flasher.commands with continuePage := 6 } } }

/-- A new device for these halves, which ignores one question after an erase. -/
def mistakenDevice : Bootloader :=
  { newDevice with format := mistakenProfile.flasher, busyAfterErase := 1 }

end Bootloader
end SplitBoard.Firmware

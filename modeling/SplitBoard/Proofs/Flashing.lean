import SplitBoard.Proofs.Device
import SplitBoard.Proofs.Pages
import SplitBoard.Proofs.UpdateSteps
import Mathlib.Tactic.Ring

/-!
# An update of a sound device

The updater and the simulated bootloader are two machines written apart.  Here
they are run against each other, from the inside out: the frames of a page, a
page, all pages, the questions before and after.  **Each lemma gives the whole
state of the device afterwards**, all but its log, so that the next one can start
from it.
-/

namespace SplitBoard.Firmware

open Dialogue

namespace Bootloader

variable {b : Bootloader} {α : Type}

/-- A write at the device's own address is a command, and is logged. -/
theorem run_own_write {bytes : List UInt8} {status : Transmission} {b' : Bootloader}
    (h : b.take bytes = (status, b')) (next : Transmission → Wire α) :
    (ask (V := Bus.vocabulary) (.write b.address bytes) next).run partner b =
      (next status).run partner { b' with log := b'.log.push (.write b.address bytes status) } := by
  simp only [Dialogue.run, partner, answerWrite, if_true, h]

/-- A write that keeps the bus is a command like any other. -/
theorem run_own_hold {bytes : List UInt8} {status : Transmission} {b' : Bootloader}
    (h : b.take bytes = (status, b')) (next : Transmission → Wire α) :
    (ask (V := Bus.vocabulary) (.hold b.address bytes) next).run partner b =
      (next status).run partner { b' with log := b'.log.push (.write b.address bytes status) } := by
  simp only [Dialogue.run, partner, answerWrite, if_true, h]

/-- After any read no answer waits. -/
theorem run_read (address : UInt8) (length : Nat) (next : Delivery length → Wire α) :
    (ask (V := Bus.vocabulary) (.read address length) next).run partner b =
      (next (b.answerRead address length).1).run partner
        { b with
          pending := none
          log := b.log.push (.read address length (b.answerRead address length).1.bytes) } :=
  rfl

theorem run_wait (nanoseconds : Nat) (next : Unit → Wire α) :
    (ask (V := Bus.vocabulary) (.wait nanoseconds) next).run partner b =
      (next ()).run partner { b with elapsed := b.elapsed + .ofNat nanoseconds } := rfl

theorem run_tell (note : Note) (next : Unit → Wire α) :
    (ask (V := Bus.vocabulary) (.tell note) next).run partner b = (next ()).run partner b := rfl

/-! ## Clock and counters -/

theorem add_ofNat_zero (clock : UInt64) : clock + .ofNat 0 = clock := UInt64.add_zero clock

theorem add_count_zero (count : UInt32) : count + .ofNat 0 = count := UInt32.add_zero count

/-- Two pauses take as long as both together. -/
theorem add_ofNat_ofNat (clock : UInt64) (m n : Nat) :
    clock + .ofNat m + .ofNat n = clock + .ofNat (m + n) := by
  rw [UInt64.add_assoc, ← UInt64.ofNat_add]

theorem add_count_ofNat (count : UInt32) (m n : Nat) :
    count + .ofNat m + .ofNat n = count + .ofNat (m + n) := by
  rw [UInt32.add_assoc, ← UInt32.ofNat_add]

/-- One more and then others are all of them. -/
theorem add_one_ofNat (count : UInt32) (m : Nat) :
    count + 1 + .ofNat m = count + .ofNat (m + 1) := by
  rw [Nat.add_comm, ← add_count_ofNat]
  rfl

/-- What a counter goes on by can be read off it, however often it has turned before. -/
theorem toNat_count_sub {count : UInt32} {n : Nat} (below : n < UInt32.size) :
    (count + .ofNat n - count).toNat = n := by
  rw [UInt32.add_comm, UInt32.add_sub_cancel]
  exact UInt32.toNat_ofNat_of_lt' below

/-! ## Pages -/

/-- The frames of a page, from the `k`-th on, are stored one behind the other. -/
theorem run_sendFrames (sound : b.Sound) (image : Image) (page : Nat) {k : Nat} (m : Nat)
    (position : b.frameInPage = k)
    (inside : b.page.toNat + (k + m) * b.format.frameSize.toNat ≤ addressSpace) :
    ∃ log, (ExceptT.run
        (sendFrames b.address b.format image page b.page (List.range' k m))).run partner b =
      (.ok (), { b with
        flash := store b.flash (b.page.toNat + k * b.format.frameSize.toNat)
          (image.chunk b.format.blank
            (page * b.format.pageSize.toNat + k * b.format.frameSize.toNat)
            (m * b.format.frameSize.toNat))
        frameInPage := k + m
        framesWritten := b.framesWritten + .ofNat m
        framesSeen := b.framesSeen + m
        elapsed := b.elapsed + .ofNat (m * (b.format.delay.toNat * 1000000))
        log }) := by
  induction m generalizing b k with
  | zero =>
    refine ⟨b.log, ?_⟩
    simp only [Nat.zero_mul, Nat.add_zero, add_ofNat_zero, add_count_zero, Image.chunk,
      List.range_zero, List.map_nil, store_nil, ← position]
    rfl
  | succ m ih =>
    have reach : (k + (m + 1)) * b.format.frameSize.toNat =
        k * b.format.frameSize.toNat + b.format.frameSize.toNat +
          m * b.format.frameSize.toNat := by
      rw [show k + (m + 1) = k + 1 + m by omega, Nat.add_mul, Nat.succ_mul]
    -- the device takes the first of the frames
    have taken := take_frame sound (image.length_chunk b.format.blank
      (page * b.format.pageSize.toNat + k * b.format.frameSize.toNat)
      b.format.frameSize.toNat) (by rw [position]; omega)
    rw [List.range'_succ, run_sendFrames_cons]
    simp only [Image.frameData_eq_chunk]
    rw [run_own_write taken, run_tell, if_pos sound.frameAck.symm, run_wait]
    obtain ⟨log, rest⟩ := @ih
      { b with
        flash := store b.flash (b.page.toNat + b.frameInPage * b.format.frameSize.toNat)
          (image.chunk b.format.blank
            (page * b.format.pageSize.toNat + k * b.format.frameSize.toNat)
            b.format.frameSize.toNat)
        frameInPage := b.frameInPage + 1
        framesWritten := b.framesWritten + 1
        framesSeen := b.framesSeen + 1
        elapsed := b.elapsed + .ofNat (b.format.delay.toNat * 1000000)
        log := _ }
      (sound.later rfl rfl rfl) (k + 1)
      (by rw [position]) (by rw [show k + 1 + m = k + (m + 1) by omega]; exact inside)
    refine ⟨log, rest.trans ?_⟩
    -- one frame and then the others are one stretch of the image
    have flash := store_append b.flash (b.page.toNat + k * b.format.frameSize.toNat)
      (image.chunk b.format.blank
        (page * b.format.pageSize.toNat + k * b.format.frameSize.toNat) b.format.frameSize.toNat)
      (image.chunk b.format.blank
        (page * b.format.pageSize.toNat + k * b.format.frameSize.toNat +
          b.format.frameSize.toNat) (m * b.format.frameSize.toNat))
    rw [← Image.chunk_add, Image.length_chunk] at flash
    simp only [position, add_ofNat_ofNat, add_one_ofNat, Nat.succ_mul k, Nat.succ_mul m,
      ← Nat.add_assoc, flash, Nat.add_comm (m * b.format.frameSize.toNat),
      Nat.add_right_comm _ 1 m, Nat.add_comm (b.format.delay.toNat * 1000000)]

/-- A page is stored at its own address. -/
theorem run_sendPage (sound : b.Sound) {image : Image} {page : Nat} {offset : UInt16}
    (address : image.pageOffset? page b.format.pageSize = some offset)
    (whole : b.format.framesPerPage * b.format.frameSize.toNat = b.format.pageSize.toNat)
    (inside : offset.toNat + b.format.pageSize.toNat ≤ addressSpace) :
    ∃ log, (ExceptT.run (sendPage b.address b.format image page)).run partner b =
      (.ok (), { b with
        flash := store b.flash offset.toNat
          (image.chunk b.format.blank (page * b.format.pageSize.toNat) b.format.pageSize.toNat)
        page := offset
        frameInPage := b.format.framesPerPage
        framesWritten := b.framesWritten + .ofNat b.format.framesPerPage
        framesSeen := b.framesSeen + b.format.framesPerPage
        elapsed := b.elapsed +
          .ofNat ((1 + b.format.framesPerPage) * (b.format.delay.toNat * 1000000))
        log }) := by
  rw [Firmware.run_sendPage _ _ _ address, run_own_write (take_pageAddress sound offset), run_wait]
  simp only [Transmission.isComplete, decide_true, if_true]
  rw [List.range_eq_range']
  obtain ⟨log, frames⟩ := @run_sendFrames
    { b with
      page := offset, frameInPage := 0
      elapsed := b.elapsed + .ofNat (b.format.delay.toNat * 1000000)
      log := _ }
    (sound.later rfl rfl rfl) image page 0
    b.format.framesPerPage rfl (by rw [Nat.zero_add, whole]; exact inside)
  refine ⟨log, frames.trans ?_⟩
  simp only [Nat.zero_mul, Nat.add_zero, Nat.zero_add, whole, Nat.add_mul 1, Nat.one_mul,
    add_ofNat_ofNat]

/-- The flash once pages of an image are stored in it, one after the other. -/
def storePages (format : FlashFormat) (image : Image) (flash : Vector UInt8 0x10000)
    (pages : List Nat) : Vector UInt8 0x10000 :=
  pages.foldl (fun flash page =>
    store flash ((image.pageOffset? page format.pageSize).getD 0).toNat
      (image.chunk format.blank (page * format.pageSize.toNat) format.pageSize.toNat)) flash

/-- Every page has an address, and ends inside the flash. -/
def PagesInside (format : FlashFormat) (image : Image) (pages : List Nat) : Prop :=
  ∀ page ∈ pages, ∃ offset, image.pageOffset? page format.pageSize = some offset ∧
    offset.toNat + format.pageSize.toNat ≤ addressSpace

theorem run_sendPages (sound : b.Sound) {image : Image} (total : Nat) {pages : List Nat}
    (whole : b.format.framesPerPage * b.format.frameSize.toNat = b.format.pageSize.toNat)
    (inside : PagesInside b.format image pages) :
    ∃ log page frameInPage,
      (ExceptT.run (sendPages b.address b.format image total pages)).run partner b =
        (.ok (), { b with
          flash := storePages b.format image b.flash pages
          framesWritten := b.framesWritten + .ofNat (pages.length * b.format.framesPerPage)
          framesSeen := b.framesSeen + pages.length * b.format.framesPerPage
          elapsed := b.elapsed + .ofNat
            (pages.length * ((1 + b.format.framesPerPage) * (b.format.delay.toNat * 1000000)))
          page, frameInPage, log }) := by
  induction pages generalizing b with
  | nil =>
    refine ⟨b.log, b.page, b.frameInPage, ?_⟩
    simp only [List.length_nil, Nat.zero_mul, Nat.add_zero, add_ofNat_zero, add_count_zero]
    rfl
  | cons first rest ih =>
    obtain ⟨offset, address, fits⟩ := inside first List.mem_cons_self
    obtain ⟨log₁, one⟩ := run_sendPage sound address whole fits
    obtain ⟨log, page, frameInPage, others⟩ := @ih
      { b with
        flash := store b.flash offset.toNat
          (image.chunk b.format.blank (first * b.format.pageSize.toNat) b.format.pageSize.toNat)
        page := offset
        frameInPage := b.format.framesPerPage
        framesWritten := b.framesWritten + .ofNat b.format.framesPerPage
        framesSeen := b.framesSeen + b.format.framesPerPage
        elapsed := b.elapsed +
          .ofNat ((1 + b.format.framesPerPage) * (b.format.delay.toNat * 1000000))
        log := log₁ }
      (sound.later rfl rfl rfl) whole
      fun page member => inside page (List.mem_cons_of_mem _ member)
    refine ⟨log, page, frameInPage, ?_⟩
    rw [run_sendPages_cons, run_bind, one]
    refine others.trans ?_
    simp only [storePages, List.foldl_cons, address, Option.getD_some, List.length_cons,
      add_count_ofNat, add_ofNat_ofNat, Nat.succ_mul, Nat.add_comm (rest.length * _), Nat.add_assoc]

/-! ## Reports -/

/-- A device that is not busy reports its version and the check value of the range asked for. -/
theorem run_askReport {image : Image} {offset : UInt16} (first : image.crcOffset? = some offset)
    (idle : b.busy = 0) :
    ∃ log, (askReport b.address b.format image).run partner b =
      (some (b.version, rangeCrc b.flash offset.toNat image.crcLength.toNat),
        { b with
          pending := none
          elapsed := b.elapsed + .ofNat (b.format.crcSettle.toNat * 1000000)
          log }) := by
  have request : reportRequest? b.format.commands image =
      some (b.format.commands.getVersionAndCrc :: wordBytes offset ++ wordBytes image.crcLength) := by
    rw [reportRequest?, first]
    rfl
  -- the device is not busy, so it takes the request
  have taken := take_report (b := b) _ offset image.crcLength rfl
  rw [if_neg (by simp [idle])] at taken
  rw [askReport_eq _ _ _ request, run_own_hold taken]
  simp only [Transmission.isComplete, decide_true, if_true]
  rw [run_wait]
  simp only [Dialogue.run, partner, answerRead, if_true, Delivery.ofList, List.take_succ_cons,
    List.take_zero, reportOfBytes?, wordOfBytes, wordOfBytes_wordBytes]
  exact ⟨_, rfl⟩

/-- A busy device refuses to report, and is one request less busy afterwards. -/
theorem run_askReport_busy {image : Image} {offset : UInt16}
    (first : image.crcOffset? = some offset) (busy : b.busy ≠ 0) :
    ∃ log, (askReport b.address b.format image).run partner b =
      (none, { b with busy := b.busy - 1, log }) := by
  have request : reportRequest? b.format.commands image =
      some (b.format.commands.getVersionAndCrc :: wordBytes offset ++ wordBytes image.crcLength) := by
    rw [reportRequest?, first]
    rfl
  have taken := take_report (b := b) _ offset image.crcLength rfl
  rw [if_pos busy] at taken
  rw [askReport_eq _ _ _ request, run_own_hold taken]
  exact ⟨_, rfl⟩

/-- The counter of a device that is still busy does not wrap. -/
theorem toNat_busy_sub_one {busy : UInt16} (busyNow : busy ≠ 0) :
    (busy - 1).toNat = busy.toNat - 1 := by
  have positive : busy.toNat ≠ 0 := fun he => busyNow (UInt16.toNat.inj he)
  exact UInt16.toNat_sub_of_le _ _ (by rw [UInt16.le_iff_toNat_le, UInt16.toNat_one]; omega)

/-- A device that is busy for fewer requests than there are attempts reports in the end. -/
theorem run_askCrcRepeatedly {image : Image} {offset : UInt16}
    (first : image.crcOffset? = some offset) {attempts : Nat} (patient : b.busy.toNat < attempts) :
    ∃ log, (askCrcRepeatedly b.address b.format image attempts).run partner b =
      (some (rangeCrc b.flash offset.toNat image.crcLength.toNat),
        { b with
          busy := 0
          pending := none
          elapsed := b.elapsed + .ofNat (b.busy.toNat * (b.format.reverifyDelay.toNat * 1000000) +
            b.format.crcSettle.toNat * 1000000)
          log }) := by
  induction attempts generalizing b with
  | zero => omega
  | succ attempts ih =>
    rw [askCrcRepeatedly_succ, run_bind]
    by_cases idle : b.busy = 0
    · obtain ⟨log, report⟩ := run_askReport first idle
      rw [report]
      refine ⟨log, ?_⟩
      simp only [Dialogue.run, idle, UInt16.toNat_zero, Nat.zero_mul, Nat.zero_add]
    · obtain ⟨log₁, refused⟩ := run_askReport_busy first idle
      have positive : b.busy.toNat ≠ 0 := fun he => idle (UInt16.toNat.inj he)
      have fewer := toNat_busy_sub_one idle
      obtain ⟨log, rest⟩ := @ih
        { b with
          busy := b.busy - 1
          elapsed := b.elapsed + .ofNat (b.format.reverifyDelay.toNat * 1000000)
          log := log₁ } (by change (b.busy - 1).toNat < attempts; omega)
      rw [refused]
      dsimp only
      rw [run_wait]
      refine ⟨log, rest.trans ?_⟩
      have pauses : b.busy.toNat * (b.format.reverifyDelay.toNat * 1000000) =
          b.format.reverifyDelay.toNat * 1000000 +
            (b.busy.toNat - 1) * (b.format.reverifyDelay.toNat * 1000000) := by
        rw [Nat.add_comm, ← Nat.succ_mul, show (b.busy.toNat - 1).succ = b.busy.toNat by omega]
      simp only [fewer, pauses, add_ofNat_ofNat, Nat.add_assoc]

/-! ## Steps -/

/-- A step that succeeds hands the next one its result, its session and its device. -/
theorem run_from_bind {β σ : Type} {partner : Partner Bus.vocabulary σ} {op : UpdateOp α}
    {next : α → UpdateOp β} {session session' : Session} {a : α} {s s' : σ}
    (h : (UpdateOp.from session op).run partner s = ((.ok a, session'), s')) :
    (UpdateOp.from session (op >>= next)).run partner s =
      (UpdateOp.from session' (next a)).run partner s' := by
  rw [from_bind, run_bind, h]

/-- A step that fails ends the sequence. -/
theorem run_from_bind_error {β σ : Type} {partner : Partner Bus.vocabulary σ} {op : UpdateOp α}
    {next : α → UpdateOp β} {session session' : Session} {failure : Failure} {s s' : σ}
    (h : (UpdateOp.from session op).run partner s = ((.error failure, session'), s')) :
    (UpdateOp.from session (op >>= next)).run partner s = ((.error failure, session'), s') := by
  rw [from_bind, run_bind, h]
  rfl

/-- The device that an update of a half talks to: in working order, at the half's bootloader
address, and fed as the half's profile says. -/
structure Serves (b : Bootloader) (half : Half) : Prop where
  sound : b.Sound
  address : b.address = half.bootloaderAddress
  format : b.format = half.profile.flasher

/-- What a device does in an update changes none of this. -/
theorem Serves.later {b' : Bootloader} {half half' : Half} (serves : b.Serves half)
    (address : b'.address = b.address) (format : b'.format = b.format)
    (rejects : b'.rejectFrame = b.rejectFrame) (corrupts : b'.corruptWrites = b.corruptWrites)
    (same : half' = half) : b'.Serves half' := by
  subst same
  exact ⟨serves.sound.later format rejects corrupts, address.trans serves.address,
    format.trans serves.format⟩

section Steps
variable (session : Session) {image : Image} (own : session.half.bootloaderAddress = b.address)
  (fed : session.half.profile.flasher = b.format)
include own fed

theorem run_reportBefore {offset : UInt16} (first : image.crcOffset? = some offset)
    (idle : b.busy = 0) (program : b.version ≠ 0xFF)
    (checked : rangeCrc b.flash offset.toNat image.crcLength.toNat ≠ 0xFFFF) :
    ∃ log, (UpdateOp.from session (reportBefore image)).run partner b =
      ((.ok (b.version, rangeCrc b.flash offset.toNat image.crcLength.toNat),
          { session with phase := .verifying }),
        { b with
          pending := none
          elapsed := b.elapsed + .ofNat (b.format.crcSettle.toNat * 1000000)
          log }) := by
  have usable : usable? (some (b.version, rangeCrc b.flash offset.toNat image.crcLength.toNat)) =
      some (b.version, rangeCrc b.flash offset.toNat image.crcLength.toNat) := by
    rw [usable?, if_neg (not_or.mpr ⟨program, checked⟩)]
  obtain ⟨log, report⟩ := @run_askReport { b with pending := none, log := _ } image offset first idle
  refine ⟨log, ?_⟩
  rw [from_reportBefore, own, fed, run_tell, run_read, run_bind, report]
  simp only [usable]
  rfl

theorem run_erase (taken : b.take [b.format.commands.eraseProgram] = b.takeErase) :
    ∃ log, (UpdateOp.from session erase).run partner b =
      ((.ok (), { session with phase := .erasing }),
        { b with
          flash := Vector.replicate 0x10000 0xFF
          eraseCount := b.eraseCount + 1
          busy := b.busyAfterErase
          elapsed := b.elapsed + .ofNat (b.format.eraseDelay.toNat * 1000000)
          log }) := by
  rw [from_erase, own, fed, run_tell, run_own_write taken, run_wait]
  exact ⟨_, rfl⟩

theorem run_writePages (sound : b.Sound)
    (whole : b.format.framesPerPage * b.format.frameSize.toNat = b.format.pageSize.toNat)
    (inside : PagesInside b.format image (List.range (image.pageCount b.format.pageSize))) :
    ∃ log page frameInPage,
      (UpdateOp.from session (writePages image)).run partner b =
        ((.ok (), { session with phase := .writing }),
          { b with
            flash := storePages b.format image b.flash
              (List.range (image.pageCount b.format.pageSize))
            framesWritten := b.framesWritten +
              .ofNat (image.pageCount b.format.pageSize * b.format.framesPerPage)
            framesSeen := b.framesSeen + image.pageCount b.format.pageSize * b.format.framesPerPage
            elapsed := b.elapsed + .ofNat (image.pageCount b.format.pageSize *
              ((1 + b.format.framesPerPage) * (b.format.delay.toNat * 1000000)))
            page, frameInPage, log }) := by
  obtain ⟨log, page, frameInPage, pages⟩ :=
    run_sendPages sound (image.pageCount b.format.pageSize) whole inside
  refine ⟨log, page, frameInPage, ?_⟩
  rw [from_writePages, own, fed, run_tell, run_bind, pages,
    List.length_range]
  rfl

theorem run_verifyWritten {offset : UInt16} (first : image.crcOffset? = some offset)
    (patient : b.busy.toNat < b.format.reverifyAttempts.toNat) :
    ∃ log, (UpdateOp.from session (verifyWritten image)).run partner b =
      (if rangeCrc b.flash offset.toNat image.crcLength.toNat = image.expectedCrc then
          (.ok image.expectedCrc, { session with phase := .reverifying })
        else
          (.error (.mismatch image.expectedCrc
              (rangeCrc b.flash offset.toNat image.crcLength.toNat)),
            { half := session.half.recordCrcError, phase := .reverifying }),
        { b with
          busy := 0
          pending := none
          elapsed := b.elapsed + .ofNat (b.busy.toNat * (b.format.reverifyDelay.toNat * 1000000) +
            b.format.crcSettle.toNat * 1000000)
          log }) := by
  obtain ⟨log, answer⟩ := run_askCrcRepeatedly first patient
  refine ⟨log, ?_⟩
  rw [from_verifyWritten, own, fed, run_tell, run_bind, answer]
  simp only [Dialogue.run]
  split
  · next same => rw [same]
  · rfl

theorem run_startProgram
    (taken : b.take [b.format.commands.execute, 0] = (.complete, { b with executed := true })) :
    ∃ log, (UpdateOp.from session startProgram).run partner b =
      ((.ok (), session), { b with executed := true, log }) := by
  rw [from_startProgram, own, fed, run_own_write taken]
  exact ⟨_, rfl⟩

end Steps

/-! ## The update -/

/-- Nanoseconds that an update takes if the device is busy for so many requests after the erase and
nothing goes wrong. -/
def updateTime (format : FlashFormat) (pages busy : Nat) : Nat :=
  (format.eraseDelay.toNat + 2 * format.crcSettle.toNat + busy * format.reverifyDelay.toNat +
    pages * (1 + format.framesPerPage) * format.delay.toNat) * 1000000

/-- What a device must be in to be updated: it has a program with a check value, is not busy, and
after an erase not busy for longer than the updater waits. -/
structure Updatable (b : Bootloader) (image : Image) (offset : UInt16) : Prop where
  idle : b.busy = 0
  program : b.version ≠ 0xFF
  checked : rangeCrc b.flash offset.toNat image.crcLength.toNat ≠ 0xFFFF
  patient : b.busyAfterErase.toNat < b.format.reverifyAttempts.toNat

/-- What the flash holds after an update: an erased flash with the pages stored in it. -/
def writtenFlash (format : FlashFormat) (image : Image) : Vector UInt8 0x10000 :=
  storePages format image (Vector.replicate 0x10000 0xFF)
    (List.range (image.pageCount format.pageSize))

/-- The device once the pages of an image are in its flash. -/
def afterPages (b : Bootloader) (image : Image) (log : Array LoggedTransaction) (page : UInt16)
    (frameInPage : Nat) : Bootloader :=
  { b with
    flash := writtenFlash b.format image
    eraseCount := b.eraseCount + 1
    framesWritten := b.framesWritten +
      .ofNat (image.pageCount b.format.pageSize * b.format.framesPerPage)
    framesSeen := b.framesSeen + image.pageCount b.format.pageSize * b.format.framesPerPage
    busy := b.busyAfterErase
    pending := none
    elapsed := b.elapsed + .ofNat (b.format.crcSettle.toNat * 1000000) +
      .ofNat (b.format.eraseDelay.toNat * 1000000) + .ofNat (image.pageCount b.format.pageSize *
        ((1 + b.format.framesPerPage) * (b.format.delay.toNat * 1000000)))
    page, frameInPage, log }

/-- The device once it was also asked for the check value of what is in its flash. -/
def afterCheck (b : Bootloader) (image : Image) (log : Array LoggedTransaction) (page : UInt16)
    (frameInPage : Nat) : Bootloader :=
  { b.afterPages image log page frameInPage with
    busy := 0
    elapsed := b.elapsed + .ofNat (updateTime b.format (image.pageCount b.format.pageSize)
      b.busyAfterErase.toNat) }

/-- What an update still does once the pages are in the flash. -/
def checkAndStart (image : Image) (previousVersion : UInt8) (previousCrc : UInt16) (pages : Nat) :
    UpdateOp Report := do
  let crc ← verifyWritten image
  startProgram
  return { previousVersion, previousCrc, crc, pages, bytes := image.size }

section Whole
variable (session : Session) {image : Image} {offset : UInt16} (serves : b.Serves session.half)
  (valid : image.validate b.format = .ok ()) (first : image.crcOffset? = some offset)
  (updatable : b.Updatable image offset)
  (inside : PagesInside b.format image (List.range (image.pageCount b.format.pageSize)))
include serves valid first updatable inside

theorem run_writeImage_pages :
    ∃ log page frameInPage, (UpdateOp.from session (writeImage image)).run partner b =
      (UpdateOp.from { session with phase := .writing } (checkAndStart image b.version
        (rangeCrc b.flash offset.toNat image.crcLength.toNat)
        (image.pageCount b.format.pageSize))).run partner
        (b.afterPages image log page frameInPage) := by
  obtain ⟨log₁, report⟩ := run_reportBefore session serves.address.symm serves.format.symm first
    updatable.idle updatable.program updatable.checked
  obtain ⟨log₂, erased⟩ := run_erase (b := { b with
      pending := none
      elapsed := b.elapsed + .ofNat (b.format.crcSettle.toNat * 1000000)
      log := log₁ }) { session with phase := .verifying } serves.address.symm serves.format.symm
    (take_erase (serves.sound.later rfl rfl rfl))
  obtain ⟨log, page, frameInPage, pages⟩ := run_writePages (b := { b with
      flash := Vector.replicate 0x10000 0xFF
      eraseCount := b.eraseCount + 1
      busy := b.busyAfterErase
      pending := none
      elapsed := b.elapsed + .ofNat (b.format.crcSettle.toNat * 1000000) +
        .ofNat (b.format.eraseDelay.toNat * 1000000)
      log := log₂ }) { session with phase := .erasing } serves.address.symm serves.format.symm
    (serves.sound.later rfl rfl rfl) (Image.framesPerPage_mul_frameSize valid) inside
  refine ⟨log, page, frameInPage, ?_⟩
  unfold writeImage
  refine (run_from_bind rfl).trans ?_
  refine (run_from_bind report).trans ?_
  refine (run_from_bind erased).trans ?_
  refine (run_from_bind pages).trans ?_
  rw [← serves.format]
  rfl

omit valid inside in
/-- What the check says of the pages in the flash. -/
theorem run_verifyWritten_afterPages (log : Array LoggedTransaction) (page : UInt16)
    (frameInPage : Nat) :
    ∃ log', (UpdateOp.from { session with phase := .writing } (verifyWritten image)).run partner
        (b.afterPages image log page frameInPage) =
      (if rangeCrc (writtenFlash b.format image) offset.toNat image.crcLength.toNat =
            image.expectedCrc then
          (.ok image.expectedCrc, { session with phase := .reverifying })
        else
          (.error (.mismatch image.expectedCrc
              (rangeCrc (writtenFlash b.format image) offset.toNat image.crcLength.toNat)),
            { half := session.half.recordCrcError, phase := .reverifying }),
        b.afterCheck image log' page frameInPage) := by
  obtain ⟨log', checked⟩ := run_verifyWritten (b := b.afterPages image log page frameInPage)
    { session with phase := .writing } serves.address.symm serves.format.symm first updatable.patient
  refine ⟨log', checked.trans ?_⟩
  -- the pauses, added up
  have time : updateTime b.format (image.pageCount b.format.pageSize) b.busyAfterErase.toNat =
      b.format.crcSettle.toNat * 1000000 + b.format.eraseDelay.toNat * 1000000 +
        image.pageCount b.format.pageSize *
          ((1 + b.format.framesPerPage) * (b.format.delay.toNat * 1000000)) +
        (b.busyAfterErase.toNat * (b.format.reverifyDelay.toNat * 1000000) +
          b.format.crcSettle.toNat * 1000000) := by
    unfold updateTime
    ring
  simp only [afterCheck, afterPages, time, add_ofNat_ofNat]

/-- **An update of a sound device, whole.**  The pages may lie anywhere, as long as the check value
of what they leave in the flash is that of the image. -/
theorem run_writeImage
    (written : rangeCrc (writtenFlash b.format image) offset.toNat image.crcLength.toNat =
      image.expectedCrc) :
    ∃ log page frameInPage, (UpdateOp.from session (writeImage image)).run partner b =
      ((.ok {
          previousVersion := b.version
          previousCrc := rangeCrc b.flash offset.toNat image.crcLength.toNat
          crc := image.expectedCrc
          pages := image.pageCount b.format.pageSize
          bytes := image.size }, { session with phase := .reverifying }),
        { b.afterCheck image log page frameInPage with executed := true }) := by
  obtain ⟨log₁, page, frameInPage, pages⟩ :=
    run_writeImage_pages session serves valid first updatable inside
  obtain ⟨log₂, checked⟩ := run_verifyWritten_afterPages session serves first updatable log₁
    page frameInPage
  rw [if_pos written] at checked
  obtain ⟨log, started⟩ := run_startProgram (b := b.afterCheck image log₂ page frameInPage)
    { session with phase := .reverifying } serves.address.symm serves.format.symm
    (take_execute (serves.sound.later rfl rfl rfl))
  refine ⟨log, page, frameInPage, pages.trans ?_⟩
  unfold checkAndStart
  refine (run_from_bind checked).trans ?_
  refine (run_from_bind started).trans ?_
  rfl

/-- If the check value of what the pages leave in the flash is not that of the image, the update
fails there: all is written and nothing is started. -/
theorem run_writeImage_mismatch
    (differs : rangeCrc (writtenFlash b.format image) offset.toNat image.crcLength.toNat ≠
      image.expectedCrc) :
    ∃ log page frameInPage, (UpdateOp.from session (writeImage image)).run partner b =
      ((.error (.mismatch image.expectedCrc
            (rangeCrc (writtenFlash b.format image) offset.toNat image.crcLength.toNat)),
          { half := session.half.recordCrcError, phase := .reverifying }),
        b.afterCheck image log page frameInPage) := by
  obtain ⟨log₁, page, frameInPage, pages⟩ :=
    run_writeImage_pages session serves valid first updatable inside
  obtain ⟨log, checked⟩ := run_verifyWritten_afterPages session serves first updatable log₁
    page frameInPage
  rw [if_neg differs] at checked
  refine ⟨log, page, frameInPage, pages.trans ?_⟩
  unfold checkAndStart
  exact run_from_bind_error checked

end Whole

/-- How a successful update ends, with its session. -/
theorem run_update_of_writeImage {session : Session} {image : Image} {report : Report}
    {b' : Bootloader} (serves : b.Serves session.half) (valid : image.validate b.format = .ok ())
    (written : (UpdateOp.from session (writeImage image)).run partner b =
      ((.ok report, { session with phase := .reverifying }), b')) :
    ((update image).run session).run partner b =
      ((.ok report, ⟨session.half.markUnavailable, .done⟩), b') := by
  rw [run_update, ← serves.format, valid]
  simp only [run_bind, written, run_conclude, run_tell]
  rfl

/-- How an update ends that fails while it writes. -/
theorem run_update_of_writeImage_error {session session' : Session} {image : Image}
    {failure : Failure} {b' : Bootloader}
    (valid : image.validate session.half.profile.flasher = .ok ())
    (written : (UpdateOp.from session (writeImage image)).run partner b =
      ((.error failure, session'), b')) :
    ((update image).run session).run partner b =
      ((.error failure, ⟨session'.half.markUnavailable, .failed⟩), b') := by
  rw [run_update, valid]
  simp only [run_bind, written, run_conclude, run_tell]
  rfl

/-- **An update of a sound device either succeeds or finds another check value** than that of the
image, and either way the pages are in the flash. -/
theorem run_update_of_updatable (session : Session) {image : Image} {offset : UInt16}
    (serves : b.Serves session.half) (valid : image.validate b.format = .ok ())
    (first : image.crcOffset? = some offset) (updatable : b.Updatable image offset)
    (inside : PagesInside b.format image (List.range (image.pageCount b.format.pageSize))) :
    ∃ log page frameInPage, ((update image).run session).run partner b =
      if rangeCrc (writtenFlash b.format image) offset.toNat image.crcLength.toNat =
          image.expectedCrc then
        ((.ok {
            previousVersion := b.version
            previousCrc := rangeCrc b.flash offset.toNat image.crcLength.toNat
            crc := image.expectedCrc
            pages := image.pageCount b.format.pageSize
            bytes := image.size }, ⟨session.half.markUnavailable, .done⟩),
          { b.afterCheck image log page frameInPage with executed := true })
      else
        ((.error (.mismatch image.expectedCrc
            (rangeCrc (writtenFlash b.format image) offset.toNat image.crcLength.toNat)),
          ⟨session.half.recordCrcError.markUnavailable, .failed⟩),
          b.afterCheck image log page frameInPage) := by
  split
  · next same =>
    obtain ⟨log, page, frameInPage, written⟩ :=
      run_writeImage session serves valid first updatable inside same
    exact ⟨log, page, frameInPage, run_update_of_writeImage serves valid written⟩
  · next differs =>
    obtain ⟨log, page, frameInPage, written⟩ :=
      run_writeImage_mismatch session serves valid first updatable inside differs
    rw [serves.format] at valid
    exact ⟨log, page, frameInPage, run_update_of_writeImage_error valid written⟩

end Bootloader
end SplitBoard.Firmware

import SplitBoard.Proofs.ContiguousUpdate

/-!
# Updating again

An update begins by asking the device for its version and check value, and goes
no further if there is none: the version 0xFF and the check value 0xFFFF stand for
a device without a program.  So an update that succeeded tells what the device was
in (`answered_of_ok`), and one update decides how the next one begins: the check
value that the device reports then is that of the first image.

**A device that was updated can be updated again, unless the check value of the
first image happens to be 0xFFFF** (`update_again`).  Such an image is written
and started like any other, and from then on the device is taken for an empty one
and left alone (`update_again_refused`), even for the same image.
-/

namespace SplitBoard.Firmware

open Dialogue

theorem usable?_eq_none_iff {version : UInt8} {crc : UInt16} :
    usable? (some (version, crc)) = none ↔ version = 0xFF ∨ crc = 0xFFFF := by
  unfold usable?
  dsimp only
  by_cases none : version = 0xFF ∨ crc = 0xFFFF
  · rw [if_pos none]
    exact iff_of_true rfl none
  · rw [if_neg none]
    exact iff_of_false (Option.some_ne_none _) none

namespace Bootloader

variable {b : Bootloader} {image : Image} {offset : UInt16}

/-! ## Updates that end at the first question -/

/-- A device with another address does not answer. -/
theorem run_askReport_elsewhere {address : UInt8} (format : FlashFormat)
    (first : image.crcOffset? = some offset) (elsewhere : address ≠ b.address) :
    ∃ log, (askReport address format image).run partner b = (none, { b with log }) := by
  have request : reportRequest? format.commands image =
      some (format.commands.getVersionAndCrc :: wordBytes offset ++ wordBytes image.crcLength) := by
    rw [reportRequest?, first]
    rfl
  rw [askReport_eq _ _ _ request]
  simp only [Dialogue.run, partner, answerWrite, if_neg elsewhere]
  exact ⟨_, rfl⟩

/-- An update whose first question has no usable answer changes nothing. -/
theorem run_update_unusable {session : Session} {answer : Option (UInt8 × UInt16)}
    {b' : Bootloader} (valid : image.validate session.half.profile.flasher = .ok ())
    (asked : (askReport session.half.bootloaderAddress session.half.profile.flasher image).run
      partner (b.answerRead session.half.bootloaderAddress 3).2 = (answer, b'))
    (unusable : usable? answer = none) :
    ((update image).run session).run partner b =
      ((.error .noReport, ⟨session.half.markUnavailable, .failed⟩), b') := by
  have reported : (UpdateOp.from session (reportBefore image)).run partner b =
      ((.error .noReport, { session with phase := .verifying }), b') := by
    rw [from_reportBefore, run_tell]
    change (Dialogue.bind _ _).run partner (b.answerRead session.half.bootloaderAddress 3).2 = _
    rw [run_bind, asked]
    simp only [unusable]
    rfl
  have written : (UpdateOp.from session (writeImage image)).run partner b =
      ((.error .noReport, { session with phase := .verifying }), b') := by
    unfold writeImage
    refine (run_from_bind rfl).trans ?_
    exact run_from_bind_error reported
  have ended := run_update_of_writeImage_error valid written
  exact ended

/-- What an update that succeeded found: a device at the half's address that was not busy and had
a program and a check value. -/
theorem answered_of_ok {session session' : Session} {device : Bootloader} {report : Report}
    (format : b.format = session.half.profile.flasher)
    (valid : image.validate session.half.profile.flasher = .ok ())
    (first : image.crcOffset? = some offset)
    (updated : ((update image).run session).run partner b = ((.ok report, session'), device)) :
    session.half.bootloaderAddress = b.address ∧ b.busy = 0 ∧ b.version ≠ 0xFF ∧
      rangeCrc b.flash offset.toNat image.crcLength.toNat ≠ 0xFFFF := by
  -- had the first question no usable answer, the update would have failed
  have usable {answer : Option (UInt8 × UInt16)} {b' : Bootloader}
      (asked : (askReport session.half.bootloaderAddress session.half.profile.flasher image).run
        partner (b.answerRead session.half.bootloaderAddress 3).2 = (answer, b')) :
      usable? answer ≠ none := by
    intro unusable
    rw [run_update_unusable valid asked unusable] at updated
    cases updated
  rw [← format] at usable
  have address : session.half.bootloaderAddress = b.address := by
    by_contra elsewhere
    obtain ⟨log, silent⟩ := run_askReport_elsewhere
      (b := (b.answerRead session.half.bootloaderAddress 3).2) b.format first elsewhere
    exact usable silent rfl
  rw [address] at usable
  have idle : b.busy = 0 := by
    by_contra busy
    obtain ⟨log, refused⟩ := run_askReport_busy (b := (b.answerRead b.address 3).2) first busy
    exact usable refused rfl
  obtain ⟨log, report⟩ := run_askReport (b := (b.answerRead b.address 3).2) first idle
  have told := usable report
  rw [ne_eq, usable?_eq_none_iff, not_or] at told
  exact ⟨address, idle, told⟩

/-! ## Contiguous images -/

/-- Where the check value of an image begins does not depend on its bytes. -/
theorem crcOffset?_congr {first second : Image} (placed : first.placement = second.placement) :
    first.crcOffset? = second.crcOffset? := by
  rw [Image.crcOffset?, Image.crcOffset?, Image.pageOffset?, Image.pageOffset?, placed]

/-- A contiguous image gets into a device that can be updated. -/
theorem run_update_contiguous {base : UInt16} (session : Session)
    (contiguous : image.placement = .contiguous base) (valid : image.validate b.format = .ok ())
    (first : image.crcOffset? = some offset) (serves : b.Serves session.half)
    (updatable : b.Updatable image offset) :
    ∃ log page frameInPage, ((update image).run session).run partner b =
      ((.ok {
          previousVersion := b.version
          previousCrc := rangeCrc b.flash offset.toNat image.crcLength.toNat
          crc := image.expectedCrc
          pages := image.pageCount b.format.pageSize
          bytes := image.size }, ⟨session.half.markUnavailable, .done⟩),
        { b.afterCheck image log page frameInPage with executed := true }) := by
  have holds := holds_writtenFlash valid contiguous
  obtain ⟨log, page, frameInPage, run⟩ := run_update_of_updatable session serves valid first
    updatable (pagesInside_contiguous valid contiguous)
  rw [if_pos (rangeCrc_of_holds valid contiguous first holds)] at run
  exact ⟨log, page, frameInPage, run⟩

/-- What an update that succeeded leaves behind. -/
structure Updated (b : Bootloader) (image : Image) (base : UInt16) (half : Half)
    (device : Bootloader) : Prop where
  holds : Holds device.flash image base device.format
  serves : device.Serves half
  idle : device.busy = 0
  program : device.version ≠ 0xFF
  version : device.version = b.version
  busyAfterErase : device.busyAfterErase = b.busyAfterErase

theorem updated_of_ok {base : UInt16} (session : Session) {session' : Session}
    {device : Bootloader} {report : Report} (contiguous : image.placement = .contiguous base)
    (valid : image.validate session.half.profile.flasher = .ok ())
    (format : b.format = session.half.profile.flasher) (sound : b.Sound)
    (patient : b.busyAfterErase < session.half.profile.flasher.reverifyAttempts)
    (updated : ((update image).run session).run partner b = ((.ok report, session'), device)) :
    Updated b image base session.half device := by
  obtain ⟨offset, first⟩ := Image.exists_crcOffset valid
  obtain ⟨here, idle, program, checked⟩ := answered_of_ok format valid first updated
  have serves : b.Serves session.half := ⟨sound, here.symm, format⟩
  rw [← format] at valid patient
  obtain ⟨log, page, frameInPage, run⟩ := run_update_contiguous session contiguous valid first
    serves ⟨idle, program, checked, UInt16.lt_iff_toNat_lt.mp patient⟩
  obtain rfl : device = { b.afterCheck image log page frameInPage with executed := true } :=
    (congrArg Prod.snd updated).symm.trans (congrArg Prod.snd run)
  constructor
  case holds => exact holds_writtenFlash valid contiguous
  case serves => exact serves.later rfl rfl rfl rfl rfl
  case idle => rfl
  case program => exact program
  case version => rfl
  case busyAfterErase => rfl

section Over
variable (session : Session) {old new : Image} {base : UInt16}
  (holds : Holds b.flash old base b.format) (oldPlaced : old.placement = .contiguous base)
  (oldValid : old.validate b.format = .ok ()) (newPlaced : new.placement = .contiguous base)
  (newValid : new.validate b.format = .ok ()) (size : new.size = old.size)
  (serves : b.Serves session.half) (idle : b.busy = 0)
include holds oldPlaced oldValid newPlaced size

/-- Asked about a new image, a device answers with the check value of the old one. -/
theorem rangeCrc_over (first : new.crcOffset? = some offset) :
    rangeCrc b.flash offset.toNat new.crcLength.toNat = old.expectedCrc := by
  have length : new.crcLength = old.crcLength := by
    rw [Image.crcLength, Image.crcLength, size]
  have begins : old.crcOffset? = some offset :=
    (crcOffset?_congr (oldPlaced.trans newPlaced.symm)).trans first
  rw [length]
  exact rangeCrc_of_holds oldValid oldPlaced begins holds

include newValid serves idle

/-- A new image of the same extent gets over the old one. -/
theorem run_update_over (program : b.version ≠ 0xFF)
    (patient : b.busyAfterErase < b.format.reverifyAttempts) (checked : old.expectedCrc ≠ 0xFFFF) :
    ∃ device, ((update new).run session).run partner b =
        ((.ok {
            previousVersion := b.version
            previousCrc := old.expectedCrc
            crc := new.expectedCrc
            pages := new.pageCount b.format.pageSize
            bytes := new.size }, ⟨session.half.markUnavailable, .done⟩), device) ∧
      Holds device.flash new base b.format := by
  obtain ⟨offset, first⟩ := Image.exists_crcOffset newValid
  have reported := rangeCrc_over holds oldPlaced oldValid newPlaced size first
  obtain ⟨log, page, frameInPage, run⟩ := run_update_contiguous session newPlaced newValid first
    serves ⟨idle, program, reported.symm ▸ checked, UInt16.lt_iff_toNat_lt.mp patient⟩
  rw [reported] at run
  exact ⟨_, run, holds_writtenFlash newValid newPlaced⟩

/-- A device with an image whose check value stands for none is left alone. -/
theorem run_update_over_reserved (reserved : old.expectedCrc = 0xFFFF) :
    ∃ device, ((update new).run session).run partner b =
        ((.error .noReport, ⟨session.half.markUnavailable, .failed⟩), device) ∧
      device.flash = b.flash ∧ device.eraseCount = b.eraseCount := by
  obtain ⟨offset, first⟩ := Image.exists_crcOffset newValid
  have reported := rangeCrc_over holds oldPlaced oldValid newPlaced size first
  have unusable : usable? (some (b.version, rangeCrc b.flash offset.toNat new.crcLength.toNat)) =
      none :=
    usable?_eq_none_iff.mpr (.inr (reported.trans reserved))
  -- the question of the update is the only one that the device gets
  obtain ⟨device, asked, same⟩ : ∃ device,
      (askReport session.half.bootloaderAddress session.half.profile.flasher new).run partner
          (b.answerRead session.half.bootloaderAddress 3).2 =
        (some (b.version, rangeCrc b.flash offset.toNat new.crcLength.toNat), device) ∧
      device.flash = b.flash ∧ device.eraseCount = b.eraseCount := by
    obtain ⟨log, report⟩ := run_askReport (b := (b.answerRead b.address 3).2) first idle
    rw [← serves.address, ← serves.format]
    exact ⟨_, report, rfl, rfl⟩
  rw [serves.format] at newValid
  exact ⟨device, run_update_unusable newValid asked unusable, same⟩

end Over

end Bootloader

section Update
open Bootloader

/-- **A device that was updated can be updated again, unless the check value of the first image is
the one that stands for none**; then it is not even erased, and has the first image in its flash. -/
theorem update_again {half : Half} {phase : Phase} {later session : Session}
    {b device : Bootloader} {first second : Image} {base : UInt16} {report : Report}
    (placed : first.placement = .contiguous base) (placed' : second.placement = .contiguous base)
    (size : second.size = first.size) (valid : first.validate half.profile.flasher = .ok ())
    (valid' : second.validate half.profile.flasher = .ok ())
    (format : b.format = half.profile.flasher) (sound : b.Sound)
    (patient : b.busyAfterErase < half.profile.flasher.reverifyAttempts)
    (updated : ((update first).run ⟨half, phase⟩).run partner b = ((.ok report, session), device))
    (address : later.half.bootloaderAddress = half.bootloaderAddress)
    (profile : later.half.profile.flasher = half.profile.flasher) :
    (first.expectedCrc ≠ 0xFFFF →
      ∃ device', ((update second).run later).run partner device =
          ((.ok {
              previousVersion := b.version
              previousCrc := first.expectedCrc
              crc := second.expectedCrc
              pages := second.pageCount half.profile.flasher.pageSize
              bytes := second.size }, ⟨later.half.markUnavailable, .done⟩), device') ∧
        Holds device'.flash second base half.profile.flasher) ∧
    (first.expectedCrc = 0xFFFF →
      ∃ device', ((update second).run later).run partner device =
          ((.error .noReport, ⟨later.half.markUnavailable, .failed⟩), device') ∧
        Holds device'.flash first base half.profile.flasher ∧
        device'.eraseCount = device.eraseCount) := by
  have found := updated_of_ok ⟨half, phase⟩ placed valid format sound patient updated
  have serves : device.Serves later.half :=
    ⟨found.serves.sound, found.serves.address.trans address.symm,
      found.serves.format.trans profile.symm⟩
  have fed : device.format = half.profile.flasher := found.serves.format
  rw [← fed] at valid valid' patient ⊢
  rw [← found.busyAfterErase] at patient
  rw [← found.version]
  constructor
  · intro other
    exact run_update_over later found.holds placed valid placed' valid' size serves found.idle
      found.program patient other
  · intro reserved
    obtain ⟨device', run, same, unerased⟩ :=
      run_update_over_reserved later found.holds placed valid placed' valid' size serves found.idle
        reserved
    exact ⟨device', run, same ▸ found.holds, unerased⟩

/-- Six bytes get to the start of a new device. -/
theorem run_update_newDevice (image : Image) (placed : image.placement = .contiguous 0)
    (size : image.size = 6) (valid : image.validate Profile.raise.flasher = .ok ()) :
    ∃ report device, ((update image).run ⟨Half.new 0 .raise, .idle⟩).run partner newDevice =
      ((.ok report, ⟨(Half.new 0 .raise).markUnavailable, .done⟩), device) := by
  obtain ⟨offset, first⟩ := Image.exists_crcOffset valid
  have begins : offset.toNat = 4 := Image.toNat_crcOffset placed first
  have length : image.crcLength.toNat = 2 := by
    rw [Image.toNat_crcLength valid, size]
    rfl
  have blank : rangeCrc newDevice.flash 4 2 ≠ 0xFFFF := by
    rw [rangeCrc_newDevice (by decide)]
    decide +kernel
  obtain ⟨log, page, frameInPage, run⟩ := run_update_contiguous (b := newDevice)
    ⟨Half.new 0 .raise, .idle⟩ placed valid first
    ⟨sound_newDevice, by decide +kernel, rfl⟩
    ⟨rfl, by decide +kernel, by rw [begins, length]; exact blank, by decide +kernel⟩
  exact ⟨_, _, run⟩

/-- Other six bytes over the first ones. -/
theorem update_again_six_bytes :
    ∃ report session device device',
      ((update ⟨#[1, 2, 3, 4, 5, 6], .contiguous 0⟩).run ⟨Half.new 0 .raise, .idle⟩).run partner
          newDevice = ((.ok report, session), device) ∧
      ((update ⟨#[6, 5, 4, 3, 2, 1], .contiguous 0⟩).run session).run partner device =
        ((.ok {
            previousVersion := 1
            previousCrc := 0xE282
            crc := 0x10C1
            pages := 1
            bytes := 6 }, ⟨(Half.new 0 .raise).markUnavailable, .done⟩), device') ∧
      Holds device'.flash ⟨#[6, 5, 4, 3, 2, 1], .contiguous 0⟩ 0 Profile.raise.flasher := by
  obtain ⟨report, device, updated⟩ :=
    run_update_newDevice ⟨#[1, 2, 3, 4, 5, 6], .contiguous 0⟩ rfl rfl (by decide +kernel)
  have first : Image.expectedCrc ⟨#[1, 2, 3, 4, 5, 6], .contiguous 0⟩ = 0xE282 := by
    decide +kernel
  have second : Image.expectedCrc ⟨#[6, 5, 4, 3, 2, 1], .contiguous 0⟩ = 0x10C1 := by
    decide +kernel
  obtain ⟨device', again, holds⟩ := (@update_again (Half.new 0 .raise) .idle
    ⟨(Half.new 0 .raise).markUnavailable, .done⟩ ⟨(Half.new 0 .raise).markUnavailable, .done⟩
    newDevice device ⟨#[1, 2, 3, 4, 5, 6], .contiguous 0⟩ ⟨#[6, 5, 4, 3, 2, 1], .contiguous 0⟩ 0
    report rfl rfl rfl (by decide +kernel) (by decide +kernel) rfl sound_newDevice
    (by decide +kernel) updated rfl rfl).1 (by rw [first]; decide)
  rw [first, second] at again
  exact ⟨report, _, device, device', updated, again, holds⟩

/-- A device that was updated cannot always be updated again, not even with the same image. -/
theorem update_again_refused :
    ¬∀ (half : Half) (phase : Phase) (session : Session) (b device : Bootloader)
      (first second : Image) (base : UInt16) (report : Report),
      first.placement = .contiguous base → second.placement = .contiguous base →
      second.size = first.size → first.validate half.profile.flasher = .ok () →
      second.validate half.profile.flasher = .ok () → b.format = half.profile.flasher → b.Sound →
      b.busyAfterErase < half.profile.flasher.reverifyAttempts → b.version ≠ 0xFF →
      ((update first).run ⟨half, phase⟩).run partner b = ((.ok report, session), device) →
      ∃ report' session' device',
        ((update second).run session).run partner device = ((.ok report', session'), device') ∧
          Holds device'.flash second base half.profile.flasher := by
  intro h
  have valid : Image.validate ⟨#[0, 0, 0, 0, 0xA8, 0xEA], .contiguous 0⟩ Profile.raise.flasher =
      .ok () := by
    decide +kernel
  obtain ⟨report, device, updated⟩ :=
    run_update_newDevice ⟨#[0, 0, 0, 0, 0xA8, 0xEA], .contiguous 0⟩ rfl rfl valid
  have patient :
      newDevice.busyAfterErase < (Half.new 0 .raise).profile.flasher.reverifyAttempts := by
    decide +kernel
  obtain ⟨report', session', device', again, -⟩ := h (Half.new 0 .raise) .idle _ newDevice device
    _ _ 0 report rfl rfl rfl valid valid rfl sound_newDevice patient (by decide +kernel) updated
  -- the check value of these bytes is the reserved one
  have found := updated_of_ok ⟨Half.new 0 .raise, .idle⟩ rfl valid rfl sound_newDevice patient
    updated
  have fed : device.format = Profile.raise.flasher := found.serves.format
  rw [← fed] at valid
  obtain ⟨device'', refused, -⟩ := run_update_over_reserved
    ⟨(Half.new 0 .raise).markUnavailable, .done⟩ found.holds rfl valid rfl valid rfl
    ⟨found.serves.sound, found.serves.address, found.serves.format⟩ found.idle (by decide +kernel)
  rw [refused] at again
  cases again

end Update
end SplitBoard.Firmware

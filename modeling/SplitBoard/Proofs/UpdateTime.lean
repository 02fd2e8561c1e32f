import SplitBoard.Firmware.DryRun
import SplitBoard.Proofs.BoardRun
import SplitBoard.Proofs.MistakenFrames

/-!
# How long an update takes

An update that succeeds has waited for everything once: for the erase, for two
check values, behind every page address and every frame, and behind every question
that a busy device refused.  So **the time it takes is the same for all devices and
all images of a size** (`updateTime`), and here this is read off the success alone:
the device may hold anything, and its command codes need not even differ.

One kind of device is different.  If the code of a frame is that of the question
for the report, a busy device refuses frames with an address NACK, and if frames
are meant to end that way, each of them passes for accepted and makes the device
less busy (`MistakesFrames`).
-/

namespace SplitBoard.Firmware

open Dialogue

/-- A sequence of steps that succeeded had its first step succeed, and then its second. -/
theorem ok_of_run_from_bind {α β σ : Type} {partner : Partner Bus.vocabulary σ} {op : UpdateOp α}
    {next : α → UpdateOp β} {session after : Session} {result : β} {s s' : σ}
    (h : (UpdateOp.from session (op >>= next)).run partner s = ((.ok result, after), s')) :
    ∃ a mid s₁, (UpdateOp.from session op).run partner s = ((.ok a, mid), s₁) ∧
      (UpdateOp.from mid (next a)).run partner s₁ = ((.ok result, after), s') := by
  rcases first : (UpdateOp.from session op).run partner s with ⟨⟨failure | a, mid⟩, s₁⟩
  · rw [Bootloader.run_from_bind_error first] at h
    cases h
  · exact ⟨a, mid, s₁, rfl, (Bootloader.run_from_bind first).symm.trans h⟩

namespace Bootloader

/-- The device takes frames for questions, and the updater takes the refusals of a busy device for
accepted frames. -/
def MistakesFrames (format : FlashFormat) (busyAfterErase : UInt16) : Prop :=
  format.commands.continuePage = format.commands.getVersionAndCrc ∧
    format.frameAck = Transmission.addressNack.code ∧ busyAfterErase ≠ 0

section Clock
variable {clock : UInt64} {n : Nat}

/-- What a clock goes on by can be read off it, however often it has turned before. -/
theorem toNat_clock_sub (below : n < UInt64.size) : (clock + .ofNat n - clock).toNat = n := by
  rw [UInt64.add_comm, UInt64.add_sub_cancel]
  exact UInt64.toNat_ofNat_of_lt' below

/-- A clock that does not turn shows the time before and the pauses since, added up. -/
theorem toNat_clock_add (below : clock.toNat + n < UInt64.size) :
    (clock + .ofNat n).toNat = clock.toNat + n := by
  have small : n < UInt64.size := Nat.lt_of_le_of_lt (Nat.le_add_left _ _) below
  rw [UInt64.toNat_add, UInt64.toNat_ofNat_of_lt' small]
  exact Nat.mod_eq_of_lt below

end Clock

/-- What the time of an update depends on. -/
structure Timing where
  address : UInt8
  format : FlashFormat
  busyAfterErase : UInt16
  busy : UInt16
  elapsed : UInt64

/-- What the time of an update on this device depends on. -/
def timing (b : Bootloader) : Timing :=
  ⟨b.address, b.format, b.busyAfterErase, b.busy, b.elapsed⟩

/-- The questions that a device still ignores once it was given a command. -/
def busyBehind (format : FlashFormat) (busyAfterErase busy : UInt16) (command : UInt8) : UInt16 :=
  if command = format.commands.getVersionAndCrc then if busy = 0 then 0 else busy - 1
  else if command = format.commands.eraseProgram then busyAfterErase
  else busy

section Commands

/-- A question that is refused makes the device less busy; any other one leaves it idle. -/
theorem timing_takeReportRequest (b : Bootloader) (arguments : List UInt8) :
    (b.takeReportRequest arguments).2.timing =
      { b.timing with busy := if b.busy = 0 then 0 else b.busy - 1 } := by
  unfold takeReportRequest
  by_cases idle : b.busy = 0
  · rw [if_neg (not_not.mpr idle), if_pos idle, ← idle]
    dsimp only
    split <;> rfl
  · rw [if_pos idle, if_neg idle]
    rfl

theorem timing_takeFrame (b : Bootloader) (arguments : List UInt8) :
    (b.takeFrame arguments).2.timing = b.timing := by
  unfold takeFrame
  dsimp only
  split
  · rfl
  split
  · rfl
  split <;> rfl

/-- A command takes no time, and how busy it leaves the device is known from its code. -/
theorem timing_take (b : Bootloader) (command : UInt8) (arguments : List UInt8) :
    (b.take (command :: arguments)).2.timing =
      { b.timing with busy := busyBehind b.format b.busyAfterErase b.busy command } := by
  simp only [take, busyBehind]
  split
  · exact timing_takeReportRequest b arguments
  split
  · rfl
  split
  · unfold takePageAddress
    split <;> rfl
  split
  · exact timing_takeFrame b arguments
  split <;> rfl

variable {b : Bootloader} {address command : UInt8} {format : FlashFormat} {k busy : UInt16}
  {t : UInt64} (before : b.timing = ⟨address, format, k, busy, t⟩) (arguments : List UInt8)
include before

theorem timing_write (command : UInt8) :
    (b.answerWrite address (command :: arguments)).2.timing =
      ⟨address, format, k, busyBehind format k busy command, t⟩ := by
  cases before
  rw [answerWrite, if_pos rfl]
  exact timing_take b command arguments

/-- A busy device refuses its questions. -/
theorem status_write_busy (busyNow : busy ≠ 0) :
    (b.answerWrite address (format.commands.getVersionAndCrc :: arguments)).1 =
      .addressNack := by
  cases before
  have refused : b.takeReportRequest arguments = (.addressNack, { b with busy := b.busy - 1 }) :=
    if_pos busyNow
  simp only [answerWrite, take, if_true, refused]

/-- A device that completed any command but an erase, or ended it in a way that a busy device does
not, is as busy as before. -/
theorem busyBehind_eq (erases : command = format.commands.eraseProgram → busy = k)
    (status : command = format.commands.getVersionAndCrc → busy ≠ 0 →
      (b.answerWrite address (command :: arguments)).1 ≠ .addressNack) :
    busyBehind format k busy command = busy := by
  unfold busyBehind
  split
  · next asks =>
    by_cases idle : busy = 0
    · rw [if_pos idle, idle]
    · have refused := status_write_busy before arguments idle
      rw [← asks] at refused
      exact absurd refused (status asks idle)
  split
  · next erase => exact (erases erase).symm
  · rfl

/-- An erase that completed leaves the device as busy as it is after an erase. -/
theorem busyBehind_erase
    (complete : (b.answerWrite address [format.commands.eraseProgram]).1 = .complete) :
    busyBehind format k busy format.commands.eraseProgram = k := by
  cases before
  unfold busyBehind
  split
  · next asks =>
    -- a question of one byte never completes
    rw [asks] at complete
    simp only [answerWrite, take, if_true, takeReportRequest] at complete
    split at complete <;> cases complete
  · exact if_pos rfl

end Commands

/-! ## Pages -/

section Pages
variable {b after : Bootloader} {address : UInt8} {format : FlashFormat} {k : UInt16}
  {t : UInt64}

/-- A write is answered, and the dialogue goes on with what answering left. -/
theorem run_write {α : Type} (bytes : List UInt8) (next : Transmission → Wire α) :
    (ask (V := Bus.vocabulary) (.write address bytes) next).run partner b =
      (next (b.answerWrite address bytes).1).run partner (b.answerWrite address bytes).2 := rfl

/-- A pause is the only thing that takes time. -/
theorem timing_wait {busy : UInt16} (before : b.timing = ⟨address, format, k, busy, t⟩)
    (nanoseconds : Nat) :
    timing { b with elapsed := b.elapsed + .ofNat nanoseconds } =
      ⟨address, format, k, busy, t + .ofNat nanoseconds⟩ := by
  cases before
  rfl

variable {image : Image} {page : Nat} (clear : ¬MistakesFrames format k)
  (before : b.timing = ⟨address, format, k, k, t⟩)
include clear before

/-- **Frames that were accepted are paused for one by one, and leave the device as busy as it was.**
The induction is on the frames. -/
theorem timing_sendFrames {offset : UInt16} {frames : List Nat}
    (sent : (ExceptT.run (sendFrames address format image page offset frames)).run partner b =
      (.ok (), after)) :
    after.timing =
      ⟨address, format, k, k, t + .ofNat (frames.length * (format.delay.toNat * 1000000))⟩ := by
  induction frames generalizing b t with
  | nil =>
    obtain rfl : b = after := congrArg Prod.snd sent
    rw [before, List.length_nil, Nat.zero_mul, add_ofNat_zero]
  | cons frame frames ih =>
    rw [run_sendFrames_cons] at sent
    dsimp only at sent
    rw [run_write, run_tell] at sent
    split at sent
    · next accepted =>
      have behind := timing_write before (image.frameData format
        (page * format.pageSize.toNat + frame * format.frameSize.toNat) ++
          wordBytes (Crc16.ofList (image.frameData format
            (page * format.pageSize.toNat + frame * format.frameSize.toNat))) ++ [0])
        format.commands.continuePage
      rw [busyBehind_eq before _ (fun _ => rfl) fun asks busy nack => ?mistaken] at behind
      case mistaken => exact clear ⟨asks, by rw [← accepted]; exact congrArg _ nack, busy⟩
      rw [run_wait] at sent
      rw [ih (timing_wait behind _) sent, List.length_cons, Nat.succ_mul, add_ofNat_ofNat,
        Nat.add_comm (format.delay.toNat * 1000000)]
    · cases sent

theorem timing_sendPage
    (sent : (ExceptT.run (sendPage address format image page)).run partner b = (.ok (), after)) :
    after.timing = ⟨address, format, k, k,
      t + .ofNat ((1 + format.framesPerPage) * (format.delay.toNat * 1000000))⟩ := by
  rcases place : image.pageOffset? page format.pageSize with _ | offset
  · rw [sendPage, place] at sent
    cases sent
  rw [Firmware.run_sendPage _ _ _ place, run_write, run_wait] at sent
  split at sent
  · next complete =>
    have behind := timing_write before (wordBytes offset) format.commands.pageAddress
    rw [busyBehind_eq before _ (fun _ => rfl) fun _ _ nack => ?refused] at behind
    case refused =>
      rw [nack] at complete
      cases complete
    rw [timing_sendFrames clear (timing_wait behind _) sent, List.length_range, Nat.add_mul,
      Nat.one_mul, add_ofNat_ofNat]
  · cases sent

theorem timing_sendPages {total : Nat} {pages : List Nat}
    (sent : (ExceptT.run (sendPages address format image total pages)).run partner b =
      (.ok (), after)) :
    after.timing = ⟨address, format, k, k,
      t + .ofNat
        (pages.length * ((1 + format.framesPerPage) * (format.delay.toNat * 1000000)))⟩ := by
  induction pages generalizing b t with
  | nil =>
    obtain rfl : b = after := congrArg Prod.snd sent
    rw [before, List.length_nil, Nat.zero_mul, add_ofNat_zero]
  | cons page pages ih =>
    rw [run_sendPages_cons, run_bind] at sent
    rcases first : (ExceptT.run (sendPage address format image page)).run partner b with
      ⟨failure | _, mid⟩
    · rw [first] at sent
      cases sent
    · rw [first] at sent
      rw [ih (timing_sendPage clear before first) sent, List.length_cons, Nat.succ_mul,
        add_ofNat_ofNat, Nat.add_comm ((1 + format.framesPerPage) * _)]

end Pages

/-! ## Questions -/

section Questions
variable {b after : Bootloader} {image : Image} {offset : UInt16}
  (first : image.crcOffset? = some offset)
include first

/-- A report comes from a device at the address asked that is not busy, one settling time later. -/
theorem timing_askReport {address : UInt8} {report : UInt8 × UInt16}
    (asked : (askReport address b.format image).run partner b = (some report, after)) :
    address = b.address ∧ b.busy = 0 ∧
      after.timing = ⟨b.address, b.format, b.busyAfterErase, b.busy,
        b.elapsed + .ofNat (b.format.crcSettle.toNat * 1000000)⟩ := by
  by_cases own : address = b.address
  case neg =>
    have request : reportRequest? b.format.commands image = some
        (b.format.commands.getVersionAndCrc :: wordBytes offset ++ wordBytes image.crcLength) := by
      rw [reportRequest?, first]
      rfl
    -- nothing answers at another address
    have foreign (bytes : List UInt8) : (b.answerWrite address bytes).1 = .addressNack := by
      simp only [answerWrite, if_neg own]
    rw [askReport_eq _ _ _ request, Dialogue.run] at asked
    simp only [partner, foreign] at asked
    cases asked
  subst own
  by_cases idle : b.busy = 0
  · obtain ⟨log, report⟩ := run_askReport first idle
    cases report.symm.trans asked
    exact ⟨rfl, idle, rfl⟩
  · obtain ⟨log, refused⟩ := run_askReport_busy first idle
    cases refused.symm.trans asked

/-- An updater that asks until it is told asks more often than the device refuses. -/
theorem busy_lt_of_askCrcRepeatedly {attempts : Nat} {crc : UInt16}
    (asked : (askCrcRepeatedly b.address b.format image attempts).run partner b =
      (some crc, after)) :
    b.busy.toNat < attempts := by
  induction attempts generalizing b with
  | zero => cases asked
  | succ attempts ih =>
    by_cases idle : b.busy = 0
    · rw [idle]
      exact Nat.succ_pos attempts
    · obtain ⟨log, refused⟩ := run_askReport_busy first idle
      rw [askCrcRepeatedly_succ, run_bind, refused] at asked
      dsimp only at asked
      rw [run_wait] at asked
      have patient : (b.busy - 1).toNat < attempts := @ih
        { b with
          busy := b.busy - 1
          elapsed := b.elapsed + .ofNat (b.format.reverifyDelay.toNat * 1000000)
          log } asked
      have fewer := toNat_busy_sub_one idle
      omega

theorem timing_askCrcRepeatedly {attempts : Nat} {crc : UInt16}
    (asked : (askCrcRepeatedly b.address b.format image attempts).run partner b =
      (some crc, after)) :
    after.timing = ⟨b.address, b.format, b.busyAfterErase, 0,
      b.elapsed + .ofNat (b.busy.toNat * (b.format.reverifyDelay.toNat * 1000000) +
        b.format.crcSettle.toNat * 1000000)⟩ := by
  obtain ⟨log, answer⟩ := run_askCrcRepeatedly first (busy_lt_of_askCrcRepeatedly first asked)
  cases answer.symm.trans asked
  rfl

end Questions

/-! ## Steps -/

section Steps
variable {b after : Bootloader} {session later : Session} {image : Image}

theorem timing_reportBefore {offset : UInt16} (first : image.crcOffset? = some offset)
    (format : b.format = session.half.profile.flasher) {report : UInt8 × UInt16}
    (succeeds : (UpdateOp.from session (reportBefore image)).run partner b =
      ((.ok report, later), after)) :
    b.address = session.half.bootloaderAddress ∧ later.half = session.half ∧
      after.timing = ⟨b.address, b.format, b.busyAfterErase, 0,
        b.elapsed + .ofNat (b.format.crcSettle.toNat * 1000000)⟩ := by
  rw [from_reportBefore, run_tell, run_read, run_bind, ← format] at succeeds
  rcases answer : (askReport session.half.bootloaderAddress b.format image).run partner
    { b with pending := none, log := _ } with ⟨_ | report, b₁⟩
  · rw [answer] at succeeds
    cases succeeds
  obtain ⟨own, idle, time⟩ :=
    @timing_askReport { b with pending := none, log := _ } b₁ image offset first _ _ answer
  rw [answer] at succeeds
  dsimp only at succeeds
  split at succeeds
  · cases succeeds
  · cases succeeds
    rw [time, idle]
    exact ⟨own.symm, rfl, rfl⟩

variable {address : UInt8} {format : FlashFormat} {k busy : UInt16} {t : UInt64}
  (own : session.half.bootloaderAddress = address) (fed : session.half.profile.flasher = format)
include own fed

theorem timing_erase (before : b.timing = ⟨address, format, k, busy, t⟩)
    (succeeds : (UpdateOp.from session erase).run partner b = ((.ok (), later), after)) :
    later.half = session.half ∧
      after.timing = ⟨address, format, k, k, t + .ofNat (format.eraseDelay.toNat * 1000000)⟩ := by
  rw [from_erase, own, fed, run_tell, run_write, run_wait] at succeeds
  by_cases complete :
      (b.answerWrite address [format.commands.eraseProgram]).1.isComplete = true
  · have behind := timing_write before [] format.commands.eraseProgram
    rw [busyBehind_erase before (of_decide_eq_true complete)] at behind
    rw [if_pos complete] at succeeds
    cases succeeds
    exact ⟨rfl, timing_wait behind _⟩
  · rw [if_neg complete] at succeeds
    cases succeeds

theorem timing_writePages (clear : ¬MistakesFrames format k)
    (before : b.timing = ⟨address, format, k, k, t⟩)
    (succeeds : (UpdateOp.from session (writePages image)).run partner b =
      ((.ok (), later), after)) :
    later.half = session.half ∧
      after.timing = ⟨address, format, k, k, t + .ofNat (image.pageCount format.pageSize *
        ((1 + format.framesPerPage) * (format.delay.toNat * 1000000)))⟩ := by
  rw [from_writePages, own, fed, run_tell, run_bind] at succeeds
  rcases sent : (ExceptT.run (sendPages address format image (image.pageCount format.pageSize)
    (List.range (image.pageCount format.pageSize)))).run partner b with ⟨result, b₁⟩
  rw [sent] at succeeds
  cases succeeds
  refine ⟨rfl, ?_⟩
  rw [timing_sendPages clear before sent, List.length_range]

theorem timing_verifyWritten {offset : UInt16} (first : image.crcOffset? = some offset)
    (before : b.timing = ⟨address, format, k, busy, t⟩) {crc : UInt16}
    (succeeds : (UpdateOp.from session (verifyWritten image)).run partner b =
      ((.ok crc, later), after)) :
    later.half = session.half ∧
      after.timing = ⟨address, format, k, 0, t + .ofNat (busy.toNat *
        (format.reverifyDelay.toNat * 1000000) + format.crcSettle.toNat * 1000000)⟩ := by
  cases before
  rw [from_verifyWritten, own, fed, run_tell, run_bind] at succeeds
  rcases asked : (askCrcRepeatedly b.address b.format image b.format.reverifyAttempts.toNat).run
    partner b with ⟨_ | actual, b₁⟩
  · rw [asked] at succeeds
    cases succeeds
  rw [asked] at succeeds
  dsimp only at succeeds
  split at succeeds
  · cases succeeds
    exact ⟨rfl, timing_askCrcRepeatedly first asked⟩
  · cases succeeds

theorem elapsed_startProgram (before : b.timing = ⟨address, format, k, busy, t⟩)
    (succeeds : (UpdateOp.from session startProgram).run partner b = ((.ok (), later), after)) :
    after.elapsed = t := by
  rw [from_startProgram, own, fed, run_write] at succeeds
  obtain rfl : _ = after := congrArg Prod.snd succeeds
  exact congrArg Timing.elapsed (timing_write before [0] format.commands.execute)

end Steps

/-- The pauses of an update that writes its image, added up. -/
theorem elapsed_writeImage {b after : Bootloader} {session later : Session} {image : Image}
    {offset : UInt16} {report : Report} (first : image.crcOffset? = some offset)
    (format : b.format = session.half.profile.flasher)
    (clear : ¬MistakesFrames b.format b.busyAfterErase)
    (succeeds : (UpdateOp.from session (writeImage image)).run partner b =
      ((.ok report, later), after)) :
    after.elapsed = b.elapsed + .ofNat (updateTime b.format (image.pageCount b.format.pageSize)
      b.busyAfterErase.toNat) := by
  unfold writeImage at succeeds
  obtain ⟨_, _, _, ⟨⟩, succeeds⟩ := ok_of_run_from_bind succeeds
  obtain ⟨_, session₁, b₁, reported, succeeds⟩ := ok_of_run_from_bind succeeds
  obtain ⟨own, half₁, time₁⟩ := timing_reportBefore first format reported
  rw [← half₁] at own format
  obtain ⟨_, session₂, b₂, erased, succeeds⟩ := ok_of_run_from_bind succeeds
  obtain ⟨half₂, time₂⟩ := timing_erase own.symm format.symm time₁ erased
  rw [← half₂] at own format
  obtain ⟨_, session₃, b₃, written, succeeds⟩ := ok_of_run_from_bind succeeds
  obtain ⟨half₃, time₃⟩ := timing_writePages own.symm format.symm clear time₂ written
  rw [← half₃] at own format
  obtain ⟨_, session₄, b₄, verified, succeeds⟩ := ok_of_run_from_bind succeeds
  obtain ⟨half₄, time₄⟩ := timing_verifyWritten own.symm format.symm first time₃ verified
  rw [← half₄] at own format
  obtain ⟨_, session₅, b₅, started, succeeds⟩ := ok_of_run_from_bind succeeds
  have time₅ := elapsed_startProgram own.symm format.symm time₄ started
  cases succeeds
  -- the pauses, added up
  simp only [time₅, add_ofNat_ofNat]
  refine congrArg (fun pauses => b.elapsed + .ofNat pauses) ?_
  unfold updateTime
  ring

/-- The pauses of an update that succeeded. -/
theorem elapsed_update {b device : Bootloader} {session after : Session} {image : Image}
    {report : Report} (format : b.format = session.half.profile.flasher)
    (clear : ¬MistakesFrames b.format b.busyAfterErase)
    (succeeds : ((update image).run session).run partner b = ((.ok report, after), device)) :
    device.elapsed = b.elapsed + .ofNat (updateTime b.format (image.pageCount b.format.pageSize)
      b.busyAfterErase.toNat) := by
  rw [run_update, ← format] at succeeds
  rcases valid : image.validate b.format with failure | _
  · rw [valid] at succeeds
    cases succeeds
  obtain ⟨offset, first⟩ := Image.exists_crcOffset valid
  rw [valid, run_bind] at succeeds
  rcases written : (UpdateOp.from session (writeImage image)).run partner b with
    ⟨⟨failure | report, later⟩, b₁⟩
  · rw [written] at succeeds
    cases succeeds
  · rw [written] at succeeds
    cases succeeds
    exact elapsed_writeImage first format clear written

/-- A dry run updates the half of a new board. -/
theorem dryRun_eq (loaded : LoadedImage) (side : Side) (profile : Profile) :
    dryRun loaded side profile =
      match ((update loaded.image).run
          { half := ((Board.new profile).half side).mapKeys Keys.clear }).run partner
          { address := profile.bootloaderAddress side.select, format := profile.flasher } with
      | ((.ok report, _), device) => .ok ⟨report, device.elapsedMilliseconds, device.log.toList⟩
      | ((.error failure, _), _) => .error ⟨side, failure⟩ := by
  unfold dryRun
  rw [Board.run_flash]
  dsimp only
  rw [run_tell, run_bind]
  rcases ((update loaded.image).run
      { half := ((Board.new profile).half side).mapKeys Keys.clear }).run partner
      { address := profile.bootloaderAddress side.select, format := profile.flasher } with
    ⟨⟨failure | report, after⟩, device⟩
  · rfl
  · rfl

theorem dryRun_ok {loaded : LoadedImage} {side : Side} {profile : Profile} {report : Report}
    {after : Session} {device : Bootloader}
    (run : ((update loaded.image).run
      { half := ((Board.new profile).half side).mapKeys Keys.clear }).run partner
      { address := profile.bootloaderAddress side.select, format := profile.flasher } =
        ((.ok report, after), device)) :
    dryRun loaded side profile =
      .ok ⟨report, device.elapsedMilliseconds, device.log.toList⟩ := by
  rw [dryRun_eq, run]

/-- The device of a dry run ignores no question, so its clock starts at zero and shows the pauses
alone. -/
theorem milliseconds_dryRun {loaded : LoadedImage} {side : Side} {profile : Profile} {dry : DryRun}
    (succeeds : dryRun loaded side profile = .ok dry) :
    dry.milliseconds =
      .ofNat (updateTime profile.flasher (loaded.image.pageCount profile.flasher.pageSize) 0) /
        1000000 := by
  rw [dryRun_eq] at succeeds
  split at succeeds
  · next report after device run =>
    cases succeeds
    have format : profile.flasher =
        (((Board.new profile).half side).mapKeys Keys.clear).profile.flasher := by
      cases side <;> rfl
    have time := elapsed_update format (fun mistakes => mistakes.2.2 rfl) run
    change device.elapsed / 1000000 = _
    rw [time, UInt64.zero_add]
    rfl
  · cases succeeds

end Bootloader

open Bootloader

/-- **The time that a successful update takes**: it waits once for the erase, twice for a check
value, behind each question that the device ignored after the erase, and behind each page address
and each frame.  The clock goes on by that much, and below 2^64 nanoseconds it can be read off.  A
dry run shows the milliseconds then, of a device that ignores nothing. -/
theorem update_elapsed (image : Image) :
    (∀ {session after : Session} {b device : Bootloader} {report : Report},
      b.format = session.half.profile.flasher → ¬MistakesFrames b.format b.busyAfterErase →
      ((update image).run session).run partner b = ((.ok report, after), device) →
      let total := (b.format.eraseDelay.toNat + 2 * b.format.crcSettle.toNat +
        b.busyAfterErase.toNat * b.format.reverifyDelay.toNat +
        image.pageCount b.format.pageSize * (1 + b.format.framesPerPage) *
          b.format.delay.toNat) * 1000000
      device.elapsed = b.elapsed + .ofNat total ∧
        (total < UInt64.size → (device.elapsed - b.elapsed).toNat = total) ∧
        (b.elapsed.toNat + total < UInt64.size →
          device.elapsed.toNat = b.elapsed.toNat + total)) ∧
    ∀ {loaded : LoadedImage} {side : Side} {profile : Profile} {dry : DryRun},
      loaded.image = image → dryRun loaded side profile = .ok dry →
      let total := profile.flasher.eraseDelay.toNat + 2 * profile.flasher.crcSettle.toNat +
        image.pageCount profile.flasher.pageSize * (1 + profile.flasher.framesPerPage) *
          profile.flasher.delay.toNat
      total * 1000000 < UInt64.size → dry.milliseconds.toNat = total := by
  constructor
  · intro session after b device report format clear succeeds total
    have time : device.elapsed = b.elapsed + .ofNat total := elapsed_update format clear succeeds
    rw [time]
    exact ⟨rfl, toNat_clock_sub, toNat_clock_add⟩
  · rintro loaded side profile dry rfl succeeds total below
    have time := milliseconds_dryRun succeeds
    have whole : updateTime profile.flasher (loaded.image.pageCount profile.flasher.pageSize) 0 =
        total * 1000000 := by
      rw [updateTime, Nat.zero_mul, Nat.add_zero]
    rw [time, whole, UInt64.toNat_div, UInt64.toNat_ofNat_of_lt' below]
    exact Nat.mul_div_cancel _ (by decide)

/-- Five bytes at the start of a device that ignores two questions after the erase, and at the start
of the left half in a dry run: one page of four frames. -/
theorem update_elapsed_five_bytes :
    (∃ report after device,
      ((update ⟨#[1, 2, 3, 4, 5], .contiguous 0⟩).run ⟨Half.new 0 .raise, .idle⟩).run partner
          { newDevice with busyAfterErase := 2 } = ((.ok report, after), device) ∧
        device.elapsed.toNat = 1405 * 1000000) ∧
      ∃ dry, dryRun ⟨0, #[1, 2, 3, 4, 5]⟩ .left .raise = .ok dry ∧
        dry.milliseconds.toNat = 1205 := by
  have valid : Image.validate ⟨#[1, 2, 3, 4, 5], .contiguous 0⟩ newDevice.format = .ok () := by
    decide +kernel
  have first : Image.crcOffset? ⟨#[1, 2, 3, 4, 5], .contiguous 0⟩ = some 4 := by decide +kernel
  have length : Image.crcLength ⟨#[1, 2, 3, 4, 5], .contiguous 0⟩ = 1 := by decide +kernel
  have checked : rangeCrc newDevice.flash (4 : UInt16).toNat
      (Image.crcLength ⟨#[1, 2, 3, 4, 5], .contiguous 0⟩).toNat ≠ 0xFFFF := by
    rw [length, rangeCrc_newDevice (by decide)]
    decide +kernel
  -- a device like a new one takes the image, however long it is busy
  have succeeds (half : Half) (b : Bootloader) (serves : b.Serves half)
      (format : b.format = newDevice.format) (flash : b.flash = newDevice.flash)
      (version : b.version = 1) (idle : b.busy = 0) (patient : b.busyAfterErase.toNat < 50) :
      ∃ report device,
        ((update ⟨#[1, 2, 3, 4, 5], .contiguous 0⟩).run ⟨half, .idle⟩).run partner b =
        ((.ok report, ⟨half.markUnavailable, .done⟩), device) := by
    rw [← format] at valid
    obtain ⟨log, page, frameInPage, written⟩ := run_writeImage ⟨half, .idle⟩ serves valid first
      ⟨idle, by rw [version]; decide, by rw [flash]; exact checked, by rw [format]; exact patient⟩
      (pagesInside_contiguous valid rfl)
      (rangeCrc_of_holds valid rfl first (holds_writtenFlash valid rfl))
    exact ⟨_, _, run_update_of_writeImage serves valid written⟩
  constructor
  · obtain ⟨report, device, run⟩ := succeeds (Half.new 0 .raise)
      { newDevice with busyAfterErase := 2 }
      ⟨sound_newDevice.later rfl rfl rfl, by decide +kernel, rfl⟩ rfl rfl rfl rfl (by decide)
    refine ⟨report, _, device, run, ?_⟩
    rw [((update_elapsed _).1 rfl (fun mistakes => absurd mistakes.2.1 (by decide)) run).2.2
      (by decide +kernel)]
    decide +kernel
  · obtain ⟨report, device, run⟩ := succeeds (((Board.new .raise).half .left).mapKeys Keys.clear)
      { address := Profile.raise.bootloaderAddress Side.left.select
        format := Profile.raise.flasher }
      ⟨sound_newDevice.later rfl rfl rfl, by decide +kernel, rfl⟩ rfl rfl rfl rfl (by decide)
    have dry := @dryRun_ok ⟨0, #[1, 2, 3, 4, 5]⟩ .left .raise _ _ _ run
    refine ⟨_, dry, ?_⟩
    rw [(update_elapsed _).2 rfl dry (by decide +kernel)]
    decide +kernel

/-- The device and the image of this size, but with frames for questions: the only question that
the device ignores after the erase is the frame, and the updater saves the pause behind it. -/
theorem update_elapsed_mistaken :
    ∃ report after device,
      ((update ⟨Array.replicate 5 0xFF, .contiguous 0⟩).run ⟨Half.new 0 mistakenProfile, .idle⟩).run
          partner mistakenDevice = ((.ok report, after), device) ∧
        mistakenDevice.busyAfterErase < mistakenDevice.format.reverifyAttempts ∧
        let total :=
          (mistakenDevice.format.eraseDelay.toNat + 2 * mistakenDevice.format.crcSettle.toNat +
            mistakenDevice.busyAfterErase.toNat * mistakenDevice.format.reverifyDelay.toNat +
            Image.pageCount ⟨Array.replicate 5 0xFF, .contiguous 0⟩ mistakenDevice.format.pageSize *
              (1 + mistakenDevice.format.framesPerPage) * mistakenDevice.format.delay.toNat) *
            1000000
        total < UInt64.size ∧ (device.elapsed - mistakenDevice.elapsed).toNat ≠ total := by
  have length : Image.crcLength ⟨Array.replicate 5 0xFF, .contiguous 0⟩ = 1 := by decide +kernel
  have blank : rangeCrc newDevice.flash (4 : UInt16).toNat (1 : UInt16).toNat = 0x00FF := by
    rw [rangeCrc_newDevice (by decide)]
    decide +kernel
  obtain ⟨report, after, device, run, time⟩ := @run_update_mistaken mistakenDevice
    ⟨Array.replicate 5 0xFF, .contiguous 0⟩ ⟨Half.new 0 mistakenProfile, .idle⟩
    ⟨rfl, rfl, by decide +kernel⟩ (by decide +kernel) rfl (by decide +kernel) 4 0
    (by decide +kernel)
    rfl (by decide) (by rw [length]; exact ne_of_eq_of_ne blank (by decide)) (by decide +kernel)
    (by decide +kernel) (by rw [length]; exact blank.trans (by decide +kernel))
  refine ⟨report, after, device, run, by decide +kernel, by decide +kernel, ?_⟩
  rw [time]
  decide +kernel

end SplitBoard.Firmware

import SplitBoard.Proofs.FlashedHalf
import SplitBoard.Proofs.PageProgress

/-!
# The check after the pages

A bootloader that still works on the last page may not answer, so the check value
is asked for several times.  **The first question that succeeds decides**: all
those before it failed, each with a pause behind it, and there are no more of them
than the profile allows (`Tries`).  What comes of the update is a function of the
check value found (`Verdict`).
-/

namespace SplitBoard.Firmware

open Dialogue
open Half (transactions transactions_append)

/-! ## Attempts -/

/-- The question completed, and all bytes of its answer came. -/
def Asking.succeeds : Asking → Bool
  | refused .. => false
  | answered delivery => delivery.isFull

/-- The check value of the first question that succeeded. -/
def found? (asked : List Asking) : Option UInt16 :=
  (asked.findSome? Asking.report?).map Prod.snd

section Statement
variable (image : Image) (half : Half)

/-- What is said when questions are asked one after the other: a pause follows each that fails. -/
def attemptsTalk (asked : List Asking) : Bus.Talk :=
  asked.flatMap fun asking => asking.talk image half ++
    if asking.succeeds then [] else [paused half.profile.flasher.reverifyDelay]

/-- An exchange asks for the version and the check value of the image. -/
def AsksForReport (e : Exchange Bus.vocabulary) : Prop :=
  e.request = .hold half.bootloaderAddress (question image half)

instance : DecidablePred (AsksForReport image half) :=
  fun _ => inferInstanceAs (Decidable (_ = _))

/-- No question is asked behind one that succeeded, and none is left out before. -/
structure Tries (asked : List Asking) : Prop where
  le_attempts : asked.length ≤ half.profile.flasher.reverifyAttempts.toNat
  stops : ∀ asking ∈ asked.dropLast, asking.succeeds = false
  patient : (∀ asking ∈ asked, asking.succeeds = false) →
    asked.length = half.profile.flasher.reverifyAttempts.toNat

/-- What comes of an update by its questions: the last transactions, the result, and the half. -/
structure Verdict (asked : List Asking) (ended : Bus.Talk) (result : Except Failure Report)
    (half' : Half) : Prop where
  silent : result = .error .silentAfterwards ↔
    asked.length = half.profile.flasher.reverifyAttempts.toNat ∧
      ∀ asking ∈ asked, asking.succeeds = false
  mismatch : ∀ expected actual, result = .error (.mismatch expected actual) ↔
    found? asked = some actual ∧ expected = image.expectedCrc ∧ actual ≠ expected
  crcErrors : half'.crcErrors.toNat =
    if IsMismatch result then min (half.crcErrors.toNat + 1) 65535 else half.crcErrors.toNat
  /-- Where the check value is right, the program is started, and only there. -/
  starts : found? asked = some image.expectedCrc →
    ∃ status : Transmission, ended = [⟨executeRequest half, status⟩] ∧
      (status = .complete ↔ ∃ report, result = .ok report) ∧
      (status ≠ .complete ↔ result = .error .executeRefused)
  rests : found? asked ≠ some image.expectedCrc → ended = []

/-- The check at the end of an update, behind what was said until everything was written. -/
structure Rechecked (said : Bus.Talk) (result : Except Failure Report) (session : Session)
    (written : Bus.Talk) (asked : List Asking) (ended : Bus.Talk) : Prop where
  said_eq : said = written ++ told (.phase .reverifying) ::
    (attemptsTalk image half asked ++ ended) ++ conclusion half .reverifying result
  before : .reverifying ∉ phasesTold written
  sent : (sentIn .reverifying said).countP (AsksForReport image half ·) = asked.length
  tries : Tries half asked
  verdict : Verdict image half asked ended result session.half

end Statement

section Attempts
variable {image : Image} {half : Half} {asking : Asking} {asked failed : List Asking}
  {version : UInt8} {crc : UInt16}

/-- A report takes all three bytes. -/
theorem Asking.report?_eq_none_iff : asking.report? = none ↔ asking.succeeds = false := by
  rcases asking with _ | ⟨bytes, length_le⟩
  · exact iff_of_true rfl rfl
  · rcases bytes with _ | ⟨_, _ | ⟨_, _ | ⟨_, _ | ⟨_, more⟩⟩⟩⟩
    · exact iff_of_true rfl rfl
    · exact iff_of_true rfl rfl
    · exact iff_of_true rfl rfl
    · exact iff_of_false nofun nofun
    · simp only [List.length_cons] at length_le
      omega

theorem Asking.succeeds_of_report (answer : asking.report? = some (version, crc)) :
    asking.succeeds = true := by
  rw [← Bool.not_eq_false, ← report?_eq_none_iff, answer]
  nofun

theorem found?_eq_none_iff : found? asked = none ↔ ∀ asking ∈ asked, asking.succeeds = false := by
  rw [found?, Option.map_eq_none_iff, List.findSome?_eq_none_iff]
  constructor
  · intro none asking member
    exact Asking.report?_eq_none_iff.mp (none asking member)
  · intro fails asking member
    exact Asking.report?_eq_none_iff.mpr (fails asking member)

/-- What failed before does not count. -/
theorem found?_concat (unanswered : ∀ asking ∈ failed, asking.report? = none)
    (answer : asking.report? = some (version, crc)) : found? (failed ++ [asking]) = some crc := by
  rw [found?, List.findSome?_append, List.findSome?_eq_none_iff.mpr unanswered, Option.none_or,
    List.findSome?_cons, answer]
  rfl

theorem attemptsTalk_append (asked asked' : List Asking) :
    attemptsTalk image half (asked ++ asked') =
      attemptsTalk image half asked ++ attemptsTalk image half asked' :=
  List.flatMap_append

theorem attemptsTalk_failed (unanswered : ∀ asking ∈ failed, asking.report? = none) :
    attemptsTalk image half failed = failedTalk image half failed := by
  refine List.flatMap_congr fun asking member => ?_
  rw [if_neg]
  rw [Asking.report?_eq_none_iff.mp (unanswered asking member)]
  nofun

/-- The talk of questions up to the one that succeeded. -/
theorem attemptsTalk_concat (unanswered : ∀ asking ∈ failed, asking.report? = none)
    (answer : asking.report? = some (version, crc)) :
    attemptsTalk image half (failed ++ [asking]) =
      failedTalk image half failed ++ asking.talk image half := by
  rw [attemptsTalk_append, attemptsTalk_failed unanswered, attemptsTalk, List.flatMap_singleton,
    if_pos (Asking.succeeds_of_report answer), List.append_nil]

theorem quiet_attemptsTalk (image : Image) (half : Half) (asked : List Asking) :
    Quiet (attemptsTalk image half asked) := by
  induction asked with
  | nil => exact ⟨rfl, rfl⟩
  | cons asking asked ih =>
    rw [attemptsTalk, List.flatMap_cons, ← attemptsTalk]
    refine ((quiet_talk image half asking).append ?_).append ih
    split <;> exact ⟨rfl, rfl⟩

/-- Each question is one request for the report. -/
theorem countP_attemptsTalk (image : Image) (half : Half) (asked : List Asking) :
    (transactions (attemptsTalk image half asked)).countP (AsksForReport image half ·) =
      asked.length := by
  induction asked with
  | nil => rfl
  | cons asking asked ih =>
    have hold (status : Transmission) : AsksForReport image half
        ⟨.hold half.bootloaderAddress (question image half), status⟩ := rfl
    have read (delivery : Delivery 3) : ¬AsksForReport image half
        ⟨.read half.bootloaderAddress 3, delivery⟩ := nofun
    have pauses : transactions (if asking.succeeds then ([] : Bus.Talk)
        else [paused half.profile.flasher.reverifyDelay]) = [] := by
      split <;> rfl
    have once : (transactions (asking.talk image half)).countP (AsksForReport image half ·) = 1 := by
      cases asking with
      | refused status incomplete =>
        have kept : transactions ((Asking.refused status incomplete).talk image half) =
            [⟨.hold half.bootloaderAddress (question image half), status⟩] := rfl
        rw [kept, List.countP_singleton]
        exact if_pos (decide_eq_true (hold status))
      | answered delivery =>
        have kept : transactions ((Asking.answered delivery).talk image half) =
            [⟨.hold half.bootloaderAddress (question image half), Transmission.complete⟩,
              ⟨.read half.bootloaderAddress 3, delivery⟩] := rfl
        rw [kept, List.countP_cons, List.countP_singleton, if_pos (decide_eq_true (hold .complete)),
          if_neg (mt of_decide_eq_true (read delivery))]
    rw [attemptsTalk, List.flatMap_cons, ← attemptsTalk, transactions_append, transactions_append,
      pauses, List.append_nil, List.countP_append, once, ih, List.length_cons, Nat.add_comm]

/-- All attempts are used up. -/
theorem Tries.all (all : failed.length = half.profile.flasher.reverifyAttempts.toNat)
    (unanswered : ∀ asking ∈ failed, asking.report? = none) : Tries half failed := by
  refine ⟨Nat.le_of_eq all, ?_, fun _ => all⟩
  intro asking member
  exact Asking.report?_eq_none_iff.mp (unanswered asking (List.dropLast_subset failed member))

/-- One of the attempts is answered. -/
theorem Tries.answered (few : failed.length < half.profile.flasher.reverifyAttempts.toNat)
    (unanswered : ∀ asking ∈ failed, asking.report? = none)
    (answer : asking.report? = some (version, crc)) : Tries half (failed ++ [asking]) := by
  constructor
  case le_attempts =>
    rw [List.length_append, List.length_singleton]
    exact few
  case stops =>
    intro asking member
    rw [List.dropLast_concat] at member
    exact Asking.report?_eq_none_iff.mp (unanswered asking member)
  case patient =>
    intro fails
    have last := fails asking (List.mem_append_right _ List.mem_cons_self)
    rw [Asking.succeeds_of_report answer] at last
    cases last

end Attempts

/-! ## The verdict -/

section Verdicts
variable {image : Image} {half : Half} {asked : List Asking} {actual : UInt16}

theorem Verdict.of_none (none : found? asked = none)
    (all : asked.length = half.profile.flasher.reverifyAttempts.toNat) :
    Verdict image half asked [] (.error .silentAfterwards) half := by
  constructor
  case silent => exact iff_of_true rfl ⟨all, found?_eq_none_iff.mp none⟩
  case mismatch =>
    intro expected actual
    rw [none]
    constructor
    · rintro ⟨⟩
    · rintro ⟨⟨⟩, -⟩
  case crcErrors =>
    rw [if_neg]
    rintro ⟨_, _, ⟨⟩⟩
  case starts =>
    rw [none]
    rintro ⟨⟩
  case rests => exact fun _ => rfl

/-- A check value was found, so the bootloader was not silent. -/
theorem not_silent_of_found (found : found? asked = some actual) :
    ¬∀ asking ∈ asked, asking.succeeds = false := by
  rw [← found?_eq_none_iff, found]
  nofun

theorem Verdict.of_ne (found : found? asked = some actual) (differs : actual ≠ image.expectedCrc) :
    Verdict image half asked [] (.error (.mismatch image.expectedCrc actual))
      half.recordCrcError := by
  constructor
  case silent => exact iff_of_false nofun fun both => not_silent_of_found found both.2
  case mismatch =>
    intro expected actual'
    rw [found]
    constructor
    · rintro ⟨⟩
      exact ⟨rfl, rfl, differs⟩
    · rintro ⟨⟨⟩, rfl, -⟩
      rfl
  case crcErrors => rw [if_pos ⟨_, _, rfl⟩, toNat_recordCrcError]
  case starts =>
    rw [found]
    rintro ⟨⟩
    exact absurd rfl differs
  case rests => exact fun _ => rfl

/-- The program is started, and the result tells whether that completed. -/
theorem Verdict.of_eq {status : Transmission} {result : Except Failure Report}
    (found : found? asked = some image.expectedCrc)
    (outcome : status = .complete ∧ (∃ report, result = .ok report) ∨
      status ≠ .complete ∧ result = .error .executeRefused) :
    Verdict image half asked [⟨executeRequest half, status⟩] result half := by
  have other : ∀ failure, result = .error failure → failure = .executeRefused := by
    rintro failure rfl
    rcases outcome with ⟨-, _, ⟨⟩⟩ | ⟨-, ⟨⟩⟩
    rfl
  constructor
  case silent =>
    refine iff_of_false ?_ fun both => not_silent_of_found found both.2
    intro silent
    cases other _ silent
  case mismatch =>
    intro expected actual
    rw [found]
    refine iff_of_false ?_ ?_
    · intro mismatch
      cases other _ mismatch
    · rintro ⟨⟨⟩, rfl, differs⟩
      exact differs rfl
  case crcErrors =>
    rw [if_neg]
    rintro ⟨_, _, mismatch⟩
    cases other _ mismatch
  case starts =>
    intro _
    refine ⟨status, rfl, ?_⟩
    rcases outcome with ⟨complete, report, rfl⟩ | ⟨incomplete, rfl⟩
    · exact ⟨iff_of_true complete ⟨report, rfl⟩, iff_of_false (not_not_intro complete) nofun⟩
    · exact ⟨iff_of_false incomplete nofun, iff_of_true incomplete rfl⟩
  case rests => exact fun differs => absurd found differs

/-- Behind the questions nothing is said but the start. -/
theorem Verdict.ended_eq {ended : Bus.Talk} {result : Except Failure Report} {half' : Half}
    (h : Verdict image half asked ended result half') :
    ended = [] ∨ ∃ status : Transmission, ended = [⟨executeRequest half, status⟩] := by
  by_cases right : found? asked = some image.expectedCrc
  · obtain ⟨status, start, -⟩ := h.starts right
    exact .inr ⟨status, start⟩
  · exact .inl (h.rests right)

end Verdicts

/-! ## The update -/

section Update
variable {image : Image} {half : Half} {phase : Phase} {course said : Bus.Talk}
  {result : Except Failure Report} {session : Session} {version : UInt8} {crc : UInt16}

theorem Writes.phases (valid : image.validate half.profile.flasher = .ok ())
    (h : Writes image half said version crc) :
    phasesTold said = [.verifying, .erasing, .writing] := by
  obtain @⟨begun, pages, _, _, begins, plays⟩ := h
  have silent := (plays_sendPages
    (fun page member => Image.exists_pageOffset valid (List.mem_range.mp member)) plays).1
  rw [phasesTold_append, begins.phases]
  change [.verifying, .erasing] ++ .writing :: phasesTold pages = _
  rw [silent]
  rfl

/-- A page that was accepted was sent in the writing phase. -/
theorem writing_of_accepted {page : Nat} (accepted : PageAccepted image half said page) :
    .writing ∈ phasesTold said := by
  by_contra never
  rw [PageAccepted, sentIn_eq_nil never (by decide), ofPage, List.drop_nil, List.take_nil] at accepted
  have none := accepted.length_eq
  rw [length_pageWrites] at none
  cases none

/-- Where every page was accepted, none was refused. -/
theorem Halts.not_refused {done : Nat} {sent broken : Bus.Talk}
    (h : Halts image half said result done sent broken)
    (accepted : ∀ page < image.pageCount half.profile.flasher.pageSize,
      PageAccepted image half said page) (offset : UInt16) :
    result ≠ .error (.pageRefused offset) := by
  rcases h.outcome with ⟨-, -, other, -⟩ | ⟨inRange, breaks, -⟩
  · exact other offset
  · have last := accepted done inRange
    rw [PageAccepted, h.sent_eq, accepted_ofPage_iff done h.accepted (.inr breaks)] at last
    exact absurd last (Nat.lt_irrefl done)

/-- An update whose pages were all accepted goes on to the questions, and ends by them. -/
theorem Course.checked (valid : image.validate half.profile.flasher = .ok ())
    (h : Course image half course result session)
    (accepted : ∀ page < image.pageCount half.profile.flasher.pageSize,
      PageAccepted image half course page) :
    session.phase = .reverifying ∧ ∃ written version crc asked ended,
      Writes image half written version crc ∧
      course = written ++ told (.phase .reverifying) :: (attemptsTalk image half asked ++ ended) ∧
      Tries half asked ∧ Verdict image half asked ended result session.half := by
  have reached := writing_of_accepted (accepted 0 (Image.pageCount_pos valid))
  have halts := h.halts valid
  cases h with
  | unreported =>
    rw [phasesTold_opening] at reached
    cases List.mem_singleton.mp reached
  | unerased =>
    rw [phasesTold_erasing, phasesTold_opening] at reached
    cases List.mem_pair.mp reached <;> contradiction
  | unwritten _ sends =>
    obtain ⟨_, _, page, _, offset, _, _, _, _, rfl, -⟩ := plays_sendPages
      (fun page member => Image.exists_pageOffset valid (List.mem_range.mp member)) sends
    obtain ⟨done, sent, broken, halts⟩ := halts
    exact absurd rfl (halts.not_refused accepted offset)
  | @silent written version crc failed writes all unanswered =>
    have none : found? failed = none := found?_eq_none_iff.mpr fun asking member =>
      Asking.report?_eq_none_iff.mp (unanswered asking member)
    refine ⟨rfl, written, version, crc, failed, [], writes, ?_, .all all unanswered,
      .of_none none all⟩
    rw [attemptsTalk_failed unanswered, List.append_nil]
  | @mismatched written version other crc actual failed asking writes few unanswered answer differs =>
    refine ⟨rfl, written, version, crc, failed ++ [asking], [], writes, ?_,
      .answered few unanswered answer, .of_ne (found?_concat unanswered answer) differs⟩
    rw [attemptsTalk_concat unanswered answer, List.append_nil]
    rfl
  | @unstarted written version other crc failed asking status writes few unanswered answer
      incomplete =>
    refine ⟨rfl, written, version, crc, failed ++ [asking], _, writes, ?_,
      .answered few unanswered answer,
      .of_eq (found?_concat unanswered answer) (.inr ⟨incomplete, rfl⟩)⟩
    rw [attemptsTalk_concat unanswered answer, List.append_assoc]
    rfl
  | @started written version other crc failed asking writes few unanswered answer =>
    refine ⟨rfl, written, version, crc, failed ++ [asking], _, writes, ?_,
      .answered few unanswered answer,
      .of_eq (found?_concat unanswered answer) (.inl ⟨rfl, _, rfl⟩)⟩
    rw [attemptsTalk_concat unanswered answer, List.append_assoc]
    rfl

/-- **Where every page was accepted, the check value is asked for until it comes, as often as the
profile allows, and what comes of the update is decided by it**: without one the bootloader was
silent, another one than that of the image is a mismatch and counted, and the right one starts the
program. -/
theorem update_rechecked (valid : image.validate half.profile.flasher = .ok ())
    (plays : Plays ((update image).run ⟨half, phase⟩) said (result, session))
    (accepted : ∀ page < image.pageCount half.profile.flasher.pageSize,
      PageAccepted image half said page) :
    ∃ written asked ended, Rechecked image half said result session written asked ended := by
  obtain ⟨course, mid, went, rfl, same⟩ := course_of_update valid plays
  -- the last notes belong to none of the phases looked at
  have pages := sentIn_conclusion course half .writing mid.phase result nofun nofun
  have questions := sentIn_conclusion course half .reverifying mid.phase result nofun nofun
  unfold PageAccepted at accepted
  rw [pages] at accepted
  obtain ⟨last, written, version, crc, asked, ended, writes, rfl, tries, verdict⟩ :=
    went.checked valid accepted
  have before : .reverifying ∉ phasesTold written := by
    rw [writes.phases valid]
    decide
  have other : Quiet ended ∧ (transactions ended).countP (AsksForReport image half ·) = 0 := by
    rcases verdict.ended_eq with rfl | ⟨status, rfl⟩
    · exact ⟨⟨rfl, rfl⟩, rfl⟩
    · exact ⟨⟨rfl, rfl⟩, rfl⟩
  have quiet := (quiet_attemptsTalk image half asked).append other.1
  refine ⟨written, asked, ended, ?_, before, ?_, tries, ?_⟩
  · rw [last]
  · rw [questions, sentIn_told .reverifying quiet.phases, if_pos rfl, sentIn_eq_nil before nofun,
      List.nil_append, transactions_append, List.countP_append, countP_attemptsTalk, other.2,
      Nat.add_zero]
  · refine { verdict with crcErrors := ?_ }
    rw [same]
    exact verdict.crcErrors

/-- Five bytes take one page.  The first question is refused, the answer to the second one is cut
off, and the third one has another check value than the image. -/
theorem update_rechecked_late_mismatch :
    let half := Half.new 0 .raise
    let image : Image := ⟨#[1, 2, 3, 4, 5], .contiguous 0⟩
    let played := ((update image).run ⟨half, .idle⟩).transcribe Bus.Script.partner
      { statuses := [.complete, .complete, .complete, .dataNack, .dataNack, .dataNack, .dataNack,
          .addressNack]
        replies := [[], [1, 0xFF, 0], [1], [1, 0, 0]] }
    image.validate half.profile.flasher = .ok () ∧
      played.1.1 = .error (.mismatch image.expectedCrc 0) ∧
      played.1.2.half.crcErrors = 1 ∧
      (∀ page < image.pageCount half.profile.flasher.pageSize,
        PageAccepted image half played.2.1 page) ∧
      ∃ written asked ended,
        Rechecked image half played.2.1 played.1.1 played.1.2 written asked ended ∧
          asked.length = 3 := by
  intro half image played
  have valid : image.validate half.profile.flasher = .ok () := by decide +kernel
  have plays : Plays ((update image).run ⟨half, .idle⟩) played.2.1 played.1 :=
    plays_transcribe Bus.Script.partner _ _
  have one : pagesTold played.2.1 = [(1, 1)] := by decide +kernel
  obtain ⟨done, sent⟩ := exists_pagesSent valid plays
  have length := congrArg List.length (sent.told.symm.trans one)
  rw [List.length_map, List.length_range] at length
  obtain rfl : done = 1 := length
  have count : image.pageCount half.profile.flasher.pageSize = 1 := by decide +kernel
  have accepted : ∀ page < image.pageCount half.profile.flasher.pageSize,
      PageAccepted image half played.2.1 page := by
    rw [count]
    exact fun page => (sent.accepted page).mpr
  obtain ⟨written, asked, ended, rechecked⟩ := update_rechecked valid plays accepted
  refine ⟨valid, by decide +kernel, by decide +kernel, accepted, written, asked, ended, rechecked, ?_⟩
  rw [← rechecked.sent]
  decide +kernel

end Update

end SplitBoard.Firmware

import SplitBoard.Proofs.UpdateOrder

/-!
# The course of an update

All that is said in an update, from its first note to its last.  An update asks
for a report, erases, writes its pages, asks for the check value as often as it
has to, and starts the program; it ends where one of these fails.  `Course` has
one case for each of these ends, and each case spells out the talk up to there:
**what is left open is what the bus answers**.

Only the pages are not spelled out here, they are some play of `sendPages`.
-/

namespace SplitBoard.Firmware

open Dialogue

/-! ## Pieces of talk -/

/-- A note is taken without an answer. -/
abbrev told (note : Note) : Exchange Bus.vocabulary :=
  ⟨.tell note, ()⟩

/-- A pause of so many milliseconds. -/
abbrev paused (milliseconds : UInt32) : Exchange Bus.vocabulary :=
  ⟨.wait (milliseconds.toNat * 1000000), ()⟩

/-- How one question for the report went. -/
inductive Asking where
  /-- It did not complete. -/
  | refused (status : Transmission) (incomplete : status ≠ .complete)
  /-- It completed, and so much of the answer came. -/
  | answered (delivery : Delivery 3)

/-- The report that came of a question. -/
def Asking.report? : Asking → Option (UInt8 × UInt16)
  | refused .. => none
  | answered delivery => reportOfBytes? delivery.bytes

section Talk
variable (image : Image) (half : Half)

/-- The question for the version and check value of an image's place. -/
def question : List UInt8 :=
  (reportRequest? half.profile.flasher.commands image).getD []

/-- What is said when a question is asked. -/
def Asking.talk : Asking → Bus.Talk
  | refused status _ => [⟨.hold half.bootloaderAddress (question image half), status⟩]
  | answered delivery =>
    [⟨.hold half.bootloaderAddress (question image half), Transmission.complete⟩,
      paused half.profile.flasher.crcSettle, ⟨.read half.bootloaderAddress 3, delivery⟩]

/-- What is said when questions fail one after the other: a pause follows each. -/
def failedTalk (failed : List Asking) : Bus.Talk :=
  failed.flatMap fun asking => asking.talk image half ++ [paused half.profile.flasher.reverifyDelay]

/-- The first question, behind a read of whatever the bootloader still held. -/
def opening (old : Delivery 3) (asking : Asking) : Bus.Talk :=
  told (.phase .verifying) :: ⟨.read half.bootloaderAddress 3, old⟩ :: asking.talk image half

/-- The erase, with its end. -/
def erasing (status : Transmission) : Bus.Talk :=
  [told (.phase .erasing),
    ⟨.write half.bootloaderAddress [half.profile.flasher.commands.eraseProgram], status⟩,
    paused half.profile.flasher.eraseDelay]

/-- The last notes of an update, which ends in a phase with a result. -/
def conclusion (phase : Phase) : Except Failure Report → Bus.Talk
  | .ok _ => [told (.phase .done)]
  | .error failure =>
    [told (.updateFailed half.bootloaderAddress phase failure), told (.phase .failed)]

/-! ## How an update goes -/

/-- The pages are sent with this talk and this result. -/
def SendsPages (pages : Bus.Talk) (result : Except Failure Unit) : Prop :=
  Plays (ExceptT.run (sendPages half.bootloaderAddress half.profile.flasher image
    (image.pageCount half.profile.flasher.pageSize)
    (List.range (image.pageCount half.profile.flasher.pageSize)))) pages result

/-- The talk up to the pages: a usable report, and an erase that completed. -/
inductive Begins : Bus.Talk → UInt8 → UInt16 → Prop where
  | erased {old : Delivery 3} {asking : Asking} {version : UInt8} {crc : UInt16}
      (usable : usable? asking.report? = some (version, crc)) :
      Begins (opening image half old asking ++
        told (.reported half.bootloaderAddress version crc) :: erasing half .complete) version crc

/-- The talk up to the check at the end: every page was written. -/
inductive Writes : Bus.Talk → UInt8 → UInt16 → Prop where
  | all {begun pages : Bus.Talk} {version : UInt8} {crc : UInt16}
      (begins : Begins image half begun version crc) (sent : SendsPages image half pages (.ok ())) :
      Writes (begun ++ told (.phase .writing) :: pages) version crc

/-- The questions for the check value, of which all but the last one failed. -/
def checking (failed : List Asking) (asking : Asking) : Bus.Talk :=
  told (.phase .reverifying) :: failedTalk image half failed ++ asking.talk image half

/-- All ways in which an image that can be written is written, up to the last notes. -/
inductive Course : Bus.Talk → Except Failure Report → Session → Prop where
  /-- There is no usable report. -/
  | unreported {old : Delivery 3} {asking : Asking} (unusable : usable? asking.report? = none) :
      Course (opening image half old asking) (.error .noReport) ⟨half, .verifying⟩
  /-- The erase did not complete. -/
  | unerased {old : Delivery 3} {asking : Asking} {version : UInt8} {crc : UInt16}
      {status : Transmission} (usable : usable? asking.report? = some (version, crc))
      (incomplete : status ≠ .complete) :
      Course (opening image half old asking ++
          told (.reported half.bootloaderAddress version crc) :: erasing half status)
        (.error .eraseRefused) ⟨half, .erasing⟩
  /-- Not every page was written. -/
  | unwritten {begun pages : Bus.Talk} {version : UInt8} {crc : UInt16} {failure : Failure}
      (begins : Begins image half begun version crc)
      (sent : SendsPages image half pages (.error failure)) :
      Course (begun ++ told (.phase .writing) :: pages) (.error failure) ⟨half, .writing⟩
  /-- No question for the check value got its answer. -/
  | silent {written : Bus.Talk} {version : UInt8} {crc : UInt16} {failed : List Asking}
      (writes : Writes image half written version crc)
      (all : failed.length = half.profile.flasher.reverifyAttempts.toNat)
      (unanswered : ∀ asking ∈ failed, asking.report? = none) :
      Course (written ++ told (.phase .reverifying) :: failedTalk image half failed)
        (.error .silentAfterwards) ⟨half, .reverifying⟩
  /-- The check value is another one. -/
  | mismatched {written : Bus.Talk} {version other : UInt8} {crc actual : UInt16}
      {failed : List Asking} {asking : Asking} (writes : Writes image half written version crc)
      (few : failed.length < half.profile.flasher.reverifyAttempts.toNat)
      (unanswered : ∀ asking ∈ failed, asking.report? = none)
      (answer : asking.report? = some (other, actual)) (differs : actual ≠ image.expectedCrc) :
      Course (written ++ checking image half failed asking)
        (.error (.mismatch image.expectedCrc actual)) ⟨half.recordCrcError, .reverifying⟩
  /-- The check value is right, but the program was not started. -/
  | unstarted {written : Bus.Talk} {version other : UInt8} {crc : UInt16} {failed : List Asking}
      {asking : Asking} {status : Transmission} (writes : Writes image half written version crc)
      (few : failed.length < half.profile.flasher.reverifyAttempts.toNat)
      (unanswered : ∀ asking ∈ failed, asking.report? = none)
      (answer : asking.report? = some (other, image.expectedCrc))
      (incomplete : status ≠ .complete) :
      Course (written ++ checking image half failed asking ++ [⟨executeRequest half, status⟩])
        (.error .executeRefused) ⟨half, .reverifying⟩
  /-- The program was started. -/
  | started {written : Bus.Talk} {version other : UInt8} {crc : UInt16} {failed : List Asking}
      {asking : Asking} (writes : Writes image half written version crc)
      (few : failed.length < half.profile.flasher.reverifyAttempts.toNat)
      (unanswered : ∀ asking ∈ failed, asking.report? = none)
      (answer : asking.report? = some (other, image.expectedCrc)) :
      Course (written ++ checking image half failed asking ++
          [⟨executeRequest half, Transmission.complete⟩])
        (.ok {
          previousVersion := version
          previousCrc := crc
          crc := image.expectedCrc
          pages := image.pageCount half.profile.flasher.pageSize
          bytes := image.size }) ⟨half, .reverifying⟩

end Talk

/-! ## Steps -/

/-- A sequence of steps plays the first step and then, if that succeeded, the second. -/
theorem plays_from_bind_iff {α β : Type} {op : UpdateOp α} {next : α → UpdateOp β}
    {session after : Session} {said : Bus.Talk} {result : Except Failure β} :
    Plays (UpdateOp.from session (op >>= next)) said (result, after) ↔
      (∃ first second a mid, said = first ++ second ∧
        Plays (UpdateOp.from session op) first (.ok a, mid) ∧
        Plays (UpdateOp.from mid (next a)) second (result, after)) ∨
      ∃ failure, result = .error failure ∧
        Plays (UpdateOp.from session op) said (.error failure, after) := by
  rw [from_bind, plays_bind_iff]
  constructor
  · rintro ⟨first, second, ⟨failure | a, mid⟩, rfl, here, later⟩
    · obtain ⟨rfl, ⟨⟩⟩ := plays_done_iff.mp later
      rw [List.append_nil]
      exact .inr ⟨failure, rfl, here⟩
    · exact .inl ⟨first, second, a, mid, rfl, here, later⟩
  · rintro (⟨first, second, a, mid, rfl, here, later⟩ | ⟨failure, rfl, here⟩)
    · exact ⟨first, second, (.ok a, mid), rfl, here, later⟩
    · exact ⟨said, [], (.error failure, after), (List.append_nil said).symm, here, .done _⟩

section Steps
variable {image : Image} {half : Half} {phase : Phase} {said : Bus.Talk} {after : Session}

/-- The status is that of a write that completed, or it is not. -/
theorem isComplete_iff {status : Transmission} : status.isComplete = true ↔ status = .complete := by
  simp [Transmission.isComplete]

theorem reportRequest?_eq (valid : image.validate half.profile.flasher = .ok ()) :
    reportRequest? half.profile.flasher.commands image = some (question image half) := by
  obtain ⟨request, here⟩ := exists_reportRequest valid
  rw [question, here]
  rfl

theorem plays_askReport {report : Option (UInt8 × UInt16)}
    (valid : image.validate half.profile.flasher = .ok ())
    (h : Plays (askReport half.bootloaderAddress half.profile.flasher image) said report) :
    ∃ asking : Asking, said = asking.talk image half ∧ report = asking.report? := by
  rw [askReport_eq _ _ _ (reportRequest?_eq valid)] at h
  obtain ⟨(status : Transmission), rest, rfl, later⟩ := plays_ask_iff.mp h
  by_cases complete : status = .complete
  · subst complete
    obtain ⟨_, rest, rfl, waited⟩ := plays_ask_iff.mp later
    obtain ⟨(delivery : Delivery 3), rest, rfl, read⟩ := plays_ask_iff.mp waited
    obtain ⟨rfl, rfl⟩ := plays_done_iff.mp read
    exact ⟨.answered delivery, rfl, rfl⟩
  · rw [if_neg (mt isComplete_iff.mp complete)] at later
    obtain ⟨rfl, rfl⟩ := plays_done_iff.mp later
    exact ⟨.refused status complete, rfl, rfl⟩

/-- The check value is asked for until it comes, or until the attempts are used up. -/
theorem plays_askCrcRepeatedly {attempts : Nat} {answer : Option UInt16}
    (valid : image.validate half.profile.flasher = .ok ())
    (h : Plays (askCrcRepeatedly half.bootloaderAddress half.profile.flasher image attempts) said
      answer) :
    ∃ failed : List Asking, (∀ asking ∈ failed, asking.report? = none) ∧
      (failed.length = attempts ∧ said = failedTalk image half failed ∧ answer = none ∨
        failed.length < attempts ∧ ∃ (asking : Asking) (version : UInt8) (crc : UInt16),
          asking.report? = some (version, crc) ∧
          said = failedTalk image half failed ++ asking.talk image half ∧ answer = some crc) := by
  induction attempts generalizing said with
  | zero =>
    obtain ⟨rfl, rfl⟩ := plays_done_iff.mp (show Plays (done none) said answer from h)
    exact ⟨[], nofun, .inl ⟨rfl, rfl, rfl⟩⟩
  | succ attempts ih =>
    rw [askCrcRepeatedly_succ] at h
    obtain ⟨first, rest, report, rfl, asked, later⟩ := plays_bind_iff.mp h
    obtain ⟨asking, rfl, rfl⟩ := plays_askReport valid asked
    rcases report : asking.report? with _ | ⟨version, crc⟩
    · -- one attempt is used up, and the others follow a pause
      rw [report] at later
      obtain ⟨_, rest, rfl, again⟩ := plays_ask_iff.mp later
      obtain ⟨failed, unanswered, outcome⟩ := ih again
      refine ⟨asking :: failed, List.forall_mem_cons.mpr ⟨report, unanswered⟩, ?_⟩
      have talk : failedTalk image half (asking :: failed) = asking.talk image half ++
          paused half.profile.flasher.reverifyDelay :: failedTalk image half failed := by
        rw [failedTalk, List.flatMap_cons, List.append_assoc]
        rfl
      rw [talk, List.length_cons]
      rcases outcome with ⟨all, rfl, rfl⟩ | ⟨few, asking', version, crc, answer, rfl, rfl⟩
      · exact .inl ⟨by rw [all], rfl, rfl⟩
      · refine .inr ⟨by omega, asking', version, crc, answer, ?_, rfl⟩
        rw [List.append_assoc, List.cons_append]
    · rw [report] at later
      obtain ⟨rfl, rfl⟩ := plays_done_iff.mp later
      refine ⟨[], nofun, .inr ⟨by simp, asking, version, crc, report, ?_, rfl⟩⟩
      rw [List.append_nil]
      rfl

theorem plays_reportBefore {result : Except Failure (UInt8 × UInt16)}
    (valid : image.validate half.profile.flasher = .ok ())
    (h : Plays (UpdateOp.from ⟨half, phase⟩ (reportBefore image)) said (result, after)) :
    after = ⟨half, .verifying⟩ ∧ ∃ (old : Delivery 3) (asking : Asking),
      (usable? asking.report? = none ∧ said = opening image half old asking ∧
        result = .error .noReport ∨
      ∃ version crc, usable? asking.report? = some (version, crc) ∧
        said = opening image half old asking ++
          [told (.reported half.bootloaderAddress version crc)] ∧
        result = .ok (version, crc)) := by
  rw [from_reportBefore] at h
  obtain ⟨_, rest, rfl, entered⟩ := plays_ask_iff.mp h
  obtain ⟨(old : Delivery 3), rest, rfl, read⟩ := plays_ask_iff.mp entered
  obtain ⟨first, rest, report, rfl, asked, later⟩ := plays_bind_iff.mp read
  obtain ⟨asking, rfl, rfl⟩ := plays_askReport valid asked
  rcases usable : usable? asking.report? with _ | ⟨version, crc⟩
  · rw [usable] at later
    obtain ⟨rfl, ⟨⟩⟩ := plays_done_iff.mp later
    exact ⟨rfl, old, asking, .inl ⟨usable, by rw [List.append_nil, opening], rfl⟩⟩
  · rw [usable] at later
    obtain ⟨_, rest, rfl, reported⟩ := plays_ask_iff.mp later
    obtain ⟨rfl, ⟨⟩⟩ := plays_done_iff.mp reported
    exact ⟨rfl, old, asking, .inr ⟨version, crc, usable, rfl, rfl⟩⟩

theorem plays_erase {result : Except Failure Unit}
    (h : Plays (UpdateOp.from ⟨half, phase⟩ erase) said (result, after)) :
    after = ⟨half, .erasing⟩ ∧
      (said = erasing half .complete ∧ result = .ok () ∨
      ∃ status, status ≠ .complete ∧ said = erasing half status ∧ result = .error .eraseRefused) := by
  rw [from_erase] at h
  obtain ⟨_, rest, rfl, entered⟩ := plays_ask_iff.mp h
  obtain ⟨(status : Transmission), rest, rfl, written⟩ := plays_ask_iff.mp entered
  obtain ⟨_, rest, rfl, waited⟩ := plays_ask_iff.mp written
  obtain ⟨rfl, outcome⟩ := plays_done_iff.mp waited
  by_cases complete : status = .complete
  · subst complete
    cases outcome
    exact ⟨rfl, .inl ⟨rfl, rfl⟩⟩
  · rw [if_neg (mt isComplete_iff.mp complete)] at outcome
    cases outcome
    exact ⟨rfl, .inr ⟨status, complete, rfl, rfl⟩⟩

theorem plays_writePages {result : Except Failure Unit}
    (h : Plays (UpdateOp.from ⟨half, phase⟩ (writePages image)) said (result, after)) :
    after = ⟨half, .writing⟩ ∧
      ∃ pages, said = told (.phase .writing) :: pages ∧ SendsPages image half pages result := by
  rw [from_writePages] at h
  obtain ⟨_, rest, rfl, entered⟩ := plays_ask_iff.mp h
  obtain ⟨pages, rest, outcome, rfl, sent, later⟩ := plays_bind_iff.mp entered
  obtain ⟨rfl, ⟨⟩⟩ := plays_done_iff.mp later
  exact ⟨rfl, pages, by rw [List.append_nil], sent⟩

theorem plays_verifyWritten {result : Except Failure UInt16}
    (valid : image.validate half.profile.flasher = .ok ())
    (h : Plays (UpdateOp.from ⟨half, phase⟩ (verifyWritten image)) said (result, after)) :
    ∃ failed : List Asking, (∀ asking ∈ failed, asking.report? = none) ∧
      (failed.length = half.profile.flasher.reverifyAttempts.toNat ∧
        said = told (.phase .reverifying) :: failedTalk image half failed ∧
        result = .error .silentAfterwards ∧ after = ⟨half, .reverifying⟩ ∨
      failed.length < half.profile.flasher.reverifyAttempts.toNat ∧
        ∃ (asking : Asking) (version : UInt8) (actual : UInt16),
        asking.report? = some (version, actual) ∧
        said = checking image half failed asking ∧
        (actual = image.expectedCrc ∧ result = .ok actual ∧ after = ⟨half, .reverifying⟩ ∨
          actual ≠ image.expectedCrc ∧ result = .error (.mismatch image.expectedCrc actual) ∧
            after = ⟨half.recordCrcError, .reverifying⟩)) := by
  rw [from_verifyWritten] at h
  obtain ⟨_, rest, rfl, entered⟩ := plays_ask_iff.mp h
  obtain ⟨asked, rest, answer, rfl, asks, later⟩ := plays_bind_iff.mp entered
  obtain ⟨failed, unanswered, outcome⟩ := plays_askCrcRepeatedly valid asks
  refine ⟨failed, unanswered, ?_⟩
  rcases outcome with ⟨all, rfl, rfl⟩ | ⟨few, asking, version, actual, report, rfl, rfl⟩
  · obtain ⟨rfl, ⟨⟩⟩ := plays_done_iff.mp later
    exact .inl ⟨all, by rw [List.append_nil], rfl, rfl⟩
  · obtain ⟨rfl, outcome⟩ := plays_done_iff.mp later
    refine .inr ⟨few, asking, version, actual, report, by rw [List.append_nil]; rfl, ?_⟩
    dsimp only at outcome
    by_cases expected : actual = image.expectedCrc
    · rw [if_pos expected] at outcome
      cases outcome
      exact .inl ⟨expected, rfl, rfl⟩
    · rw [if_neg expected] at outcome
      cases outcome
      exact .inr ⟨expected, rfl, rfl⟩

theorem plays_startProgram {result : Except Failure Unit}
    (h : Plays (UpdateOp.from ⟨half, phase⟩ startProgram) said (result, after)) :
    after = ⟨half, phase⟩ ∧
      (said = [⟨executeRequest half, Transmission.complete⟩] ∧ result = .ok () ∨
      ∃ status : Transmission, status ≠ .complete ∧ said = [⟨executeRequest half, status⟩] ∧
        result = .error .executeRefused) := by
  rw [from_startProgram] at h
  obtain ⟨(status : Transmission), rest, rfl, written⟩ := plays_ask_iff.mp h
  obtain ⟨rfl, outcome⟩ := plays_done_iff.mp written
  by_cases complete : status = .complete
  · subst complete
    cases outcome
    exact ⟨rfl, .inl ⟨rfl, rfl⟩⟩
  · rw [if_neg (mt isComplete_iff.mp complete)] at outcome
    cases outcome
    exact ⟨rfl, .inr ⟨status, complete, rfl, rfl⟩⟩

theorem plays_conclude {session : Session} {result result' : Except Failure Report}
    (h : Plays ((conclude result).run session) said (result', after)) :
    said = conclusion session.half session.phase result ∧ result' = result ∧
      after.half = session.half.markUnavailable := by
  rw [run_conclude] at h
  rcases result with failure | report
  · obtain ⟨_, rest, rfl, told⟩ := plays_ask_iff.mp h
    obtain ⟨_, rest, rfl, entered⟩ := plays_ask_iff.mp told
    obtain ⟨rfl, ⟨⟩⟩ := plays_done_iff.mp entered
    exact ⟨rfl, rfl, rfl⟩
  · obtain ⟨_, rest, rfl, entered⟩ := plays_ask_iff.mp h
    obtain ⟨rfl, ⟨⟩⟩ := plays_done_iff.mp entered
    exact ⟨rfl, rfl, rfl⟩

/-! ## The update -/

/-- What comes after the pages: the check, and the start if it goes well. -/
def finish (image : Image) (version : UInt8) (previousCrc : UInt16) (pages : Nat) :
    UpdateOp Report := do
  let crc ← verifyWritten image
  startProgram
  return { previousVersion := version, previousCrc, crc, pages, bytes := image.size }

theorem course_of_finish {written : Bus.Talk} {version : UInt8} {crc : UInt16}
    {result : Except Failure Report} (valid : image.validate half.profile.flasher = .ok ())
    (writes : Writes image half written version crc)
    (h : Plays (UpdateOp.from ⟨half, phase⟩
      (finish image version crc (image.pageCount half.profile.flasher.pageSize))) said
      (result, after)) :
    Course image half (written ++ said) result after := by
  rcases plays_from_bind_iff.mp h with
    ⟨checked, rest, actual, mid, rfl, verified, later⟩ | ⟨failure, rfl, verified⟩
  case inr =>
    obtain ⟨failed, unanswered, ⟨all, rfl, ⟨⟩, rfl⟩ | ⟨few, asking, other, actual, answer, rfl,
      ⟨_, ⟨⟩, _⟩ | ⟨differs, ⟨⟩, rfl⟩⟩⟩ := plays_verifyWritten valid verified
    · exact .silent writes all unanswered
    · exact .mismatched writes few unanswered answer differs
  obtain ⟨failed, unanswered, ⟨_, _, ⟨⟩, _⟩ | ⟨few, asking, other, actual, answer, rfl,
    ⟨rfl, ⟨⟩, rfl⟩ | ⟨_, ⟨⟩, _⟩⟩⟩ := plays_verifyWritten valid verified
  rcases plays_from_bind_iff.mp later with
    ⟨started, rest, _, mid, rfl, start, last⟩ | ⟨failure, rfl, start⟩
  case inr =>
    obtain ⟨rfl, ⟨_, ⟨⟩⟩ | ⟨status, incomplete, rfl, ⟨⟩⟩⟩ := plays_startProgram start
    rw [← List.append_assoc]
    exact .unstarted writes few unanswered answer incomplete
  obtain ⟨rfl, ⟨rfl, -⟩ | ⟨_, _, _, ⟨⟩⟩⟩ := plays_startProgram start
  obtain ⟨rfl, ⟨⟩⟩ := plays_done_iff.mp last
  rw [List.append_nil, ← List.append_assoc]
  exact .started writes few unanswered answer

/-- Each step is taken from where the one before it succeeded. -/
theorem course_of_writeImage {result : Except Failure Report}
    (valid : image.validate half.profile.flasher = .ok ())
    (h : Plays (UpdateOp.from ⟨half, phase⟩ (writeImage image)) said (result, after)) :
    Course image half said result after := by
  rcases plays_from_bind_iff.mp h with ⟨_, rest, _, _, rfl, got, afterGet⟩ | ⟨_, _, got⟩
  case inr =>
    obtain ⟨-, ⟨⟩⟩ := plays_done_iff.mp got
  obtain ⟨rfl, ⟨⟩⟩ := plays_done_iff.mp got
  rw [List.nil_append]
  rcases plays_from_bind_iff.mp afterGet with
    ⟨opened, said₁, ⟨version, crc⟩, _, rfl, asked, afterReport⟩ | ⟨failure, rfl, asked⟩
  case inr =>
    obtain ⟨rfl, old, asking, ⟨unusable, rfl, ⟨⟩⟩ | ⟨_, _, _, _, ⟨⟩⟩⟩ :=
      plays_reportBefore valid asked
    exact .unreported unusable
  obtain ⟨rfl, old, asking, ⟨_, _, ⟨⟩⟩ | ⟨_, _, usable, rfl, ⟨⟩⟩⟩ := plays_reportBefore valid asked
  rw [List.append_assoc]
  rcases plays_from_bind_iff.mp afterReport with
    ⟨erased, said₂, _, _, rfl, erases, afterErase⟩ | ⟨failure, rfl, erases⟩
  case inr =>
    obtain ⟨rfl, ⟨_, ⟨⟩⟩ | ⟨status, incomplete, rfl, ⟨⟩⟩⟩ := plays_erase erases
    exact .unerased usable incomplete
  obtain ⟨rfl, ⟨rfl, -⟩ | ⟨_, _, _, ⟨⟩⟩⟩ := plays_erase erases
  have begins : Begins image half (opening image half old asking ++
      told (.reported half.bootloaderAddress version crc) :: erasing half .complete) version crc :=
    .erased usable
  rw [← List.append_assoc [_], ← List.append_assoc (opening ..)]
  rcases plays_from_bind_iff.mp afterErase with
    ⟨wrote, said₃, _, _, rfl, sends, afterPages⟩ | ⟨failure, rfl, sends⟩
  case inr =>
    obtain ⟨rfl, pages, rfl, sent⟩ := plays_writePages sends
    exact .unwritten begins sent
  obtain ⟨rfl, pages, rfl, sent⟩ := plays_writePages sends
  rw [← List.append_assoc]
  exact course_of_finish valid (.all begins sent) afterPages

/-- **The update of an image that can be written goes one of the ways of `Course`, and then says how
it ended.** -/
theorem course_of_update {result : Except Failure Report}
    (valid : image.validate half.profile.flasher = .ok ())
    (h : Plays ((update image).run ⟨half, phase⟩) said (result, after)) :
    ∃ course mid, Course image half course result mid ∧
      said = course ++ conclusion half mid.phase result ∧
      after.half = mid.half.markUnavailable := by
  rw [run_update, valid] at h
  obtain ⟨course, ending, ⟨outcome, mid⟩, rfl, here, later⟩ := plays_bind_iff.mp h
  obtain ⟨rfl, rfl, same⟩ := plays_conclude later
  have went := course_of_writeImage valid here
  refine ⟨course, mid, went, ?_, same⟩
  -- the address is that of the half from the beginning
  cases went <;> rfl

end Steps

end SplitBoard.Firmware

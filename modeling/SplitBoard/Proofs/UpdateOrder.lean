import SplitBoard.Bus.Script
import SplitBoard.Proofs.Conduct
import SplitBoard.Proofs.Pages
import SplitBoard.Proofs.Phases
import SplitBoard.Proofs.UpdateSteps
import Mathlib.Data.List.Forall2

/-!
# The order of an update

What an update may send depends on what was said before it, and nothing on the
bus is trusted: any write may end in any status, any read may deliver anything.
`InTurn` says when each transaction may be sent; every transaction of every
update is in turn (`update_inTurn`), whatever the bus does.

**A device is erased only after a report that it can be updated, written only
after the erase, checked only after every write was accepted, and started only
on the right check value, once, as the last thing.**
-/

namespace SplitBoard.Firmware

open Dialogue

/-! ## What is to be written -/

/-- A write of the writing phase. -/
inductive PageWrite where
  | address (offset : UInt16)
  | frame (data : List UInt8)

namespace PageWrite

/-- A write as bytes. -/
def bytes (commands : BootloaderCommands) : PageWrite → List UInt8
  | address offset => commands.pageAddress :: wordBytes offset
  | frame data => frameBytes commands data

/-- Whether a write ended in the way that lets the update go on. -/
def Accepted (format : FlashFormat) (status : Transmission) : PageWrite → Prop
  | address _ => status = .complete
  | frame _ => status.code = format.frameAck

end PageWrite

/-- A frame of a page. -/
def frameWrite (format : FlashFormat) (image : Image) (page frame : Nat) : PageWrite :=
  .frame (image.frameData format (page * format.pageSize.toNat + frame * format.frameSize.toNat))

/-- The writes of a page: its address, then its frames. -/
def pageWrites (format : FlashFormat) (image : Image) (page : Nat) : List PageWrite :=
  .address ((image.pageOffset? page format.pageSize).getD 0) ::
    (List.range format.framesPerPage).map (frameWrite format image page)

/-- The writes of an image. -/
def imageWrites (format : FlashFormat) (image : Image) : List PageWrite :=
  (List.range (image.pageCount format.pageSize)).flatMap (pageWrites format image)

section Order
variable (image : Image) (half : Half)

/-! ## What must have been said -/

/-- The last two transactions asked for a report and got one of three bytes. -/
def Answered (transactions : Bus.Talk) (version : UInt8) (crc : UInt16) : Prop :=
  ∃ (request : List UInt8) (delivery : Delivery 3) (low high : UInt8) (earlier : Bus.Talk),
    reportRequest? half.profile.flasher.commands image = some request ∧
    transactions = ⟨.read half.bootloaderAddress 3, delivery⟩ ::
      ⟨.hold half.bootloaderAddress request, Transmission.complete⟩ :: earlier ∧
    delivery.bytes = [version, low, high] ∧ crc = wordOfBytes low high

/-- The device said that it has a program and a check value. -/
def UsableBefore (past : Bus.Talk) : Prop :=
  ∃ version crc, Answered image half (during .verifying past) version crc ∧
    version ≠ 0xFF ∧ crc ≠ 0xFFFF

/-- The erase completed. -/
def ErasedBefore (past : Bus.Talk) : Prop :=
  ⟨.write half.bootloaderAddress [half.profile.flasher.commands.eraseProgram],
    Transmission.complete⟩ ∈ during .erasing past

/-- The exchange was this write, and it was accepted. -/
def Accepts (e : Exchange Bus.vocabulary) (write : PageWrite) : Prop :=
  ∃ status : Transmission,
    e = ⟨.write half.bootloaderAddress (write.bytes half.profile.flasher.commands), status⟩ ∧
    write.Accepted half.profile.flasher status

/-- The writing phase sent exactly these writes, in order, and each was accepted. -/
def WrittenBefore (past : Bus.Talk) (writes : List PageWrite) : Prop :=
  List.Forall₂ (Accepts half) (during .writing past) writes.reverse

/-- The last check value read back is that of the image. -/
def VerifiedBefore (past : Bus.Talk) : Prop :=
  ∃ version, Answered image half (during .reverifying past) version image.expectedCrc

/-- The command that starts the new program. -/
def executeRequest : Bus.Request :=
  .write half.bootloaderAddress [half.profile.flasher.commands.execute, 0]

/-- After the writing phase nothing was written: the only write there is the one that starts the
program. -/
def NotStarted (past : Bus.Talk) : Prop :=
  ∀ e ∈ during .reverifying past, ∀ address bytes, e.request ≠ .write address bytes

/-- The program was started. -/
def StartedBefore (past : Bus.Talk) : Prop :=
  ⟨executeRequest half, Transmission.complete⟩ ∈ during .reverifying past

/-! ## What may be sent -/

/-- A question for the version and check value, or the read of its answer. -/
inductive Asks : Bus.Request → Prop where
  | question {request : List UInt8}
      (h : reportRequest? half.profile.flasher.commands image = some request) :
      Asks (.hold half.bootloaderAddress request)
  | answer : Asks (.read half.bootloaderAddress 3)

/-- A transaction may be sent after what was said. -/
inductive InTurn (past : Bus.Talk) : Bus.Request → Prop where
  | ask {request : Bus.Request} (phase : phaseOf past = .verifying)
      (asks : Asks image half request) : InTurn past request
  | erase (phase : phaseOf past = .erasing) (usable : UsableBefore image half past)
      (first : during .erasing past = []) :
      InTurn past (.write half.bootloaderAddress [half.profile.flasher.commands.eraseProgram])
  | page {done rest : List PageWrite} {write : PageWrite} (phase : phaseOf past = .writing)
      (erased : ErasedBefore half past) (written : WrittenBefore half past done)
      (next : imageWrites half.profile.flasher image = done ++ write :: rest) :
      InTurn past (.write half.bootloaderAddress (write.bytes half.profile.flasher.commands))
  | askAgain {request : Bus.Request} (phase : phaseOf past = .reverifying)
      (written : WrittenBefore half past (imageWrites half.profile.flasher image))
      (asks : Asks image half request) : InTurn past request
  | execute (phase : phaseOf past = .reverifying)
      (written : WrittenBefore half past (imageWrites half.profile.flasher image))
      (verified : VerifiedBefore image half past) : InTurn past (executeRequest half)

/-- The rule that an update follows: a transaction is in turn, and none comes after the start. -/
def Rule (past : Bus.Talk) (request : Bus.Request) : Prop :=
  request.address?.isSome → NotStarted past ∧ InTurn image half past request

/-! ## How it ends -/

end Order

/-- The phases that an update with this failure went through. -/
def Failure.reached : Failure → List Phase
  | .invalidImage => []
  | .noReport => [.verifying]
  | .eraseRefused => [.verifying, .erasing]
  | .pageRefused _ => [.verifying, .erasing, .writing]
  | .mismatch _ _ | .silentAfterwards | .executeRefused =>
    [.verifying, .erasing, .writing, .reverifying]

/-- The phases that an update with this result tells. -/
def phasesOf : Except Failure Report → List Phase
  | .ok _ => [.verifying, .erasing, .writing, .reverifying, .done]
  | .error failure => failure.reached ++ [.failed]

/-- What is known of a half after an update: a wrong check value was counted, and the half is to be
probed. -/
def halfAfter (half : Half) : Except Failure Report → Half
  | .error (.mismatch _ _) => half.recordCrcError.markUnavailable
  | _ => half.markUnavailable

section Order
variable (image : Image) (half : Half)

/-- How an update ends: it succeeds exactly if the program was started, and it finds fault with the
image exactly if validation does, before it sends anything. -/
structure Ends (past : Bus.Talk) (result : Except Failure Report) (session : Session) : Prop where
  phases : (phasesTold past).reverse = phasesOf result
  ok_iff : (∃ report, result = .ok report) ↔ StartedBefore half past
  invalid_iff : result = .error .invalidImage ↔
    image.validate half.profile.flasher = .error .invalidImage
  untouched : result = .error .invalidImage → ∀ e ∈ past, e.request.address? = none
  phase : session.phase = match result with
    | .ok _ => .done
    | .error _ => .failed
  half : session.half = halfAfter half result

/-! ## Stages -/

/-- How an update stands when a step has failed. -/
structure Failing (past : Bus.Talk) (failure : Failure) (session : Session) : Prop where
  phases : phasesTold past = failure.reached.reverse
  notStarted : ¬StartedBefore half past
  valid : failure ≠ .invalidImage
  half : session.half.markUnavailable = halfAfter half (.error failure)

/-- What a step leaves: its good outcome with the half untouched, or a failure. -/
def Leaves {α : Type} (good : Bus.Talk → α → Prop) (past : Bus.Talk) :
    Except Failure α × Session → Prop
  | (.ok a, session) => session.half = half ∧ good past a
  | (.error failure, session) => Failing half past failure session

/-- A usable report is there. -/
structure Usable (past : Bus.Talk) : Prop where
  phases : phasesTold past = [.verifying]
  usable : UsableBefore image half past
  notErased : during .erasing past = []
  notWritten : during .writing past = []
  notVerified : during .reverifying past = []

/-- The device is erased. -/
structure Erased (past : Bus.Talk) : Prop where
  phases : phasesTold past = [.erasing, .verifying]
  erased : ErasedBefore half past
  notWritten : during .writing past = []
  notVerified : during .reverifying past = []

/-- Some of the writes were accepted. -/
structure Writing (past : Bus.Talk) (writes : List PageWrite) : Prop where
  phases : phasesTold past = [.writing, .erasing, .verifying]
  erased : ErasedBefore half past
  written : WrittenBefore half past writes
  notVerified : during .reverifying past = []

/-- All writes were accepted, and the check value is being asked for. -/
structure Reverifying (past : Bus.Talk) : Prop where
  phases : phasesTold past = [.reverifying, .writing, .erasing, .verifying]
  written : WrittenBefore half past (imageWrites half.profile.flasher image)
  notStarted : NotStarted past

end Order

/-! ## Steps -/

section Steps
variable {image : Image} {half : Half} {past : Bus.Talk}

theorem NotStarted.not_startedBefore (h : NotStarted past) : ¬StartedBefore half past :=
  fun started => h _ started _ _ rfl

/-- Nothing was written after the writing phase if nothing at all was sent. -/
theorem notStarted_of_nil (h : during .reverifying past = []) : NotStarted past := by
  intro e member
  rw [h] at member
  cases member

/-- The rule has nothing to say about what is no transaction. -/
theorem rule_of_none {request : Bus.Request} (h : request.address? = none) :
    Rule image half past request := by
  intro transaction
  rw [h] at transaction
  cases transaction

/-- A sequence of steps, the second from where the first leaves off. -/
theorem follows_from_bind {α β : Type} {op : UpdateOp α} {next : α → UpdateOp β}
    {session : Session} {rule : Bus.Talk → Bus.Request → Prop}
    {goal : Bus.Talk → Except Failure β × Session → Prop} :
    (UpdateOp.from session (op >>= next)).Follows rule past goal ↔
      (UpdateOp.from session op).Follows rule past fun past outcome =>
        match outcome with
        | (.ok a, session) => (UpdateOp.from session (next a)).Follows rule past goal
        | (.error failure, session) => goal past (.error failure, session) := by
  rw [from_bind, follows_bind]
  constructor
  · intro h
    refine h.mono ?_
    rintro past ⟨_ | a, session⟩ h
    · exact h
    · exact h
  · intro h
    refine h.mono ?_
    rintro past ⟨_ | a, session⟩ h
    · exact h
    · exact h

theorem exists_reportRequest (valid : image.validate half.profile.flasher = .ok ()) :
    ∃ request, reportRequest? half.profile.flasher.commands image = some request := by
  obtain ⟨offset, first⟩ := Image.exists_crcOffset valid
  rw [reportRequest?, first]
  exact ⟨_, rfl⟩

/-- Asking for a report: the answer is read only if the question completed. -/
theorem follows_askReport {goal : Bus.Talk → Option (UInt8 × UInt16) → Prop} {request : List UInt8}
    (question : reportRequest? half.profile.flasher.commands image = some request)
    (ask : Rule image half past (.hold half.bootloaderAddress request))
    (read : ∀ reply : Unit, Rule image half
      (⟨.wait (half.profile.flasher.crcSettle.toNat * 1000000), reply⟩ ::
        ⟨.hold half.bootloaderAddress request, Transmission.complete⟩ :: past)
      (.read half.bootloaderAddress 3))
    (refused : ∀ status : Transmission, status ≠ .complete →
      goal (⟨.hold half.bootloaderAddress request, status⟩ :: past) none)
    (answered : ∀ (delivery : Delivery 3) (reply : Unit),
      goal (⟨.read half.bootloaderAddress 3, delivery⟩ ::
        ⟨.wait (half.profile.flasher.crcSettle.toNat * 1000000), reply⟩ ::
        ⟨.hold half.bootloaderAddress request, Transmission.complete⟩ :: past)
        (reportOfBytes? delivery.bytes)) :
    (askReport half.bootloaderAddress half.profile.flasher image).Follows (Rule image half) past
      goal := by
  rw [askReport_eq _ _ _ question]
  refine ⟨ask, fun (status : Transmission) => ?_⟩
  by_cases complete : status = .complete
  · subst complete
    exact ⟨rule_of_none rfl, fun _ => ⟨read (), fun (delivery : Delivery 3) => answered delivery ()⟩⟩
  · have incomplete : ¬status.isComplete = true := by simpa [Transmission.isComplete] using complete
    simp only [if_neg incomplete]
    exact refused status complete

/-- Only three bytes are a report. -/
theorem reportOfBytes?_eq_some {bytes : List UInt8} {version : UInt8} {crc : UInt16}
    (h : reportOfBytes? bytes = some (version, crc)) :
    ∃ low high, bytes = [version, low, high] ∧ crc = wordOfBytes low high := by
  unfold reportOfBytes? at h
  split at h
  · cases h
    exact ⟨_, _, rfl, rfl⟩
  · cases h

theorem usable?_eq_some {report : Option (UInt8 × UInt16)} {version : UInt8} {crc : UInt16}
    (h : usable? report = some (version, crc)) :
    report = some (version, crc) ∧ version ≠ 0xFF ∧ crc ≠ 0xFFFF := by
  unfold usable? at h
  split at h
  · rw [Option.ite_none_left_eq_some, not_or] at h
    obtain ⟨usable, ⟨⟩⟩ := h
    exact ⟨rfl, usable⟩
  · cases h

/-- The first step, before which nothing was said. -/
theorem follows_reportBefore {phase : Phase} (valid : image.validate half.profile.flasher = .ok ()) :
    (UpdateOp.from ⟨half, phase⟩ (reportBefore image)).Follows (Rule image half) []
      (Leaves half fun past _ => Usable image half past) := by
  obtain ⟨request, question⟩ := exists_reportRequest valid
  -- in this phase a question or a read is always in turn
  have turn : ∀ {past : Bus.Talk} {r : Bus.Request}, phasesTold past = [.verifying] →
      during .reverifying past = [] → Asks image half r → Rule image half past r := by
    intro past r told nothing asks _
    exact ⟨notStarted_of_nil nothing, .ask (phaseOf_eq told) asks⟩
  rw [from_reportBefore]
  refine ⟨rule_of_none rfl, fun _ => ⟨turn rfl rfl .answer, fun (old : Delivery 3) => ?_⟩⟩
  rw [follows_bind]
  refine follows_askReport question (turn rfl rfl (.question question))
    (fun _ => turn rfl rfl .answer) ?_ ?_
  · intro status refused
    exact ⟨rfl, by simp [StartedBefore, phaseOf], nofun, rfl⟩
  · intro delivery _
    rcases report : usable? (reportOfBytes? delivery.bytes) with _ | ⟨version, crc⟩
    · exact ⟨rfl, by simp [StartedBefore, phaseOf], nofun, rfl⟩
    · obtain ⟨report, program, checked⟩ := usable?_eq_some report
      obtain ⟨low, high, bytes, value⟩ := reportOfBytes?_eq_some report
      refine ⟨rule_of_none rfl, fun _ => ⟨rfl, ⟨rfl, ⟨version, crc, ?_, program, checked⟩, ?_, ?_, ?_⟩⟩⟩
      · refine ⟨request, delivery, low, high, [⟨.read half.bootloaderAddress 3, old⟩], question, ?_,
          bytes, value⟩
        simp [phaseOf]
      · simp [phaseOf]
      · simp [phaseOf]
      · simp [phaseOf]

theorem follows_erase {phase : Phase} (h : Usable image half past) :
    (UpdateOp.from ⟨half, phase⟩ erase).Follows (Rule image half) past
      (Leaves half fun past _ => Erased half past) := by
  rw [from_erase]
  refine ⟨rule_of_none rfl, fun _ => ⟨fun _ => ⟨?_, ?_⟩, fun (status : Transmission) =>
    ⟨rule_of_none rfl, fun _ => ?_⟩⟩⟩
  · exact notStarted_of_nil (by simp [h.notVerified])
  · exact .erase (by simp [phaseOf]) (by simpa [UsableBefore] using h.usable) (by simp [h.notErased])
  · rw [follows_done]
    by_cases complete : status.isComplete = true
    · have completed : status = .complete := by simpa [Transmission.isComplete] using complete
      subst completed
      refine ⟨rfl, ⟨?_, ?_, ?_, ?_⟩⟩
      · simp [h.phases]
      · simp [ErasedBefore, phaseOf]
      · simp [phaseOf, h.notWritten]
      · simp [phaseOf, h.notVerified]
    · rw [if_neg complete]
      refine ⟨?_, ?_, by simp, rfl⟩
      · simp [h.phases, Failure.reached]
      · simp [StartedBefore, phaseOf, h.notVerified]

/-! ## Pages -/

/-- Writing goes on through what is neither a phase nor a transaction. -/
theorem Writing.quiet {past' : Bus.Talk} {writes : List PageWrite} (h : Writing half past writes)
    (phases : phasesTold past' = phasesTold past)
    (same : ∀ phase, during phase past' = during phase past) : Writing half past' writes := by
  constructor
  · rw [phases, h.phases]
  · rw [ErasedBefore, same]
    exact h.erased
  · rw [WrittenBefore, same]
    exact h.written
  · rw [same, h.notVerified]

/-- One more write was accepted. -/
theorem Writing.accept {writes : List PageWrite} (h : Writing half past writes) (write : PageWrite)
    {status : Transmission} (accepted : write.Accepted half.profile.flasher status) :
    Writing half (⟨.write half.bootloaderAddress (write.bytes half.profile.flasher.commands),
      status⟩ :: past) (writes ++ [write]) := by
  have phase : phaseOf past = .writing := phaseOf_eq h.phases
  constructor
  · rw [phasesTold_write, h.phases]
  · simpa [ErasedBefore, phase] using h.erased
  · simp only [WrittenBefore, during_write, phase, if_true, List.reverse_append, List.reverse_cons,
      List.reverse_nil, List.nil_append, List.cons_append]
    exact .cons ⟨status, rfl, accepted⟩ h.written
  · simp [phase, h.notVerified]

/-- How a part of the writing ends. -/
def Wrote (half : Half) (writes : List PageWrite) (past : Bus.Talk) : Except Failure Unit → Prop
  | .ok () => Writing half past writes
  | .error failure => (∃ offset, failure = .pageRefused offset) ∧
      phasesTold past = [.writing, .erasing, .verifying] ∧ during .reverifying past = []

theorem Writing.rule {done rest : List PageWrite} (h : Writing half past done) (write : PageWrite)
    (next : imageWrites half.profile.flasher image = done ++ write :: rest) :
    Rule image half past
      (.write half.bootloaderAddress (write.bytes half.profile.flasher.commands)) :=
  fun _ => ⟨notStarted_of_nil h.notVerified, .page (phaseOf_eq h.phases) h.erased h.written next⟩

theorem Writing.refused {done : List PageWrite} (h : Writing half past done) (writes : List PageWrite)
    (bytes : List UInt8) (status : Transmission) {past' : Bus.Talk} (offset : UInt16)
    (phases : phasesTold past' = phasesTold past)
    (same : during .reverifying past' = during .reverifying
      (⟨.write half.bootloaderAddress bytes, status⟩ :: past)) :
    Wrote half writes past' (.error (.pageRefused offset)) := by
  refine ⟨⟨offset, rfl⟩, by rw [phases, h.phases], ?_⟩
  rw [same]
  simp [phaseOf_eq h.phases, h.notVerified]

/-- The induction is on the frames left; what was accepted before them only grows. -/
theorem follows_sendFrames {page : Nat} {offset : UInt16} {frames : List Nat}
    {done : List PageWrite} (rest : List PageWrite) (writing : Writing half past done)
    (next : imageWrites half.profile.flasher image =
      done ++ frames.map (frameWrite half.profile.flasher image page) ++ rest) :
    (ExceptT.run (sendFrames half.bootloaderAddress half.profile.flasher image page offset
      frames)).Follows (Rule image half) past
      (Wrote half (done ++ frames.map (frameWrite half.profile.flasher image page))) := by
  induction frames generalizing done past with
  | nil =>
    rw [List.map_nil, List.append_nil]
    exact writing
  | cons frame frames ih =>
    rw [run_sendFrames_cons]
    rw [List.map_cons] at next ⊢
    refine ⟨writing.rule (frameWrite half.profile.flasher image page frame)
      (by rw [next, List.append_assoc, List.cons_append]), fun (status : Transmission) =>
      ⟨rule_of_none rfl, fun _ => ?_⟩⟩
    by_cases accepted : status.code = half.profile.flasher.frameAck
    · rw [if_pos accepted]
      refine ⟨rule_of_none rfl, fun _ => ?_⟩
      have grown := writing.accept (frameWrite half.profile.flasher image page frame) accepted
      rw [List.append_cons]
      exact ih (grown.quiet rfl fun _ => rfl) (by rw [next]; simp)
    · rw [if_neg accepted]
      exact writing.refused _ _ status offset rfl rfl

theorem follows_sendPage {page : Nat} {offset : UInt16} {done : List PageWrite}
    (rest : List PageWrite)
    (address : image.pageOffset? page half.profile.flasher.pageSize = some offset)
    (writing : Writing half past done)
    (next : imageWrites half.profile.flasher image =
      done ++ pageWrites half.profile.flasher image page ++ rest) :
    (ExceptT.run (sendPage half.bootloaderAddress half.profile.flasher image page)).Follows
      (Rule image half) past (Wrote half (done ++ pageWrites half.profile.flasher image page)) := by
  rw [run_sendPage _ _ _ address]
  -- the page has an address, so the default is never sent
  have writes : pageWrites half.profile.flasher image page = .address offset ::
      (List.range half.profile.flasher.framesPerPage).map
        (frameWrite half.profile.flasher image page) := by
    rw [pageWrites, address, Option.getD_some]
  rw [writes] at next ⊢
  refine ⟨writing.rule (.address offset)
    (by rw [next, List.append_assoc, List.cons_append]), fun (status : Transmission) =>
    ⟨rule_of_none rfl, fun _ => ?_⟩⟩
  by_cases complete : status.isComplete = true
  · rw [if_pos complete]
    have accepted : PageWrite.Accepted half.profile.flasher status (.address offset) := by
      simpa [PageWrite.Accepted, Transmission.isComplete] using complete
    have grown := writing.accept (.address offset) accepted
    rw [List.append_cons]
    exact follows_sendFrames rest (grown.quiet rfl fun _ => rfl) (by rw [next]; simp)
  · rw [if_neg complete]
    exact writing.refused _ _ status offset rfl rfl

/-- The induction is on the pages left, as for the frames. -/
theorem follows_sendPages {total : Nat} {pages : List Nat} {done : List PageWrite}
    (rest : List PageWrite)
    (addressed : ∀ page ∈ pages, ∃ offset,
      image.pageOffset? page half.profile.flasher.pageSize = some offset)
    (writing : Writing half past done)
    (next : imageWrites half.profile.flasher image =
      done ++ pages.flatMap (pageWrites half.profile.flasher image) ++ rest) :
    (ExceptT.run (sendPages half.bootloaderAddress half.profile.flasher image total
      pages)).Follows (Rule image half) past
      (Wrote half (done ++ pages.flatMap (pageWrites half.profile.flasher image))) := by
  induction pages generalizing done past with
  | nil =>
    rw [List.flatMap_nil, List.append_nil]
    exact writing
  | cons page pages ih =>
    obtain ⟨offset, address⟩ := addressed page List.mem_cons_self
    rw [List.flatMap_cons] at next ⊢
    rw [run_sendPages_cons, follows_bind]
    refine (follows_sendPage (pages.flatMap (pageWrites half.profile.flasher image) ++ rest) address
      writing (by rw [next]; simp)).mono ?_
    rintro past (failure | _) wrote
    · exact wrote
    · refine ⟨rule_of_none rfl, fun _ => ?_⟩
      rw [← List.append_assoc]
      exact ih (fun page member => addressed page (List.mem_cons_of_mem _ member))
        (wrote.quiet rfl fun _ => rfl) (by rw [next]; simp)

theorem follows_writePages {phase : Phase} (valid : image.validate half.profile.flasher = .ok ())
    (h : Erased half past) :
    (UpdateOp.from ⟨half, phase⟩ (writePages image)).Follows (Rule image half) past
      (Leaves half fun past _ => Writing half past (imageWrites half.profile.flasher image)) := by
  rw [from_writePages]
  refine ⟨rule_of_none rfl, fun _ => ?_⟩
  rw [follows_bind]
  -- nothing is written yet when the phase begins
  have begun : ∀ reply : Unit, Writing half (⟨.tell (.phase .writing), reply⟩ :: past) [] := by
    intro reply
    constructor
    · rw [phasesTold_phase, h.phases]
    · simpa [ErasedBefore] using h.erased
    · rw [WrittenBefore, during_tell, h.notWritten]
      exact .nil
    · rw [during_tell, h.notVerified]
  refine (follows_sendPages []
    (fun page member => Image.exists_pageOffset valid (List.mem_range.mp member))
    (begun ()) (by rw [List.nil_append, List.append_nil]; rfl)).mono ?_
  rintro past (failure | _) wrote
  · obtain ⟨⟨offset, rfl⟩, phases, notVerified⟩ := wrote
    exact ⟨phases, (notStarted_of_nil notVerified).not_startedBefore, nofun, rfl⟩
  · exact ⟨rfl, wrote⟩

/-! ## Checking and starting -/

theorem Reverifying.rule (h : Reverifying image half past) {request : Bus.Request}
    (asks : Asks image half request) : Rule image half past request :=
  fun _ => ⟨h.notStarted, .askAgain (phaseOf_eq h.phases) h.written asks⟩

/-- Asking changes nothing of what came before, and writes nothing. -/
theorem Reverifying.later {past' : Bus.Talk} (h : Reverifying image half past)
    (phases : phasesTold past' = phasesTold past)
    (same : during .writing past' = during .writing past) (notStarted : NotStarted past') :
    Reverifying image half past' := by
  constructor
  · rw [phases, h.phases]
  · rw [WrittenBefore, same]
    exact h.written
  · exact notStarted

/-- The induction is on the attempts left. -/
theorem follows_askCrcRepeatedly (valid : image.validate half.profile.flasher = .ok ())
    {attempts : Nat} (h : Reverifying image half past) :
    (askCrcRepeatedly half.bootloaderAddress half.profile.flasher image attempts).Follows
      (Rule image half) past fun past answer => Reverifying image half past ∧
        ∀ crc, answer = some crc →
          ∃ version, Answered image half (during .reverifying past) version crc := by
  obtain ⟨request, question⟩ := exists_reportRequest valid
  induction attempts generalizing past with
  | zero => exact ⟨h, nofun⟩
  | succ attempts ih =>
    have phase : phaseOf past = .reverifying := phaseOf_eq h.phases
    have asked : ∀ status : Transmission, Reverifying image half
        (⟨.hold half.bootloaderAddress request, status⟩ :: past) := by
      intro status
      refine h.later rfl (by simp [phase]) ?_
      simpa [NotStarted, phase] using h.notStarted
    rw [askCrcRepeatedly_succ, follows_bind]
    refine follows_askReport question (h.rule (.question question)) (fun reply => ?_) ?_ ?_
    · have waited : Reverifying image half
          (⟨.wait (half.profile.flasher.crcSettle.toNat * 1000000), reply⟩ ::
            ⟨.hold half.bootloaderAddress request, Transmission.complete⟩ :: past) :=
        (asked .complete).later rfl rfl (asked .complete).notStarted
      exact waited.rule .answer
    · intro status refused
      refine ⟨rule_of_none rfl, fun _ => ?_⟩
      exact ih ((asked status).later rfl rfl (asked status).notStarted)
    · intro delivery reply
      have read : Reverifying image half (⟨.read half.bootloaderAddress 3, delivery⟩ ::
          ⟨.wait (half.profile.flasher.crcSettle.toNat * 1000000), reply⟩ ::
          ⟨.hold half.bootloaderAddress request, Transmission.complete⟩ :: past) := by
        refine (asked .complete).later rfl (by simp [phase]) ?_
        simpa [NotStarted, phase] using h.notStarted
      rcases report : reportOfBytes? delivery.bytes with _ | ⟨version, crc⟩
      · refine ⟨rule_of_none rfl, fun _ => ?_⟩
        exact ih (read.later rfl rfl read.notStarted)
      · refine ⟨read, ?_⟩
        rintro _ ⟨⟩
        obtain ⟨low, high, bytes, value⟩ := reportOfBytes?_eq_some report
        exact ⟨version, request, delivery, low, high, during .reverifying past, question,
          by simp [phase], bytes, value⟩

theorem follows_verifyWritten {phase : Phase} (valid : image.validate half.profile.flasher = .ok ())
    (h : Writing half past (imageWrites half.profile.flasher image)) :
    (UpdateOp.from ⟨half, phase⟩ (verifyWritten image)).Follows (Rule image half) past
      (Leaves half fun past crc => Reverifying image half past ∧ crc = image.expectedCrc ∧
        VerifiedBefore image half past) := by
  rw [from_verifyWritten]
  refine ⟨rule_of_none rfl, fun reply => ?_⟩
  rw [follows_bind]
  have begun : Reverifying image half (⟨.tell (.phase .reverifying), reply⟩ :: past) := by
    constructor
    · rw [phasesTold_phase, h.phases]
    · rw [WrittenBefore, during_tell]
      exact h.written
    · exact notStarted_of_nil (by rw [during_tell, h.notVerified])
  refine (follows_askCrcRepeatedly valid begun).mono ?_
  rintro past (_ | actual) ⟨asked, answered⟩
  · exact ⟨asked.phases, asked.notStarted.not_startedBefore, nofun, rfl⟩
  · rw [follows_done]
    by_cases expected : actual = image.expectedCrc
    · simp only [expected, if_true]
      exact ⟨rfl, asked, rfl, answered _ (by rw [expected])⟩
    · simp only [expected, if_false]
      exact ⟨asked.phases, asked.notStarted.not_startedBefore, nofun, rfl⟩

/-- Nothing follows the command that starts the program. -/
theorem follows_startProgram {phase : Phase} (h : Reverifying image half past)
    (verified : VerifiedBefore image half past) :
    (UpdateOp.from ⟨half, phase⟩ startProgram).Follows (Rule image half) past
      (Leaves half fun past _ =>
        phasesTold past = [.reverifying, .writing, .erasing, .verifying] ∧
          StartedBefore half past) := by
  have phase : phaseOf past = .reverifying := phaseOf_eq h.phases
  rw [from_startProgram]
  refine ⟨fun _ => ⟨h.notStarted, .execute phase h.written verified⟩,
    fun (status : Transmission) => ?_⟩
  rw [follows_done]
  by_cases complete : status.isComplete = true
  · have completed : status = .complete := by simpa [Transmission.isComplete] using complete
    subst completed
    refine ⟨rfl, h.phases, ?_⟩
    simp [StartedBefore, executeRequest, phase]
  · rw [if_neg complete]
    have notStarted : ¬StartedBefore half past := h.notStarted.not_startedBefore
    refine ⟨h.phases, ?_, nofun, rfl⟩
    have incomplete : Transmission.complete ≠ status := by
      rintro rfl
      exact complete rfl
    simpa [StartedBefore, executeRequest, phase, incomplete] using notStarted

/-! ## The update -/

/-- The steps one after the other, each from where the one before it leaves off. -/
theorem follows_writeImage {phase : Phase} (valid : image.validate half.profile.flasher = .ok ()) :
    (UpdateOp.from ⟨half, phase⟩ (writeImage image)).Follows (Rule image half) []
      (Leaves half fun past _ =>
        phasesTold past = [.reverifying, .writing, .erasing, .verifying] ∧
          StartedBefore half past) := by
  simp only [writeImage, follows_from_bind, from_get, from_pure, follows_done]
  refine (follows_reportBefore valid).mono ?_
  rintro past ⟨failure | ⟨version, crc⟩, ⟨_, phase⟩⟩ left
  · exact left
  obtain ⟨rfl, usable⟩ := left
  refine (follows_erase usable).mono ?_
  rintro past ⟨failure | _, ⟨_, phase⟩⟩ left
  · exact left
  obtain ⟨rfl, erased⟩ := left
  refine (follows_writePages valid erased).mono ?_
  rintro past ⟨failure | _, ⟨_, phase⟩⟩ left
  · exact left
  obtain ⟨rfl, writing⟩ := left
  refine (follows_verifyWritten valid writing).mono ?_
  rintro past ⟨failure | actual, ⟨_, phase⟩⟩ left
  · exact left
  obtain ⟨rfl, reverifying, rfl, verified⟩ := left
  refine (follows_startProgram reverifying verified).mono ?_
  rintro past ⟨failure | _, ⟨_, phase⟩⟩ left
  · exact left
  exact left

/-- An update that failed says so, and then ends. -/
theorem follows_conclude_error {session : Session} {failure : Failure}
    (told : phasesTold past = failure.reached.reverse) (notStarted : ¬StartedBefore half past)
    (invalid : failure = .invalidImage ↔
      image.validate half.profile.flasher = .error .invalidImage)
    (untouched : failure = .invalidImage → ∀ e ∈ past, e.request.address? = none)
    (same : session.half.markUnavailable = halfAfter half (.error failure)) :
    ((conclude (.error failure)).run session).Follows (Rule image half) past
      fun past outcome => Ends image half past outcome.1 outcome.2 := by
  rw [run_conclude]
  refine ⟨rule_of_none rfl, fun _ => ⟨rule_of_none rfl, fun _ => ?_⟩⟩
  constructor
  case phases =>
    change (Phase.failed :: phasesTold past).reverse = failure.reached ++ [.failed]
    rw [told, List.reverse_cons, List.reverse_reverse]
  case ok_iff =>
    refine ⟨nofun, fun started => ?_⟩
    simp only [StartedBefore, during_tell] at started
    exact absurd started notStarted
  case invalid_iff => simpa using invalid
  case untouched =>
    intro h e member
    have here := untouched (Except.error.inj h)
    simp only [List.mem_cons] at member
    rcases member with rfl | rfl | member
    · rfl
    · rfl
    · exact here e member
  case phase => rfl
  case half => exact same

theorem follows_update {phase : Phase} :
    ((update image).run ⟨half, phase⟩).Follows (Rule image half) []
      fun past outcome => Ends image half past outcome.1 outcome.2 := by
  rw [run_update]
  rcases valid : image.validate half.profile.flasher with failure | _
  · obtain rfl := Image.validate_error valid
    exact follows_conclude_error rfl (by simp [StartedBefore]) (by simp [valid]) (by simp) rfl
  · rw [follows_bind]
    refine (follows_writeImage valid).mono ?_
    rintro past ⟨failure | report, session⟩ left
    · refine follows_conclude_error left.phases left.notStarted ?_ ?_ left.half
      · simp [left.valid, valid]
      · exact fun h => absurd h left.valid
    · obtain ⟨same, told, started⟩ := left
      change ((conclude (.ok report)).run session).Follows _ _ _
      rw [run_conclude]
      refine ⟨rule_of_none rfl, fun _ => ?_⟩
      constructor
      case phases => simp [told, phasesOf]
      case ok_iff => simpa [StartedBefore] using started
      case invalid_iff => simp [valid]
      case untouched => exact nofun
      case phase => rfl
      case half => exact congrArg Half.markUnavailable same

theorem InTurn.address_eq {request : Bus.Request} (h : InTurn image half past request) :
    request.address? = some half.bootloaderAddress := by
  cases h with
  | ask _ asks => cases asks <;> rfl
  | erase => rfl
  | page => rfl
  | askAgain _ _ asks => cases asks <;> rfl
  | execute => rfl

section Plays
variable {image : Image} {half : Half} {phase : Phase} {said : Bus.Talk}
  {result : Except Failure Report} {session : Session}

theorem ends_of_plays (h : Plays ((update image).run ⟨half, phase⟩) said (result, session)) :
    Ends image half said.reverse result session := by
  have ends := follows_update.goal_of_plays h
  rw [List.append_nil] at ends
  exact ends

/-- An update talks with the bootloader of its half only. -/
theorem address_of_plays (h : Plays ((update image).run ⟨half, phase⟩) said (result, session)) :
    ∀ e ∈ said, ∀ address, e.request.address? = some address → address = half.bootloaderAddress := by
  intro e member address here
  obtain ⟨before, after, split⟩ := List.append_of_mem member
  have rule : Rule image half _ e.request := follows_update.rule_of_plays h split
  have inTurn := (rule (by rw [here]; rfl)).2
  exact Option.some.inj (here.symm.trans inTurn.address_eq)

end Plays

end Steps

/-- **Every transaction of every update is in turn**, whatever the bus answers: it goes to the half's
bootloader, it may be sent after what was said before it, and it comes before the start of the new
program, if there is one.  The update then ends as it should. -/
theorem update_inTurn {image : Image} {half : Half} {phase : Phase} {said : Bus.Talk}
    {result : Except Failure Report} {session : Session}
    (plays : Plays ((update image).run ⟨half, phase⟩) said (result, session)) :
    (∀ before e after, said = before ++ e :: after → e.request.address?.isSome →
      e.request.address? = some half.bootloaderAddress ∧
      NotStarted before.reverse ∧ InTurn image half before.reverse e.request) ∧
    Ends image half said.reverse result session := by
  constructor
  · intro before e after here transaction
    have rule := follows_update.rule_of_plays plays here
    rw [List.append_nil] at rule
    obtain ⟨notStarted, inTurn⟩ := rule transaction
    exact ⟨inTurn.address_eq, notStarted, inTurn⟩
  · exact ends_of_plays plays

/-- A bus that says what a device would say to five bytes: one page of four frames. -/
theorem update_inTurn_five_bytes :
    let half := Half.new 0 .raise
    let played := ((update ⟨#[1, 2, 3, 4, 5], .contiguous 0⟩).run ⟨half, .idle⟩).transcribe
      Bus.Script.partner
      { statuses := [.complete, .complete, .complete, .dataNack, .dataNack, .dataNack, .dataNack]
        replies := [[], [1, 0xFF, 0], [1, 0x7F, 0x43]] }
    played.1.1.isOk = true ∧
    (∀ before e after, played.2.1 = before ++ e :: after → e.request.address?.isSome →
      e.request.address? = some half.bootloaderAddress ∧ NotStarted before.reverse ∧
        InTurn ⟨#[1, 2, 3, 4, 5], .contiguous 0⟩ half before.reverse e.request) ∧
    Ends ⟨#[1, 2, 3, 4, 5], .contiguous 0⟩ half played.2.1.reverse played.1.1 played.1.2 :=
  ⟨by decide +kernel, update_inTurn (plays_transcribe _ _ _)⟩

end SplitBoard.Firmware

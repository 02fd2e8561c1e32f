import SplitBoard.Bus.Script
import SplitBoard.Proofs.PagePlan
import SplitBoard.Proofs.PhaseTalk
import Mathlib.Data.List.Infix

/-!
# Pages sent one by one

While an update writes, the bus only decides how far it gets along its plan.  **A
page is told to be done exactly if each of its writes was accepted**, and the
first write that is refused is the last transaction of all (`PagesSent`).
-/

namespace SplitBoard.Firmware

open Dialogue
open Half (transactions transactions_append)

/-! ## Frames and pages -/

section Pages
variable (image : Image) (half : Half)

/-- The write was sent, and it was refused. -/
def Refuses (e : Exchange Bus.vocabulary) (write : PageWrite) : Prop :=
  ∃ status : Transmission,
    e = ⟨.write half.bootloaderAddress (write.bytes half.profile.flasher.commands), status⟩ ∧
    ¬write.Accepted half.profile.flasher status

theorem accepts_request (write : PageWrite) {status : Transmission}
    (accepted : write.Accepted half.profile.flasher status) :
    Accepts half ⟨write.request half, status⟩ write :=
  ⟨status, rfl, accepted⟩

theorem refuses_request (write : PageWrite) {status : Transmission}
    (refused : ¬write.Accepted half.profile.flasher status) :
    Refuses half ⟨write.request half, status⟩ write :=
  ⟨status, rfl, refused⟩

/-- Each of these writes was sent, in order, and accepted. -/
def Accepted (sent : Bus.Talk) (writes : List PageWrite) : Prop :=
  List.Forall₂ (Accepts half) sent writes

/-- The writes were sent in order up to one that was refused, and those before it were accepted. -/
def Breaks (sent : Bus.Talk) (writes : List PageWrite) : Prop :=
  ∃ accepted e done write rest, sent = accepted ++ [e] ∧ writes = done ++ write :: rest ∧
    Accepted half accepted done ∧ Refuses half e write

/-- A page is sent in one way or the other. -/
def Outcome (failure : Failure) (sent : Bus.Talk) (writes : List PageWrite) :
    Except Failure Unit → Prop
  | .ok () => Accepted half sent writes
  | .error found => found = failure ∧ Breaks half sent writes

end Pages

section Sending
variable {image : Image} {half : Half} {said sent sent' : Bus.Talk} {writes writes' : List PageWrite}
  {result : Except Failure Unit} {page : Nat} {offset : UInt16}

theorem Accepted.append (h : Accepted half sent writes) (h' : Accepted half sent' writes') :
    Accepted half (sent ++ sent') (writes ++ writes') :=
  List.rel_append h h'

/-- Writes that were accepted may stand in front. -/
theorem Breaks.after (h : Breaks half sent' writes') (before : Accepted half sent writes) :
    Breaks half (sent ++ sent') (writes ++ writes') := by
  obtain ⟨accepted, e, done, write, rest, rfl, rfl, held, refused⟩ := h
  exact ⟨sent ++ accepted, e, writes ++ done, write, rest, (List.append_assoc ..).symm,
    (List.append_assoc ..).symm, before.append held, refused⟩

/-- Of any writes, the next one is accepted and the others follow, or it is refused. -/
theorem Outcome.after {failure : Failure} {e : Exchange Bus.vocabulary} {write : PageWrite}
    (h : Outcome half failure sent writes result) (accepted : Accepts half e write) :
    Outcome half failure (e :: sent) (write :: writes) result := by
  have before : Accepted half [e] [write] := .cons accepted .nil
  rcases result with found | _
  · exact ⟨h.1, h.2.after before⟩
  · exact before.append h

theorem Outcome.refused {failure : Failure} {e : Exchange Bus.vocabulary} {write : PageWrite}
    (refused : Refuses half e write) :
    Outcome half failure [e] (write :: writes) (.error failure) :=
  ⟨rfl, [], e, [], write, writes, rfl, rfl, .nil, refused⟩

/-- The induction is on the frames left. -/
theorem plays_sendFrames {frames : List Nat}
    (h : Plays (ExceptT.run (sendFrames half.bootloaderAddress half.profile.flasher image page offset
      frames)) said result) :
    Quiet said ∧ Outcome half (.pageRefused offset) (transactions said)
      (frames.map (frameWrite half.profile.flasher image page)) result := by
  induction frames generalizing said with
  | nil =>
    obtain ⟨rfl, rfl⟩ := plays_done_iff.mp (show Plays (done (.ok ())) said result from h)
    exact ⟨⟨rfl, rfl⟩, .nil⟩
  | cons frame frames ih =>
    rw [run_sendFrames_cons] at h
    obtain ⟨(status : Transmission), rest, rfl, written⟩ := plays_ask_iff.mp h
    obtain ⟨_, rest, rfl, told⟩ := plays_ask_iff.mp written
    by_cases accepted : status.code = half.profile.flasher.frameAck
    · rw [if_pos accepted] at told
      obtain ⟨_, rest, rfl, waited⟩ := plays_ask_iff.mp told
      obtain ⟨quiet, outcome⟩ := ih waited
      refine ⟨⟨quiet.phases, quiet.pages⟩, ?_⟩
      exact outcome.after
        (accepts_request half (frameWrite half.profile.flasher image page frame) accepted)
    · rw [if_neg accepted] at told
      obtain ⟨rfl, rfl⟩ := plays_done_iff.mp told
      refine ⟨⟨rfl, rfl⟩, ?_⟩
      exact .refused
        (refuses_request half (frameWrite half.profile.flasher image page frame) accepted)

theorem plays_sendPage
    (address : image.pageOffset? page half.profile.flasher.pageSize = some offset)
    (h : Plays (ExceptT.run (sendPage half.bootloaderAddress half.profile.flasher image page)) said
      result) :
    Quiet said ∧ Outcome half (.pageRefused offset) (transactions said)
      (pageWrites half.profile.flasher image page) result := by
  rw [run_sendPage _ _ _ address] at h
  rw [pageWrites, address, Option.getD_some]
  obtain ⟨(status : Transmission), rest, rfl, written⟩ := plays_ask_iff.mp h
  obtain ⟨_, rest, rfl, waited⟩ := plays_ask_iff.mp written
  by_cases complete : status = .complete
  · rw [if_pos (isComplete_iff.mpr complete)] at waited
    obtain ⟨quiet, outcome⟩ := plays_sendFrames waited
    refine ⟨⟨quiet.phases, quiet.pages⟩, ?_⟩
    exact outcome.after (accepts_request half (.address offset) complete)
  · rw [if_neg (mt isComplete_iff.mp complete)] at waited
    obtain ⟨rfl, rfl⟩ := plays_done_iff.mp waited
    exact ⟨⟨rfl, rfl⟩, .refused (refuses_request half (.address offset) complete)⟩

/-- How some pages were sent: all of them, or those up to one of which a write was refused.  The
pages before that one were told to be done. -/
def PagesOutcome (image : Image) (half : Half) (total : Nat) (said : Bus.Talk) (pages : List Nat) :
    Except Failure Unit → Prop
  | .ok () => pagesTold said = pages.map (fun page => (page + 1, total)) ∧
      Accepted half (transactions said) (pages.flatMap (pageWrites half.profile.flasher image))
  | .error failure => ∃ before page after offset sent broken, pages = before ++ page :: after ∧
      image.pageOffset? page half.profile.flasher.pageSize = some offset ∧
      failure = .pageRefused offset ∧
      pagesTold said = before.map (fun page => (page + 1, total)) ∧
      transactions said = sent ++ broken ∧
      Accepted half sent (before.flatMap (pageWrites half.profile.flasher image)) ∧
      Breaks half broken (pageWrites half.profile.flasher image page)

/-- The induction is on the pages left, as for the frames. -/
theorem plays_sendPages {total : Nat} {pages : List Nat}
    (addressed : ∀ page ∈ pages, ∃ offset,
      image.pageOffset? page half.profile.flasher.pageSize = some offset)
    (h : Plays (ExceptT.run (sendPages half.bootloaderAddress half.profile.flasher image total
      pages)) said result) :
    phasesTold said = [] ∧ PagesOutcome image half total said pages result := by
  induction pages generalizing said with
  | nil =>
    obtain ⟨rfl, rfl⟩ := plays_done_iff.mp (show Plays (done (.ok ())) said result from h)
    exact ⟨rfl, rfl, .nil⟩
  | cons page pages ih =>
    obtain ⟨offset, address⟩ := addressed page List.mem_cons_self
    rw [run_sendPages_cons] at h
    obtain ⟨first, rest, outcome, rfl, sent, later⟩ := plays_bind_iff.mp h
    obtain ⟨quiet, here⟩ := plays_sendPage address sent
    rcases outcome with failure | _
    · obtain ⟨rfl, rfl⟩ := plays_done_iff.mp later
      rw [List.append_nil]
      refine ⟨quiet.phases, [], page, pages, offset, [], transactions first, rfl, address, here.1,
        quiet.pages, rfl, .nil, here.2⟩
    · obtain ⟨_, rest, rfl, announced⟩ := plays_ask_iff.mp later
      obtain ⟨silent, others⟩ := ih (fun page member => addressed page
        (List.mem_cons_of_mem _ member)) announced
      have phases : phasesTold (first ++ told (.page (page + 1) total) :: rest) = [] := by
        rw [phasesTold_append, quiet.phases]
        exact silent
      have pagesDone : pagesTold (first ++ told (.page (page + 1) total) :: rest) =
          (page + 1, total) :: pagesTold rest := by
        rw [pagesTold_append, quiet.pages]
        rfl
      have sent : transactions (first ++ told (.page (page + 1) total) :: rest) =
          transactions first ++ transactions rest := transactions_append
      refine ⟨phases, ?_⟩
      rcases result with failure | _
      · obtain ⟨before, broken, after, offset, done, last, rfl, address, rfl, pagesTold', sent',
          accepted, breaks⟩ := others
        refine ⟨page :: before, broken, after, offset, transactions first ++ done, last, rfl, address,
          rfl, ?_, ?_, ?_, breaks⟩
        · rw [pagesDone, pagesTold']
          rfl
        · rw [sent, sent', List.append_assoc]
        · exact here.append accepted
      · refine ⟨?_, ?_⟩
        · rw [pagesDone, others.1]
          rfl
        · rw [sent]
          exact here.append others.2

end Sending

/-! ## How far the update gets -/

section Progress
variable (image : Image) (half : Half)

/-- What was sent for a page: as many transactions as the page has writes, behind those of the pages
before it. -/
def ofPage (page : Nat) (sent : Bus.Talk) : Bus.Talk :=
  (sent.drop (page * (half.profile.flasher.framesPerPage + 1))).take
    (half.profile.flasher.framesPerPage + 1)

/-- The address of the page and each of its frames were sent and accepted. -/
def PageAccepted (said : Bus.Talk) (page : Nat) : Prop :=
  Accepted half (ofPage half page (sentIn .writing said))
    (pageWrites half.profile.flasher image page)

/-- An update that got so many pages done. -/
structure PagesSent (said : Bus.Talk) (result : Except Failure Report) (done : Nat) : Prop where
  le_count : done ≤ image.pageCount half.profile.flasher.pageSize
  /-- The pages were told to be done one after the other. -/
  told : pagesTold said = (List.range done).map fun page =>
    (page + 1, image.pageCount half.profile.flasher.pageSize)
  /-- Those pages are accepted, and no other ones. -/
  accepted : ∀ page, PageAccepted image half said page ↔ page < done
  /-- The plan was kept as far as it went. -/
  planned : (sentIn .writing said).map (·.request) <+: plan image half
  /-- A page that is refused is the next one, and nothing is sent after the write that was
  refused. -/
  broken : ∀ offset, result = .error (.pageRefused offset) →
    image.pageOffset? done half.profile.flasher.pageSize = some offset ∧
    ∃ e write, (transactions said).getLast? = some e ∧
      (ofPage half done (sentIn .writing said)).getLast? = some e ∧
      write ∈ pageWrites half.profile.flasher image done ∧ Refuses half e write
  /-- The frames carry the padded image, as far as they go. -/
  payload : carried half.profile.flasher ((sentIn .writing said).map (·.request)) <+:
    image.padded half.profile.flasher
  /-- An update that succeeds got all pages done. -/
  whole : ∀ report, result = .ok report →
    done = image.pageCount half.profile.flasher.pageSize ∧
    carried half.profile.flasher ((sentIn .writing said).map (·.request)) =
      image.padded half.profile.flasher

end Progress

section Course
variable {image : Image} {half : Half} {said sent broken : Bus.Talk} {writes : List PageWrite}

theorem requests_of_accepted (h : Accepted half sent writes) :
    sent.map (·.request) = writes.map (PageWrite.request half) := by
  induction h with
  | nil => rfl
  | cons here _ ih =>
    obtain ⟨status, rfl, -⟩ := here
    rw [List.map_cons, List.map_cons, ih]
    rfl

theorem requests_of_breaks (h : Breaks half sent writes) :
    sent.map (·.request) <+: writes.map (PageWrite.request half) := by
  obtain ⟨accepted, _, done, write, rest, rfl, rfl, held, status, rfl, -⟩ := h
  refine ⟨rest.map (PageWrite.request half), ?_⟩
  rw [List.map_append, List.map_append, requests_of_accepted held, List.append_assoc]
  rfl

/-- A refused write is not accepted. -/
theorem Breaks.not_accepted (h : Breaks half sent writes) : ¬Accepted half sent writes := by
  obtain ⟨accepted, e, done, write, rest, rfl, rfl, held, status, rfl, refused⟩ := h
  intro all
  have behind := List.forall₂_drop accepted.length all
  rw [List.drop_left, held.length_eq, List.drop_left] at behind
  obtain ⟨⟨status', same, here⟩, -⟩ := List.forall₂_cons.mp behind
  cases same
  exact refused here

theorem Breaks.length_le (h : Breaks half sent writes) : sent.length ≤ writes.length := by
  obtain ⟨accepted, e, done, write, rest, rfl, rfl, held, -⟩ := h
  have same := held.length_eq
  simp only [List.length_append, List.length_cons, List.length_nil]
  omega

theorem length_pageWrites (format : FlashFormat) (image : Image) (page : Nat) :
    (pageWrites format image page).length = format.framesPerPage + 1 := by
  rw [pageWrites, List.length_cons, List.length_map, List.length_range]

theorem length_flatMap_pageWrites (format : FlashFormat) (image : Image) (count : Nat) :
    ((List.range count).flatMap (pageWrites format image)).length =
      count * (format.framesPerPage + 1) := by
  induction count with
  | zero =>
    rw [Nat.zero_mul]
    rfl
  | succ count ih =>
    rw [List.range_succ, List.flatMap_append, List.length_append, ih, List.flatMap_singleton,
      length_pageWrites, Nat.succ_mul]

/-- The writes of one of some pages, among those of all of them. -/
theorem take_drop_flatMap_pageWrites {format : FlashFormat} {page count : Nat} (h : page < count) :
    ((((List.range count).flatMap (pageWrites format image)).drop
      (page * (format.framesPerPage + 1))).take (format.framesPerPage + 1)) =
      pageWrites format image page := by
  obtain ⟨rest, rfl⟩ := Nat.exists_eq_add_of_lt h
  have split : List.range (page + rest + 1) =
      List.range page ++ page :: (List.range rest).map (page + 1 + ·) := by
    rw [show page + rest + 1 = page + 1 + rest by omega, List.range_add, List.range_succ,
      List.append_assoc, List.singleton_append]
  rw [split, List.flatMap_append, List.flatMap_cons,
    List.drop_left' (length_flatMap_pageWrites format image page),
    List.take_left' (length_pageWrites format image page)]

/-- The pages that are accepted are those that were sent before something was refused. -/
theorem accepted_ofPage_iff {done : Nat} (page : Nat)
    (accepted : Accepted half sent
      ((List.range done).flatMap (pageWrites half.profile.flasher image)))
    (rest : broken = [] ∨ Breaks half broken (pageWrites half.profile.flasher image done)) :
    Accepted half (ofPage half page (sent ++ broken)) (pageWrites half.profile.flasher image page) ↔
      page < done := by
  have length := accepted.length_eq
  rw [length_flatMap_pageWrites] at length
  constructor
  · intro here
    -- the page has all its transactions, so it is none behind the one that was refused
    have full := here.length_eq
    rw [length_pageWrites, ofPage, List.length_take, List.length_drop, List.length_append,
      length] at full
    have short : broken.length ≤ half.profile.flasher.framesPerPage + 1 := by
      rcases rest with rfl | breaks
      · exact Nat.zero_le _
      · exact length_pageWrites half.profile.flasher image done ▸ breaks.length_le
    have reach : (page + 1) * (half.profile.flasher.framesPerPage + 1) ≤
        done * (half.profile.flasher.framesPerPage + 1) + broken.length := by
      rw [Nat.succ_mul page]
      omega
    have next : page < done + 1 := by
      refine Nat.lt_of_mul_lt_mul_right (a := half.profile.flasher.framesPerPage + 1) ?_
      rw [Nat.succ_mul] at reach ⊢
      omega
    rcases Nat.lt_succ_iff_lt_or_eq.mp next with before | rfl
    · exact before
    · exfalso
      rw [ofPage, List.drop_left' length, List.take_of_length_le short] at here
      rcases rest with rfl | breaks
      · have none := here.length_eq
        rw [length_pageWrites] at none
        cases none
      · exact breaks.not_accepted here
  · intro before
    have reach : (page + 1) * (half.profile.flasher.framesPerPage + 1) ≤ sent.length :=
      length ▸ Nat.mul_le_mul_right _ before
    rw [Nat.succ_mul] at reach
    have same : ofPage half page (sent ++ broken) = ofPage half page sent := by
      rw [ofPage, ofPage, List.drop_append_of_le_length (by omega),
        List.take_append_of_le_length (by rw [List.length_drop]; omega)]
    rw [same, ← take_drop_flatMap_pageWrites before]
    exact List.forall₂_take _ (List.forall₂_drop _ accepted)

end Course

/-! ## Ends of an update -/

section Ends
variable {image : Image} {half : Half} {said : Bus.Talk} {version : UInt8} {crc : UInt16}

/-- In the course of an update some pages were accepted and told to be done, and what was sent behind
them was refused. -/
structure Halts (image : Image) (half : Half) (said : Bus.Talk) (result : Except Failure Report)
    (done : Nat) (sent broken : Bus.Talk) : Prop where
  sent_eq : sentIn .writing said = sent ++ broken
  told : pagesTold said = (List.range done).map fun page =>
    (page + 1, image.pageCount half.profile.flasher.pageSize)
  accepted : Accepted half sent
    ((List.range done).flatMap (pageWrites half.profile.flasher image))
  outcome : broken = [] ∧ done ≤ image.pageCount half.profile.flasher.pageSize ∧
      (∀ offset, result ≠ .error (.pageRefused offset)) ∧
      (∀ report, result = .ok report →
        done = image.pageCount half.profile.flasher.pageSize) ∨
    done < image.pageCount half.profile.flasher.pageSize ∧
      Breaks half broken (pageWrites half.profile.flasher image done) ∧
      (transactions said).getLast? = broken.getLast? ∧
      ∃ offset, image.pageOffset? done half.profile.flasher.pageSize = some offset ∧
        result = .error (.pageRefused offset)

/-- Nothing was written yet. -/
theorem Halts.none {result : Except Failure Report} (never : .writing ∉ phasesTold said)
    (noPage : pagesTold said = [])
    (failed : ∃ failure, result = .error failure ∧ ∀ offset, failure ≠ .pageRefused offset) :
    Halts image half said result 0 [] [] := by
  obtain ⟨failure, rfl, other⟩ := failed
  refine ⟨sentIn_eq_nil never nofun, noPage, .nil, .inl ⟨rfl, Nat.zero_le _, ?_, nofun⟩⟩
  intro offset same
  exact other offset (Except.error.inj same)

/-- Everything was written. -/
theorem Writes.halts {later : Bus.Talk} {result : Except Failure Report}
    (valid : image.validate half.profile.flasher = .ok ())
    (h : Writes image half said version crc) (quiet : Quiet later)
    (other : ∀ offset, result ≠ .error (.pageRefused offset)) :
    ∃ done sent broken, Halts image half (said ++ told (.phase .reverifying) :: later) result done
      sent broken := by
  obtain @⟨begun, pages, _, _, begins, plays⟩ := h
  obtain ⟨phases, told, accepted⟩ := plays_sendPages
    (fun page member => Image.exists_pageOffset valid (List.mem_range.mp member)) plays
  refine ⟨_, transactions pages, [], ?_, ?_, accepted,
    .inl ⟨rfl, Nat.le_refl _, other, fun _ _ => rfl⟩⟩
  · rw [sentIn_told .reverifying quiet.phases, if_neg (by decide), sentIn_told .writing phases,
      if_pos rfl, begins.sentIn_eq_nil, List.append_nil, List.nil_append]
  · rw [pagesTold_append, pagesTold_append, begins.pages, List.nil_append]
    change pagesTold pages ++ pagesTold later = _
    rw [quiet.pages, told, List.append_nil]

/-- The pages up to one that was refused. -/
theorem Begins.halts {pages : Bus.Talk} {failure : Failure}
    (valid : image.validate half.profile.flasher = .ok ())
    (h : Begins image half said version crc)
    (sends : SendsPages image half pages (.error failure)) :
    ∃ done sent broken, Halts image half (said ++ told (.phase .writing) :: pages)
      (.error failure) done sent broken := by
  obtain ⟨phases, before, page, after, offset, sent, broken, split, address, rfl, pagesDone, sent_eq,
    accepted, breaks⟩ := plays_sendPages
      (fun page member => Image.exists_pageOffset valid (List.mem_range.mp member)) sends
  -- the pages are numbered from zero on, so the one refused has the number of those before it
  rw [List.range_eq_range'] at split
  obtain ⟨done, -, rfl, behind⟩ := List.range'_eq_append_iff.mp split
  obtain ⟨rfl, inRange, -⟩ := List.range'_eq_cons_iff.mp behind.symm
  rw [← List.range_eq_range'] at pagesDone accepted
  simp only [Nat.zero_add, Nat.mul_one] at address breaks
  have last : (transactions (said ++ told (.phase .writing) :: pages)).getLast? =
      broken.getLast? := by
    obtain ⟨_, e, _, _, _, rfl, -⟩ := breaks
    rw [transactions_append]
    change (transactions said ++ transactions pages).getLast? = _
    rw [sent_eq, ← List.append_assoc, ← List.append_assoc, List.getLast?_concat,
      List.getLast?_concat]
  refine ⟨done, sent, broken, ?_, ?_, accepted, .inr ⟨by omega, breaks, last, offset, address, rfl⟩⟩
  · rw [sentIn_told .writing phases, if_pos rfl, h.sentIn_eq_nil, List.nil_append, sent_eq]
  · rw [pagesTold_append, h.pages, List.nil_append]
    exact pagesDone

/-- Every update gets some pages done and then stops, or goes on behind them. -/
theorem Course.halts {result : Except Failure Report} {after : Session}
    (valid : image.validate half.profile.flasher = .ok ())
    (h : Course image half said result after) :
    ∃ done sent broken, Halts image half said result done sent broken := by
  have asked (failed : List Asking) (asking : Asking) :
      Quiet (failedTalk image half failed ++ asking.talk image half) :=
    (quiet_failedTalk image half failed).append (quiet_talk image half asking)
  cases h with
  | unreported =>
    refine ⟨0, [], [], .none ?_ (pagesTold_opening ..) ⟨_, rfl, nofun⟩⟩
    rw [phasesTold_opening]
    decide
  | unerased =>
    refine ⟨0, [], [], .none ?_ ?_ ⟨_, rfl, nofun⟩⟩
    · rw [phasesTold_erasing, phasesTold_opening]
      decide
    · rw [pagesTold_erasing, pagesTold_opening]
  | unwritten begins sends => exact begins.halts valid sends
  | silent writes => exact writes.halts valid (quiet_failedTalk image half _) fun _ => nofun
  | mismatched writes => exact writes.halts valid (asked _ _) fun _ => nofun
  | unstarted writes | started writes =>
    rw [List.append_assoc]
    exact writes.halts valid ((asked _ _).append ⟨rfl, rfl⟩) fun _ => nofun

end Ends

section Update
variable {image : Image} {half : Half} {phase : Phase} {said : Bus.Talk}
  {result : Except Failure Report} {session : Session}

/-- What is told at the end is no transaction, and no page. -/
theorem Halts.conclude {course sent broken : Bus.Talk} {last : Phase} {done : Nat}
    (h : Halts image half course result done sent broken) :
    Halts image half (course ++ conclusion half last result) result done sent broken := by
  have notes : transactions (conclusion half last result) = [] := by
    cases result <;> rfl
  have pages : pagesTold (conclusion half last result) = [] := by
    cases result <;> rfl
  have sent_eq := sentIn_conclusion course half .writing last result nofun nofun
  constructor
  · rw [sent_eq, h.sent_eq]
  · rw [pagesTold_append, pages, List.append_nil, h.told]
  · exact h.accepted
  · rw [transactions_append, notes, List.append_nil]
    exact h.outcome

section Halted
variable {sent broken : Bus.Talk} {done : Nat}
  (h : Halts image half said result done sent broken)
include h

theorem Halts.le_count : done ≤ image.pageCount half.profile.flasher.pageSize := by
  rcases h.outcome with ⟨-, le, -⟩ | ⟨lt, -⟩
  · exact le
  · exact Nat.le_of_lt lt

/-- Nothing is left over behind the pages that were accepted, or a page that was refused. -/
theorem Halts.rest :
    broken = [] ∨ Breaks half broken (pageWrites half.profile.flasher image done) := by
  rcases h.outcome with ⟨none, -⟩ | ⟨-, breaks, -⟩
  · exact .inl none
  · exact .inr breaks

theorem Halts.length_sent :
    sent.length = done * (half.profile.flasher.framesPerPage + 1) := by
  rw [h.accepted.length_eq, length_flatMap_pageWrites]

/-- The pages that were accepted are those of the plan, and what is left over is part of the next
one. -/
theorem Halts.planned (valid : image.validate half.profile.flasher = .ok ()) :
    (sent ++ broken).map (·.request) <+: plan image half := by
  obtain ⟨more, count⟩ := Nat.exists_eq_add_of_le h.le_count
  rw [plan_eq valid, imageWrites, count, List.map_append, requests_of_accepted h.accepted,
    List.range_add, List.flatMap_append, List.map_append, List.prefix_append_right_inj]
  rcases h.outcome with ⟨rfl, -⟩ | ⟨inRange, breaks, -⟩
  · exact List.nil_prefix
  · obtain ⟨last, rfl⟩ : ∃ last, more = last + 1 := Nat.exists_eq_add_one.mpr (by omega)
    rw [List.range_succ_eq_map, List.map_cons, List.flatMap_cons, List.map_append]
    exact (requests_of_breaks breaks).trans (List.prefix_append _ _)

/-- The write that is refused is one of the next page, and the last transaction of all. -/
theorem Halts.refused {offset : UInt16} (failed : result = .error (.pageRefused offset)) :
    image.pageOffset? done half.profile.flasher.pageSize = some offset ∧
      ∃ e write, (transactions said).getLast? = some e ∧
        (ofPage half done (sent ++ broken)).getLast? = some e ∧
        write ∈ pageWrites half.profile.flasher image done ∧ Refuses half e write := by
  rcases h.outcome with ⟨-, -, other, -⟩ | ⟨-, breaks, last, offset', address, same⟩
  · exact absurd failed (other offset)
  · obtain rfl : offset' = offset := by
      cases same.symm.trans failed
      rfl
    have short := length_pageWrites half.profile.flasher image done ▸ breaks.length_le
    obtain ⟨accepted, e, before, write, after, rfl, writes, -, refused⟩ := breaks
    refine ⟨address, e, write, ?_, ?_, ?_, refused⟩
    · rw [last, List.getLast?_concat]
    · rw [ofPage, List.drop_left' h.length_sent, List.take_of_length_le short,
        List.getLast?_concat]
    · rw [writes]
      exact List.mem_append_right _ List.mem_cons_self

theorem Halts.pagesSent (valid : image.validate half.profile.flasher = .ok ()) :
    PagesSent image half said result done := by
  have planned := h.planned valid
  constructor
  case le_count => exact h.le_count
  case told => exact h.told
  case accepted =>
    intro page
    rw [PageAccepted, h.sent_eq]
    exact accepted_ofPage_iff page h.accepted h.rest
  case planned =>
    rw [h.sent_eq]
    exact planned
  case broken =>
    intro offset failed
    rw [h.sent_eq]
    exact h.refused failed
  case payload =>
    rw [h.sent_eq, ← carried_plan valid]
    exact List.IsPrefix.flatten (planned.filterMap _)
  case whole =>
    rintro report rfl
    rcases h.outcome with ⟨rfl, -, -, all⟩ | ⟨-, -, -, _, -, ⟨⟩⟩
    obtain rfl := all report rfl
    refine ⟨rfl, ?_⟩
    rw [h.sent_eq, List.append_nil, requests_of_accepted h.accepted, carried_pages valid,
      padded_eq valid]

end Halted

/-- Every update gets some pages done. -/
theorem exists_pagesSent (valid : image.validate half.profile.flasher = .ok ())
    (plays : Plays ((update image).run ⟨half, phase⟩) said (result, session)) :
    ∃ done, PagesSent image half said result done := by
  obtain ⟨course, mid, went, rfl, -⟩ := course_of_update valid plays
  obtain ⟨done, sent, broken, halts⟩ := went.halts valid
  exact ⟨done, halts.conclude.pagesSent valid⟩

/-- **An update gets some pages done, and tells so after each**: those of which the address and every
frame were accepted.  It sends them as planned and stops with the first write that is refused, in the
page behind them.  Its frames carry the image, filled up to whole pages, as far as it gets; if it
succeeds it gets to the end. -/
theorem update_pagesSent (valid : image.validate half.profile.flasher = .ok ())
    (plays : Plays ((update image).run ⟨half, phase⟩) said (result, session)) :
    image.pageCount half.profile.flasher.pageSize =
        (image.size + half.profile.flasher.pageSize.toNat - 1) /
          half.profile.flasher.pageSize.toNat ∧
      ∃ done, PagesSent image half said result done :=
  ⟨Image.pageCount_eq valid, exists_pagesSent valid plays⟩

/-- Sixty-five bytes take two pages; the bus refuses the second frame of the second one. -/
theorem update_pagesSent_refused_frame :
    let half := Half.new 0 .raise
    let image : Image := ⟨Array.replicate 65 7, .contiguous 0x100⟩
    let played := ((update image).run ⟨half, .idle⟩).transcribe Bus.Script.partner
      { statuses := [.complete, .complete, .complete, .dataNack, .dataNack, .dataNack, .dataNack,
          .complete, .dataNack, .fault]
        replies := [[], [1, 0xFF, 0]] }
    image.validate half.profile.flasher = .ok () ∧
      played.1.1 = .error (.pageRefused 0x140) ∧ pagesTold played.2.1 = [(1, 2)] ∧
      image.pageCount half.profile.flasher.pageSize = (image.size + 63) / 64 ∧
      PagesSent image half played.2.1 played.1.1 1 := by
  intro half image played
  have valid : image.validate half.profile.flasher = .ok () := by decide +kernel
  have one : pagesTold played.2.1 = [(1, 2)] := by decide +kernel
  have plays : Plays ((update image).run ⟨half, .idle⟩) played.2.1 played.1 :=
    plays_transcribe Bus.Script.partner _ _
  obtain ⟨count, done, sent⟩ := update_pagesSent valid plays
  have length := congrArg List.length (sent.told.symm.trans one)
  rw [List.length_map, List.length_range] at length
  obtain rfl : done = 1 := length
  exact ⟨valid, by decide +kernel, one, count, sent⟩

end Update

end SplitBoard.Firmware

import SplitBoard.Proofs.Conduct
import SplitBoard.Proofs.Device
import Mathlib.Data.List.Induction

/-!
# What is meant for others

A simulated bootloader hears everything that is asked of the bus.  Two runs are
compared, one with the requests for other addresses and one without them.

**A write to another address leaves nothing but a line in the log.  A read at
another address takes an answer that was waiting, and nobody gets it.**  So the
two runs differ only in that answer, as long as it has not been replaced or taken
(`Shadows`), and the requests for others make no difference exactly if the answer
was not missed (`overhears`).
-/

namespace SplitBoard

/-- A request that occupies the bus with another address. -/
def Bus.Request.isForeign (own : UInt8) (request : Bus.Request) : Bool :=
  request.address?.any (· ≠ own)

section
variable (own address : UInt8) (bytes : List UInt8) (length : Nat)

@[simp] theorem Bus.Request.isForeign_write :
    (Bus.Request.write address bytes).isForeign own = decide (address ≠ own) := rfl

@[simp] theorem Bus.Request.isForeign_hold :
    (Bus.Request.hold address bytes).isForeign own = decide (address ≠ own) := rfl

@[simp] theorem Bus.Request.isForeign_read :
    (Bus.Request.read address length).isForeign own = decide (address ≠ own) := rfl

end

namespace Firmware.Bootloader

open Dialogue

variable {b loud quiet : Bootloader} {lost : Bool}

/-- Ask one thing after the other. -/
def converse (b : Bootloader) : List Bus.Request → Bus.Talk × Bootloader
  | [] => ([], b)
  | request :: rest =>
    let (reply, after) := partner request b
    let (talk, after) := after.converse rest
    (⟨request, reply⟩ :: talk, after)

theorem converse_append (before after : List Bus.Request) :
    b.converse (before ++ after) =
      ((b.converse before).1 ++ ((b.converse before).2.converse after).1,
        ((b.converse before).2.converse after).2) := by
  induction before generalizing b with
  | nil => rfl
  | cons request rest ih =>
    simp only [List.cons_append, converse]
    rw [ih]

theorem converse_concat (before : List Bus.Request) (request : Bus.Request) :
    b.converse (before ++ [request]) =
      ((b.converse before).1 ++ [⟨request, (partner request (b.converse before).2).1⟩],
        (partner request (b.converse before).2).2) :=
  converse_append before [request]

/-! ## What a bootloader keeps -/

/-- The same bootloader with another log and another answer waiting. -/
def recalling (b : Bootloader) (log : Array LoggedTransaction)
    (pending : Option (UInt8 × UInt8 × UInt8)) : Bootloader :=
  { b with log, pending }

/-- What nothing that is asked of a bootloader changes. -/
structure Keeps (b after : Bootloader) : Prop where
  address : after.address = b.address
  format : after.format = b.format

section Take
variable (log : Array LoggedTransaction) (pending : Option (UInt8 × UInt8 × UInt8))
  (bytes arguments : List UInt8)

/-- A question for a report that leaves an answer. -/
def Reported (b : Bootloader) (bytes : List UInt8) (status : Transmission) : Prop :=
  bytes.head? = some b.format.commands.getVersionAndCrc ∧ status = .complete

instance (status : Transmission) : Decidable (b.Reported bytes status) :=
  inferInstanceAs (Decidable (_ ∧ _))

theorem takeReportRequest_recalling :
    (b.recalling log pending).takeReportRequest arguments =
      ((b.takeReportRequest arguments).1, (b.takeReportRequest arguments).2.recalling log
        (if (b.takeReportRequest arguments).1 = .complete
          then (b.takeReportRequest arguments).2.pending else pending)) := by
  have busy : (b.recalling log pending).busy = b.busy := rfl
  unfold takeReportRequest
  rw [busy]
  split
  · rfl
  · -- four bytes, no fewer and no more
    rcases arguments with _ | ⟨_, _ | ⟨_, _ | ⟨_, _ | ⟨_, _ | _⟩⟩⟩⟩ <;> rfl

theorem takePageAddress_recalling :
    (b.recalling log pending).takePageAddress arguments =
      ((b.takePageAddress arguments).1, (b.takePageAddress arguments).2.recalling log pending) := by
  rcases arguments with _ | ⟨_, _ | ⟨_, _ | _⟩⟩ <;> rfl

theorem takeFrame_recalling :
    (b.recalling log pending).takeFrame arguments =
      ((b.takeFrame arguments).1, (b.takeFrame arguments).2.recalling log pending) := by
  by_cases rejected : b.rejectFrame = some b.framesSeen
  · simp only [takeFrame, recalling, rejected, if_true]
  · rcases framed : frameData? b.format.frameSize.toNat arguments with _ | data
    · simp only [takeFrame, recalling, rejected, framed, if_false]
    · by_cases inside : b.page.toNat + b.frameInPage * b.format.frameSize.toNat +
          b.format.frameSize.toNat ≤ addressSpace
      · simp only [takeFrame, recalling, rejected, framed, inside, storeFrame, if_true, if_false]
        rfl
      · simp only [takeFrame, recalling, rejected, framed, inside, if_false]

/-- **No command looks at the log or at the answer that waits**, and only a question for a report
replaces that answer. -/
theorem take_recalling :
    (b.recalling log pending).take bytes =
      ((b.take bytes).1, (b.take bytes).2.recalling log
        (if b.Reported bytes (b.take bytes).1 then (b.take bytes).2.pending else pending)) := by
  cases bytes with
  | nil => rfl
  | cons command arguments =>
    by_cases report : command = b.format.commands.getVersionAndCrc
    · have asked := takeReportRequest_recalling (b := b) log pending arguments
      simpa only [take, recalling, Reported, report, List.head?_cons, if_true, true_and] using asked
    · have other (status : Transmission) : ¬b.Reported (command :: arguments) status :=
        fun h => report (Option.some.inj h.1)
      rw [if_neg (other _)]
      have format : (b.recalling log pending).format = b.format := rfl
      simp only [take, format, if_neg report]
      split
      · rfl
      · split
        · exact takePageAddress_recalling log pending arguments
        · split
          · exact takeFrame_recalling log pending arguments
          · split <;> rfl

theorem log_take : (b.take bytes).2.log = b.log :=
  congrArg (fun r => r.2.log) (take_recalling (b := b) b.log b.pending bytes)

theorem pending_take (silent : ¬b.Reported bytes (b.take bytes).1) :
    (b.take bytes).2.pending = b.pending := by
  have same := congrArg (fun r => r.2.pending) (take_recalling (b := b) b.log b.pending bytes)
  rw [if_neg silent] at same
  exact same

theorem takeReportRequest_keeps : b.Keeps (b.takeReportRequest arguments).2 := by
  unfold takeReportRequest
  split
  · exact ⟨rfl, rfl⟩
  · split <;> exact ⟨rfl, rfl⟩

theorem takeFrame_keeps : b.Keeps (b.takeFrame arguments).2 := by
  unfold takeFrame
  simp only
  split
  · exact ⟨rfl, rfl⟩
  · split
    · exact ⟨rfl, rfl⟩
    · split <;> exact ⟨rfl, rfl⟩

theorem take_keeps : b.Keeps (b.take bytes).2 := by
  rcases bytes with _ | ⟨command, arguments⟩
  · exact ⟨rfl, rfl⟩
  · simp only [take]
    split
    · exact takeReportRequest_keeps arguments
    · split
      · exact ⟨rfl, rfl⟩
      · split
        · unfold takePageAddress
          split <;> exact ⟨rfl, rfl⟩
        · split
          · exact takeFrame_keeps arguments
          · split <;> exact ⟨rfl, rfl⟩

end Take

/-- A write at the bootloader's own address is a command. -/
theorem answerWrite_own {address : UInt8} (own : address = b.address) (bytes : List UInt8) :
    b.answerWrite address bytes =
      ((b.take bytes).1, { (b.take bytes).2 with
        log := b.log.push (.write address bytes (b.take bytes).1) }) := by
  rw [answerWrite, if_pos own, ← log_take bytes]

/-- A write at another address is logged. -/
theorem answerWrite_elsewhere {address : UInt8} (elsewhere : address ≠ b.address)
    (bytes : List UInt8) :
    b.answerWrite address bytes =
      (.addressNack, { b with log := b.log.push (.write address bytes .addressNack) }) := by
  rw [answerWrite, if_neg elsewhere]

/-- A command is received, and nothing else is. -/
theorem writes_answerWrite (address : UInt8) (bytes : List UInt8) :
    (b.answerWrite address bytes).2.writes =
      b.writes ++ if address = b.address then [bytes] else [] := by
  by_cases own : address = b.address
  · rw [answerWrite_own own, if_pos own]
    simp [writes, List.filterMap_append, (take_keeps bytes).address, own]
  · rw [answerWrite_elsewhere own, if_neg own]
    simp [writes, own]

theorem writes_answerRead (address : UInt8) (length : Nat) :
    (b.answerRead address length).2.writes = b.writes := by
  simp only [writes, answerRead, Array.toList_push, List.filterMap_append, List.filterMap_cons,
    List.filterMap_nil, List.append_nil]
  rfl

/-- What is asked of others is not received. -/
theorem writes_partner_foreign {request : Bus.Request}
    (foreign : request.isForeign b.address = true) :
    (partner request b).2.writes = b.writes := by
  have written {address : UInt8} (elsewhere : address ≠ b.address) (bytes : List UInt8) :
      (b.answerWrite address bytes).2.writes = b.writes := by
    rw [writes_answerWrite, if_neg elsewhere, List.append_nil]
  cases request with
  | write address bytes => exact written (by simpa using foreign) bytes
  | hold address bytes => exact written (by simpa using foreign) bytes
  | read address length => exact writes_answerRead address length
  | wait => rfl
  | tell => rfl

/-- What is received does not depend on what the bootloader knows. -/
theorem writes_partner_congr {b' : Bootloader} (address : b'.address = b.address)
    (received : b'.writes = b.writes) (request : Bus.Request) :
    (partner request b').2.writes = (partner request b).2.writes := by
  have written (target : UInt8) (bytes : List UInt8) :
      (b'.answerWrite target bytes).2.writes = (b.answerWrite target bytes).2.writes := by
    rw [writes_answerWrite, writes_answerWrite, address, received]
  cases request with
  | write target bytes => exact written target bytes
  | hold target bytes => exact written target bytes
  | read target length =>
    change (b'.answerRead target length).2.writes = (b.answerRead target length).2.writes
    rw [writes_answerRead, writes_answerRead, received]
  | wait => exact received
  | tell => exact received

theorem partner_keeps (request : Bus.Request) : b.Keeps (partner request b).2 := by
  have written (address : UInt8) (bytes : List UInt8) :
      b.Keeps (b.answerWrite address bytes).2 := by
    by_cases own : address = b.address
    · rw [answerWrite_own own]
      exact ⟨(take_keeps bytes).address, (take_keeps bytes).format⟩
    · rw [answerWrite_elsewhere own]
      exact ⟨rfl, rfl⟩
  cases request with
  | write address bytes => exact written address bytes
  | hold address bytes => exact written address bytes
  | read => exact ⟨rfl, rfl⟩
  | wait => exact ⟨rfl, rfl⟩
  | tell => exact ⟨rfl, rfl⟩

theorem converse_keeps (requests : List Bus.Request) : b.Keeps (b.converse requests).2 := by
  induction requests generalizing b with
  | nil => exact ⟨rfl, rfl⟩
  | cons request rest ih =>
    have first := partner_keeps (b := b) request
    have later := @ih (partner request b).2
    exact ⟨later.address.trans first.address, later.format.trans first.format⟩

/-! ## Two runs -/

/-- A write replaces the answer that waits if it asks the bootloader for a report. -/
def replaces? (b : Bootloader) (address : UInt8) (bytes : List UInt8) (status : Transmission) :
    Option Bool :=
  if address = b.address ∧ b.Reported bytes status then some false else none

/-- What an exchange does to an answer that waits: a read at another address drops it, a read at the
bootloader's own takes it, and a question for a report puts another in its place. -/
def drops? (b : Bootloader) : Exchange Bus.vocabulary → Option Bool
  | ⟨.read address _, _⟩ => some (decide (address ≠ b.address))
  | ⟨.write address bytes, status⟩ => b.replaces? address bytes status
  | ⟨.hold address bytes, status⟩ => b.replaces? address bytes status
  | ⟨.wait _, _⟩ => none
  | ⟨.tell _, _⟩ => none

/-- The last read or question was a read at another address. -/
def dropped (b : Bootloader) (talk : Bus.Talk) : Bool :=
  (lastSaid? b.drops? talk).getD false

theorem dropped_concat (talk : Bus.Talk) (e : Exchange Bus.vocabulary) :
    b.dropped (talk ++ [e]) = (b.drops? e).getD (b.dropped talk) := by
  unfold dropped
  rw [lastSaid?_append, lastSaid?_singleton]
  cases b.drops? e <;> rfl

/-- A read gets nothing if nothing waits, or if nothing is asked for. -/
theorem answerRead_eq_nothing_iff {length : Nat} :
    (b.answerRead b.address length).1 = .ofList length [] ↔ length = 0 ∨ b.pending = none := by
  rcases waits : b.pending with _ | ⟨version, low, high⟩
  · simp [answerRead, waits]
  · cases length <;> simp [answerRead, waits, Delivery.ofList]

/-- The one bootloader is the other one, but for its log, and for its answer if that was dropped. -/
def Shadows (lost : Bool) (loud quiet : Bootloader) : Prop :=
  ∃ log, loud = quiet.recalling log (if lost then none else quiet.pending)

namespace Shadows
variable {request : Bus.Request} {address : UInt8}

theorem logged (h : Shadows lost loud quiet) (log log' : Array LoggedTransaction) :
    Shadows lost { loud with log } { quiet with log := log' } := by
  obtain ⟨-, rfl⟩ := h
  exact ⟨log, rfl⟩

theorem address_eq (h : Shadows lost loud quiet) : loud.address = quiet.address := by
  obtain ⟨-, rfl⟩ := h
  rfl

theorem take (h : Shadows lost loud quiet) (bytes : List UInt8) :
    (loud.take bytes).1 = (quiet.take bytes).1 ∧
      Shadows (if quiet.Reported bytes (quiet.take bytes).1 then false else lost)
        (loud.take bytes).2 (quiet.take bytes).2 := by
  obtain ⟨log, rfl⟩ := h
  rw [take_recalling]
  refine ⟨rfl, log, ?_⟩
  by_cases reported : quiet.Reported bytes (quiet.take bytes).1
  · simp only [if_pos reported, Bool.false_eq_true, if_false]
  · simp only [if_neg reported, pending_take bytes reported]

theorem answerWrite_own (h : Shadows lost loud quiet) (own : address = quiet.address)
    (bytes : List UInt8) :
    (loud.answerWrite address bytes).1 = (quiet.answerWrite address bytes).1 ∧
      Shadows (if quiet.Reported bytes (loud.answerWrite address bytes).1 then false else lost)
        (loud.answerWrite address bytes).2 (quiet.answerWrite address bytes).2 := by
  obtain ⟨status, after⟩ := h.take bytes
  rw [Bootloader.answerWrite_own own, Bootloader.answerWrite_own (own.trans h.address_eq.symm)]
  refine ⟨status, ?_⟩
  simp only [status]
  exact after.logged _ _

theorem answerWrite_elsewhere (h : Shadows lost loud quiet)
    (elsewhere : address ≠ quiet.address) (bytes : List UInt8) :
    (loud.answerWrite address bytes).1 = .addressNack ∧
      Shadows lost (loud.answerWrite address bytes).2 quiet := by
  rw [Bootloader.answerWrite_elsewhere (h.address_eq ▸ elsewhere)]
  exact ⟨rfl, h.logged _ quiet.log⟩

/-- An answer that was dropped is missed by the read that would have taken it. -/
theorem answerRead (h : Shadows lost loud quiet) (address : UInt8) (length : Nat) :
    (loud.answerRead address length).1 =
        (if lost then .ofList length [] else (quiet.answerRead address length).1) ∧
      Shadows false (loud.answerRead address length).2 (quiet.answerRead address length).2 := by
  obtain ⟨log, rfl⟩ := h
  refine ⟨?_, _, rfl⟩
  cases lost <;> rfl

theorem answerRead_elsewhere (h : Shadows lost loud quiet) (elsewhere : address ≠ quiet.address)
    (length : Nat) :
    (loud.answerRead address length).1.bytes = [] ∧
      Shadows true (loud.answerRead address length).2 quiet := by
  obtain ⟨log, rfl⟩ := h
  refine ⟨?_, _, rfl⟩
  simp only [Bootloader.answerRead]
  split
  · rw [if_neg (by simpa [recalling] using elsewhere)]
    exact List.take_nil
  · exact List.take_nil

/-- Whether an answer was dropped shows only when it is asked for. -/
theorem partner_reply_iff (h : Shadows lost loud quiet)
    (own : request.isForeign quiet.address = false) :
    (partner request loud).1 = (partner request quiet).1 ↔
      ∀ length, request = .read quiet.address length → lost = true →
        length = 0 ∨ quiet.pending = none := by
  cases request with
  | write address bytes => exact iff_of_true (h.answerWrite_own (by simpa using own) bytes).1 nofun
  | hold address bytes => exact iff_of_true (h.answerWrite_own (by simpa using own) bytes).1 nofun
  | read address length =>
    obtain rfl : address = quiet.address := by simpa using own
    change (loud.answerRead _ length).1 = (quiet.answerRead _ length).1 ↔ _
    rw [(h.answerRead _ length).1]
    cases lost with
    | false => exact iff_of_true rfl nofun
    | true =>
      rw [if_pos rfl, eq_comm, answerRead_eq_nothing_iff]
      constructor
      · rintro nothing length' ⟨⟩ -
        exact nothing
      · intro spared
        exact spared length rfl rfl
  | wait => exact iff_of_true rfl nofun
  | tell => exact iff_of_true rfl nofun

/-- Something that is asked in both runs. -/
theorem partner_own (h : Shadows lost loud quiet) (own : request.isForeign quiet.address = false) :
    Shadows ((quiet.drops? ⟨request, (partner request loud).1⟩).getD lost)
      (partner request loud).2 (partner request quiet).2 := by
  have written {address : UInt8} (own : address = quiet.address) (bytes : List UInt8) :
      Shadows ((quiet.replaces? address bytes (loud.answerWrite address bytes).1).getD lost)
        (loud.answerWrite address bytes).2 (quiet.answerWrite address bytes).2 := by
    have after := (h.answerWrite_own own bytes).2
    by_cases reported : quiet.Reported bytes (loud.answerWrite address bytes).1
    · rw [if_pos reported] at after
      rw [replaces?, if_pos ⟨own, reported⟩]
      exact after
    · rw [if_neg reported] at after
      rw [replaces?, if_neg fun both => reported both.2]
      exact after
  cases request with
  | write address bytes => exact written (by simpa using own) bytes
  | hold address bytes => exact written (by simpa using own) bytes
  | read address length =>
    have taken : address = quiet.address := by simpa using own
    change Shadows (decide (address ≠ quiet.address)) (loud.answerRead address length).2 _
    rw [decide_eq_false (not_not_intro taken)]
    exact (h.answerRead _ length).2
  | wait nanoseconds =>
    obtain ⟨log, rfl⟩ := h
    exact ⟨log, rfl⟩
  | tell note => exact h

/-- Something that is left out of the quiet run. -/
theorem partner_foreign (h : Shadows lost loud quiet)
    (foreign : request.isForeign quiet.address = true) :
    Shadows ((quiet.drops? ⟨request, (partner request loud).1⟩).getD lost)
      (partner request loud).2 quiet := by
  have written {address : UInt8} (elsewhere : address ≠ quiet.address) (bytes : List UInt8) :
      Shadows ((quiet.replaces? address bytes (loud.answerWrite address bytes).1).getD lost)
        (loud.answerWrite address bytes).2 quiet := by
    rw [replaces?, if_neg fun both => elsewhere both.1]
    exact (h.answerWrite_elsewhere elsewhere bytes).2
  cases request with
  | write address bytes => exact written (by simpa using foreign) bytes
  | hold address bytes => exact written (by simpa using foreign) bytes
  | read address length =>
    have elsewhere : address ≠ quiet.address := by simpa using foreign
    change Shadows (decide (address ≠ quiet.address)) (loud.answerRead address length).2 _
    rw [decide_eq_true elsewhere]
    exact (h.answerRead_elsewhere elsewhere length).2
  | wait => cases foreign
  | tell => cases foreign

end Shadows

/-! ## Runs with and without the requests for others -/

/-- What is left of some requests without those for other addresses. -/
def ownRequests (b : Bootloader) (requests : List Bus.Request) : List Bus.Request :=
  requests.filter fun request => !request.isForeign b.address

/-- What is left of some talk without the requests for other addresses. -/
def ownTalk (b : Bootloader) (talk : Bus.Talk) : Bus.Talk :=
  talk.filter fun e => !e.request.isForeign b.address

section Runs
variable {requests : List Bus.Request} {request : Bus.Request}

theorem Keeps.drops?_eq {after : Bootloader} (h : b.Keeps after) : after.drops? = b.drops? := by
  have reported : after.Reported = b.Reported := by
    unfold Reported
    rw [h.format]
  funext e
  simp only [drops?, replaces?, h.address, reported]

theorem ownRequests_foreign (foreign : request.isForeign b.address = true) :
    b.ownRequests (requests ++ [request]) = b.ownRequests requests := by
  simp [ownRequests, foreign]

theorem ownRequests_own (own : request.isForeign b.address = false) :
    b.ownRequests (requests ++ [request]) = b.ownRequests requests ++ [request] := by
  simp [ownRequests, own]

/-- **The two runs differ by no more than a dropped answer.** The induction is on the requests, from
the last one backwards. -/
theorem shadows_converse (b : Bootloader) (requests : List Bus.Request) :
    Shadows (b.dropped (b.converse requests).1) (b.converse requests).2
      (b.converse (b.ownRequests requests)).2 := by
  induction requests using List.reverseRecOn with
  | nil => exact ⟨b.log, rfl⟩
  | append_singleton before request ih =>
    have keeps := b.converse_keeps (b.ownRequests before)
    rw [converse_concat, dropped_concat, ← keeps.drops?_eq]
    by_cases foreign : request.isForeign b.address = true
    · rw [ownRequests_foreign foreign]
      rw [← keeps.address] at foreign
      exact ih.partner_foreign foreign
    · rw [Bool.not_eq_true] at foreign
      rw [ownRequests_own foreign, converse_concat]
      rw [← keeps.address] at foreign
      exact ih.partner_own foreign

theorem writes_converse (b : Bootloader) (requests : List Bus.Request) :
    (b.converse requests).2.writes = (b.converse (b.ownRequests requests)).2.writes := by
  induction requests using List.reverseRecOn with
  | nil => rfl
  | append_singleton before request ih =>
    have address := (b.converse_keeps before).address
    rw [converse_concat]
    by_cases foreign : request.isForeign b.address = true
    · rw [ownRequests_foreign foreign, ← ih]
      exact writes_partner_foreign (address ▸ foreign)
    · rw [Bool.not_eq_true] at foreign
      rw [ownRequests_own foreign, converse_concat]
      exact writes_partner_congr (address.trans (b.converse_keeps _).address.symm) ih request

/-- How others' requests are answered: a write is not acknowledged, a read gets nothing. -/
def Refused : Exchange Bus.vocabulary → Prop
  | ⟨.write _ _, status⟩ => status = Transmission.addressNack
  | ⟨.hold _ _, status⟩ => status = Transmission.addressNack
  | ⟨.read _ _, delivery⟩ => delivery.bytes = []
  | ⟨.wait _, _⟩ => True
  | ⟨.tell _, _⟩ => True

theorem refused_partner (foreign : request.isForeign b.address = true) :
    Refused ⟨request, (partner request b).1⟩ := by
  have shadows : Shadows false b b := ⟨b.log, rfl⟩
  cases request with
  | write address bytes => exact (shadows.answerWrite_elsewhere (by simpa using foreign) bytes).1
  | hold address bytes => exact (shadows.answerWrite_elsewhere (by simpa using foreign) bytes).1
  | read address length => exact (shadows.answerRead_elsewhere (by simpa using foreign) length).1
  | wait => trivial
  | tell => trivial

theorem refused_converse (b : Bootloader) (requests : List Bus.Request) :
    ∀ e ∈ (b.converse requests).1, e.request.isForeign b.address = true → Refused e := by
  induction requests generalizing b with
  | nil => nofun
  | cons request rest ih =>
    rw [converse, List.forall_mem_cons]
    refine ⟨refused_partner, fun e member foreign => ih _ e member ?_⟩
    rw [(b.partner_keeps request).address]
    exact foreign

/-- The requests for other addresses make no difference, neither to the answers nor to the
bootloader, but for its log. -/
structure Unaffected (b : Bootloader) (requests : List Bus.Request) : Prop where
  replies : b.ownTalk (b.converse requests).1 = (b.converse (b.ownRequests requests)).1
  state : (b.converse requests).2 =
    { (b.converse (b.ownRequests requests)).2 with log := (b.converse requests).2.log }
  received : (b.converse requests).2.writes = (b.converse (b.ownRequests requests)).2.writes

/-- No answer is missed: a read that comes after one was dropped asks for nothing, or would have got
nothing. -/
def Spared (b : Bootloader) (requests : List Bus.Request) : Prop :=
  ∀ before length, before ++ [.read b.address length] <+: requests →
    b.dropped (b.converse before).1 = true →
      length = 0 ∨ (b.converse (b.ownRequests before)).2.pending = none

theorem spared_concat :
    b.Spared (requests ++ [request]) ↔ b.Spared requests ∧
      ∀ length, request = .read b.address length → b.dropped (b.converse requests).1 = true →
        length = 0 ∨ (b.converse (b.ownRequests requests)).2.pending = none := by
  constructor
  · intro spared
    constructor
    · intro before length within
      exact spared before length (within.trans (List.prefix_append _ _))
    · rintro length rfl
      exact spared requests length List.prefix_rfl
  · rintro ⟨earlier, last⟩ before length within
    rcases List.prefix_concat_iff.mp within with whole | within
    · obtain ⟨rfl, same⟩ := List.append_inj' whole rfl
      exact last length (List.singleton_inj.mp same).symm
    · exact earlier before length within

theorem ownTalk_concat (talk : Bus.Talk) (e : Exchange Bus.vocabulary) :
    b.ownTalk (talk ++ [e]) =
      b.ownTalk talk ++ if e.request.isForeign b.address = true then [] else [e] := by
  unfold ownTalk
  rw [List.filter_append]
  cases foreign : e.request.isForeign b.address <;> simp [foreign]

/-- The answers are the same exactly if none is missed. -/
theorem replies_iff_spared (b : Bootloader) (requests : List Bus.Request) :
    b.ownTalk (b.converse requests).1 = (b.converse (b.ownRequests requests)).1 ↔
      b.Spared requests := by
  induction requests using List.reverseRecOn with
  | nil => exact iff_of_true rfl fun before length within => by simp at within
  | append_singleton before request ih =>
    rw [converse_concat, spared_concat, ownTalk_concat, ← ih]
    by_cases foreign : request.isForeign b.address = true
    · -- nothing is added to the quiet run, and the request is no read of the bootloader's own
      rw [ownRequests_foreign foreign, if_pos foreign, List.append_nil]
      refine (and_iff_left ?_).symm
      rintro length rfl
      simp at foreign
    · rw [if_neg foreign]
      rw [Bool.not_eq_true] at foreign
      have address := (b.converse_keeps (b.ownRequests before)).address
      have here := (shadows_converse b before).partner_reply_iff (address.symm ▸ foreign)
      rw [address] at here
      rw [ownRequests_own foreign, converse_concat]
      constructor
      · intro same
        obtain ⟨talk, last⟩ := List.append_inj' same rfl
        injection List.singleton_inj.mp last with _ reply
        exact ⟨talk, here.mp reply⟩
      · rintro ⟨talk, spared⟩
        rw [talk, here.mpr spared]

/-- What a bootloader makes of the requests for other addresses. -/
structure Overhears (b : Bootloader) (requests : List Bus.Request) : Prop where
  /-- Nobody answers them. -/
  refused : ∀ e ∈ (b.converse requests).1, e.request.isForeign b.address = true → Refused e
  /-- Of all that the bootloader keeps they can drop the answer that waits. -/
  state : (b.converse requests).2 =
    { (b.converse (b.ownRequests requests)).2 with
      log := (b.converse requests).2.log
      pending := if b.dropped (b.converse requests).1 then none
        else (b.converse (b.ownRequests requests)).2.pending }
  /-- They are not received. -/
  received : (b.converse requests).2.writes = (b.converse (b.ownRequests requests)).2.writes
  /-- The next answer is the same without them, unless it is the one that was dropped. -/
  next_iff : ∀ request, request.isForeign b.address = false →
    ((partner request (b.converse requests).2).1 =
        (partner request (b.converse (b.ownRequests requests)).2).1 ↔
      ∀ length, request = .read b.address length → b.dropped (b.converse requests).1 = true →
        length = 0 ∨ (b.converse (b.ownRequests requests)).2.pending = none)
  /-- In place of an answer that was dropped comes nothing. -/
  missed : ∀ length, b.dropped (b.converse requests).1 = true →
    ((b.converse requests).2.answerRead b.address length).1.bytes = []
  /-- They make no difference exactly if no answer is missed and none is missing in the end. -/
  unaffected_iff : b.Unaffected requests ↔ b.Spared requests ∧
    (b.dropped (b.converse requests).1 = true →
      (b.converse (b.ownRequests requests)).2.pending = none)

/-- **Writes to other addresses make no difference, and reads there drop the answer that waits**,
which is all that they do. -/
theorem overhears (b : Bootloader) (requests : List Bus.Request) : b.Overhears requests := by
  have shadows := shadows_converse b requests
  have address := (b.converse_keeps (b.ownRequests requests)).address
  have state : (b.converse requests).2 =
      { (b.converse (b.ownRequests requests)).2 with
        log := (b.converse requests).2.log
        pending := if b.dropped (b.converse requests).1 then none
          else (b.converse (b.ownRequests requests)).2.pending } := by
    obtain ⟨log, same⟩ := shadows
    rw [same]
    rfl
  have received := writes_converse b requests
  refine ⟨refused_converse b requests, state, received, ?_, ?_, ?_⟩
  · intro request own
    have here := shadows.partner_reply_iff (address.symm ▸ own)
    rw [address] at here
    exact here
  · intro length lost
    have missed := (shadows.answerRead b.address length).1
    rw [if_pos lost] at missed
    rw [missed]
    exact List.take_nil
  · constructor
    · rintro ⟨replies, same, -⟩
      refine ⟨(replies_iff_spared b requests).mp replies, fun lost => ?_⟩
      have pending := congrArg Bootloader.pending same
      rw [state, if_pos lost] at pending
      exact pending.symm
    · rintro ⟨spared, nothing⟩
      refine ⟨(replies_iff_spared b requests).mpr spared, ?_, received⟩
      have pending : (if b.dropped (b.converse requests).1 then none
          else (b.converse (b.ownRequests requests)).2.pending) =
          (b.converse (b.ownRequests requests)).2.pending := by
        split
        · exact (nothing ‹_›).symm
        · rfl
      rw [pending] at state
      exact state

/-- How many bytes each read delivered. -/
def delivered (talk : Bus.Talk) : List Nat :=
  talk.filterMap fun
    | ⟨.read _ _, delivery⟩ => some delivery.bytes.length
    | _ => none

/-- A report is asked for, something is read from another address, and the report is missed. -/
theorem report_missed :
    let requests : List Bus.Request := [.write 0x50 [6, 0, 0, 1, 0], .read 0x58 3, .read 0x50 3]
    newDevice.ownRequests requests = [.write 0x50 [6, 0, 0, 1, 0], .read 0x50 3] ∧
      delivered (newDevice.converse requests).1 = [0, 0] ∧
      delivered (newDevice.converse (newDevice.ownRequests requests)).1 = [3] ∧
      ¬newDevice.Unaffected requests := by
  intro requests
  have loud : delivered (newDevice.converse requests).1 = [0, 0] := by decide +kernel
  have quiet : delivered (newDevice.converse (newDevice.ownRequests requests)).1 = [3] := by
    decide +kernel
  refine ⟨by decide +kernel, loud, quiet, fun unaffected => ?_⟩
  have replies := congrArg delivered unaffected.replies
  rw [quiet] at replies
  have own : delivered (newDevice.ownTalk (newDevice.converse requests).1) = [0] := by
    decide +kernel
  rw [own] at replies
  cases replies

end Runs

end Firmware.Bootloader
end SplitBoard

import SplitBoard.Proofs.Conduct
import SplitBoard.Proofs.UpdateSteps
import SplitBoard.TwoWire.Master

/-!
# Who holds the bus

A start takes the bus and a stop releases it.  **Whatever the unit shows, every
transaction releases the bus in the end, except a write that was to keep it and
went well** (`Conducts`), so the bus is held exactly behind such a write
(`held_iff_kept`).

An update keeps the bus when it asks for a report, and only there.  The read that
takes the answer comes next (`settled_askReport`), so an update releases the bus
however it ends.
-/

namespace SplitBoard

namespace TwoWire

open Dialogue

/-- What was done to the registers. -/
abbrev Accesses : Type := List (Exchange vocabulary)

/-! ## The control register -/

/-- The control value that starts a step with further bits. -/
def command (bits : UInt8) : UInt8 :=
  Control.flag ||| Control.enable ||| bits

/-- The value that is written to the control register. -/
def control? : Exchange vocabulary → Option UInt8
  | ⟨.write .control value, _⟩ => some value
  | _ => none

/-- What a control value does to the bus: a stop releases it, a start takes it. -/
def claim? (control : UInt8) : Option Bool :=
  if control &&& Control.stop ≠ 0 then some false
  else if control &&& Control.start ≠ 0 then some true
  else none

/-- What an access does to the bus. -/
def claims? (e : Exchange vocabulary) : Option Bool :=
  (control? e).bind claim?

/-- A start was requested, and no stop since. -/
def Held (said : Accesses) : Prop :=
  lastSaid? claims? said = some true

/-- Nothing was done to the bus. -/
def Quiet (said : Accesses) : Prop :=
  ∀ e ∈ said, claims? e = none

/-- A start is requested. -/
def startAccess : Exchange vocabulary := ⟨.write .control (command Control.start), ()⟩

/-- A stop is requested. -/
def stopAccess : Exchange vocabulary := ⟨.write .control (command Control.stop), ()⟩

/-- What the master does to the bus in one transaction, and whether it keeps the bus. -/
inductive Conducts : Accesses → Bool → Prop where
  /-- Nothing was asked for. -/
  | unasked : Conducts [stopAccess] false
  | released {rest : Accesses} (quiet : Quiet rest) :
      Conducts (startAccess :: (rest ++ [stopAccess])) false
  | kept {rest : Accesses} (quiet : Quiet rest) : Conducts (startAccess :: rest) true

section Conducts
variable {said first second : Accesses} {kept : Bool}

theorem quiet_nil : Quiet [] := nofun

theorem quiet_cons {e : Exchange vocabulary} : Quiet (e :: said) ↔ claims? e = none ∧ Quiet said :=
  List.forall_mem_cons

theorem quiet_append : Quiet (first ++ second) ↔ Quiet first ∧ Quiet second :=
  List.forall_mem_append

theorem Quiet.lastSaid?_eq_none (h : Quiet said) : lastSaid? claims? said = none :=
  List.findSome?_eq_none_iff.mpr fun e member => h e (List.mem_reverse.mp member)

/-- The last that a transaction does to the bus is to release it, or to take it. -/
theorem Conducts.lastSaid?_eq (h : Conducts said kept) : lastSaid? claims? said = some kept := by
  cases h with
  | unasked => rfl
  | @released rest quiet =>
    change lastSaid? claims? ([startAccess] ++ rest ++ [stopAccess]) = _
    rw [lastSaid?_append]
    rfl
  | @kept rest quiet =>
    change lastSaid? claims? ([startAccess] ++ rest) = _
    rw [lastSaid?_append, quiet.lastSaid?_eq_none]
    rfl

/-- A transaction that does not keep the bus ends with a stop. -/
theorem Conducts.lastControl?_eq (h : Conducts said false) :
    lastSaid? control? said = some (command Control.stop) := by
  cases h with
  | unasked => rfl
  | @released rest quiet =>
    change lastSaid? control? ([startAccess] ++ rest ++ [stopAccess]) = _
    rw [lastSaid?_append]
    rfl

theorem claims?_of_start {control : UInt8} (start : control &&& Control.start ≠ 0) :
    claims? ⟨.write .control control, ()⟩ ≠ none := by
  change claim? control ≠ none
  unfold claim?
  split
  · nofun
  · simp

/-- A start is the first thing that a transaction does. -/
theorem Conducts.start_first (h : Conducts said kept) {earlier later : Accesses} {control : UInt8}
    (split : said = earlier ++ ⟨.write .control control, ()⟩ :: later)
    (start : control &&& Control.start ≠ 0) : earlier = [] := by
  have claims := claims?_of_start start
  have noStop : control ≠ command Control.stop := by
    rintro rfl
    exact start (by decide)
  have here : ⟨.write .control control, ()⟩ ∈ earlier ++ ⟨.write .control control, ()⟩ :: later :=
    List.mem_append_right _ List.mem_cons_self
  rcases earlier with _ | ⟨first, earlier⟩
  · rfl
  -- behind the first access there is only what is quiet, and a stop
  exfalso
  cases h with
  | unasked =>
    obtain ⟨-, nothing⟩ := List.cons.inj split
    simp at nothing
  | @released rest quiet =>
    obtain ⟨-, split⟩ := List.cons.inj split
    have member : ⟨.write .control control, ()⟩ ∈ rest ++ [stopAccess] := by
      rw [split]
      exact List.mem_append_right _ List.mem_cons_self
    rcases List.mem_append.mp member with inside | last
    · exact claims (quiet _ inside)
    · have same := List.mem_singleton.mp last
      injection same with same
      injection same with _ same
      exact noStop same
  | @kept rest quiet =>
    obtain ⟨-, split⟩ := List.cons.inj split
    refine claims (quiet _ ?_)
    rw [split]
    exact List.mem_append_right _ List.mem_cons_self

end Conducts

/-! ## The steps of a transaction -/

section Steps
variable {α β : Type} {said : Accesses}

/-- Whatever the unit shows, the work does nothing to the bus. -/
def Silent (work : Registers α) : Prop :=
  ∀ said a, Plays work said a → Quiet said

theorem silent_done (a : α) : Silent (done a : Registers α) := by
  intro said b h
  obtain ⟨rfl, -⟩ := plays_done_iff.mp h
  exact quiet_nil

theorem silent_read (register : Register) : Silent (readRegister register) := by
  intro said b h
  obtain ⟨reply, rest, rfl, answered⟩ := plays_ask_iff.mp h
  obtain ⟨rfl, -⟩ := plays_done_iff.mp answered
  exact quiet_cons.mpr ⟨rfl, quiet_nil⟩

theorem Silent.bind {work : Registers α} {next : α → Registers β} (h : Silent work)
    (later : ∀ a, Silent (next a)) : Silent (work.bind next) := by
  intro said b plays
  obtain ⟨first, second, a, rfl, before, after⟩ := plays_bind_iff.mp plays
  exact quiet_append.mpr ⟨h _ _ before, later a _ _ after⟩

theorem Silent.ite {c : Prop} [Decidable c] {work other : Registers α} (h : Silent work)
    (h' : Silent other) : Silent (if c then work else other) := by
  split
  · exact h
  · exact h'

theorem silent_awaitFlag (looks : Nat) : Silent (awaitFlag looks) := by
  induction looks with
  | zero => exact silent_done _
  | succ looks ih =>
    exact (silent_read .control).bind fun control => (silent_done _).ite ih

theorem step_eq (bits : UInt8) :
    step bits = .ask (.write .control (command bits)) fun _ =>
      (awaitFlag patience).bind fun seen =>
      if seen then (readRegister .status).bind fun status => .done (some (status &&& Status.mask))
      else .done none := rfl

/-- A step begins with its control value, and then the unit is only looked at. -/
theorem plays_step {bits : UInt8} {status : Option UInt8} (h : Plays (step bits) said status) :
    ∃ rest, said = ⟨.write .control (command bits), ()⟩ :: rest ∧ Quiet rest := by
  rw [step_eq] at h
  obtain ⟨⟨⟩, rest, rfl, looks⟩ := plays_ask_iff.mp h
  refine ⟨rest, rfl, ?_⟩
  obtain ⟨first, second, seen, rfl, waits, reads⟩ := plays_bind_iff.mp looks
  refine quiet_append.mpr ⟨silent_awaitFlag _ _ _ waits, ?_⟩
  cases seen with
  | false => exact silent_done _ _ _ reads
  | true => exact (silent_read _).bind (fun _ => silent_done _) _ _ reads

theorem silent_step {bits : UInt8} (idle : claim? (command bits) = none) : Silent (step bits) := by
  intro said status h
  obtain ⟨rest, rfl, quiet⟩ := plays_step h
  exact quiet_cons.mpr ⟨idle, quiet⟩

theorem silent_sendByte (byte : UInt8) : Silent (sendByte byte) := by
  intro said status h
  obtain ⟨⟨⟩, rest, rfl, sends⟩ := plays_ask_iff.mp h
  exact quiet_cons.mpr ⟨rfl, silent_step (by decide) _ _ sends⟩

theorem silent_receiveByte (acknowledge : Bool) : Silent (receiveByte acknowledge) := by
  have idle : claim? (command (if acknowledge then Control.acknowledge else 0)) = none := by
    cases acknowledge <;> decide
  exact (silent_step idle).bind fun status =>
    ((silent_read .data).bind fun _ => silent_done _).ite (silent_done _)

theorem silent_sendBytes (bytes : List UInt8) : Silent (sendBytes bytes) := by
  induction bytes with
  | nil => exact silent_done _
  | cons byte rest ih =>
    exact (silent_sendByte byte).bind fun status =>
      ih.ite ((silent_done _).ite (silent_done _))

/-- The induction is on the bytes that are left, whatever was received before. -/
theorem silent_receiveBytes (received : List UInt8) (left : Nat) :
    Silent (receiveBytes received left) := by
  induction left generalizing received with
  | zero => exact silent_done _
  | succ left ih =>
    refine (silent_receiveByte _).bind fun byte? => ?_
    cases byte? with
    | none => exact silent_done _
    | some byte => exact ih _

theorem plays_sendStart {ok : Bool} (h : Plays sendStart said ok) :
    ∃ rest, said = startAccess :: rest ∧ Quiet rest := by
  obtain ⟨first, second, status, rfl, starts, judged⟩ := plays_bind_iff.mp h
  obtain ⟨rest, rfl, quiet⟩ := plays_step starts
  exact ⟨rest ++ second, rfl, quiet_append.mpr ⟨quiet, silent_done _ _ _ judged⟩⟩

/-- After the start the bus is left as it is. -/
theorem plays_transmit {address : UInt8} {bytes : List UInt8} {status : Transmission}
    (h : Plays (transmit address bytes) said status) :
    ∃ rest, said = startAccess :: rest ∧ Quiet rest := by
  obtain ⟨first, second, ok, rfl, starts, sends⟩ := plays_bind_iff.mp h
  obtain ⟨rest, rfl, quiet⟩ := plays_sendStart starts
  refine ⟨rest ++ second, rfl, quiet_append.mpr ⟨quiet, ?_⟩⟩
  cases ok with
  | false => exact silent_done _ _ _ sends
  | true =>
    refine (silent_sendByte _).bind (fun addressed => ?_) _ _ sends
    exact (silent_sendBytes bytes).ite ((silent_done _).ite (silent_done _))

/-- A read of nothing asks for nothing. -/
theorem plays_receive {address : UInt8} {length : Nat} {delivery : Delivery length}
    (h : Plays (receive address length) said delivery) :
    said = [] ∨ ∃ rest, said = startAccess :: rest ∧ Quiet rest := by
  unfold receive at h
  split at h
  · obtain ⟨rfl, -⟩ := plays_done_iff.mp h
    exact .inl rfl
  · obtain ⟨first, second, ok, rfl, starts, receives⟩ := plays_bind_iff.mp h
    obtain ⟨rest, rfl, quiet⟩ := plays_sendStart starts
    refine .inr ⟨rest ++ second, rfl, quiet_append.mpr ⟨quiet, ?_⟩⟩
    cases ok with
    | false => exact silent_done _ _ _ receives
    | true =>
      refine (silent_sendByte _).bind (fun addressed => ?_) _ _ receives
      exact ((silent_receiveBytes [] length).bind fun _ => silent_done _).ite (silent_done _)

theorem plays_sendStop (h : Plays sendStop said ()) : said = [stopAccess] := by
  obtain ⟨⟨⟩, rest, rfl, stopped⟩ := plays_ask_iff.mp h
  obtain ⟨rfl, -⟩ := plays_done_iff.mp stopped
  rfl

end Steps

/-! ## Transactions -/

/-- Whether a request keeps the bus: only a write that was to keep it and went well does.  Pauses
and notes are no transactions. -/
def keeps? : Exchange Bus.vocabulary → Option Bool
  | ⟨.write .., _⟩ => some false
  | ⟨.hold .., status⟩ => some (decide (status = Transmission.complete))
  | ⟨.read .., _⟩ => some false
  | ⟨.wait _, _⟩ => none
  | ⟨.tell _, _⟩ => none

/-- The last transaction kept the bus. -/
def Kept (talk : Bus.Talk) : Prop :=
  lastSaid? keeps? talk = some true

/-- A request of the bus, its answer, and what was done to the registers meanwhile. -/
structure Call where
  exchange : Exchange Bus.vocabulary
  accesses : Accesses

/-- The master carried the request out like that, on any unit. -/
def Call.Played (call : Call) : Prop :=
  Plays (carryOut call.exchange.request) call.accesses call.exchange.reply

section Calls
variable {call : Call} {calls : List Call} {past said : Accesses}

/-- A stop behind other work. -/
theorem plays_stop_behind {α : Type} {work : Registers α} {a : α}
    (h : Plays (work.bind fun a => sendStop.bind fun _ => done a) said a) :
    ∃ first, said = first ++ [stopAccess] ∧ Plays work first a := by
  obtain ⟨first, second, a, rfl, before, ends⟩ := plays_bind_iff.mp h
  obtain ⟨stop, nothing, ⟨⟩, rfl, stops, returns⟩ := plays_bind_iff.mp ends
  obtain rfl := plays_sendStop stops
  obtain ⟨rfl, rfl⟩ := plays_done_iff.mp returns
  exact ⟨first, rfl, before⟩

/-- A write that is to keep the bus sends a stop if it went wrong, and only then. -/
theorem plays_hold {address : UInt8} {bytes : List UInt8} {status : Transmission}
    (h : Plays (hold address bytes) said status) :
    (status = .complete ∧ Plays (transmit address bytes) said status) ∨
      (status ≠ .complete ∧
        ∃ first, said = first ++ [stopAccess] ∧ Plays (transmit address bytes) first status) := by
  obtain ⟨first, second, status', rfl, transmits, ends⟩ := plays_bind_iff.mp h
  by_cases complete : status' = .complete
  · subst complete
    obtain ⟨rfl, rfl⟩ := plays_done_iff.mp (show Plays (done _) second _ from ends)
    rw [List.append_nil]
    exact .inl ⟨rfl, transmits⟩
  · have stopped : Plays (sendStop.bind fun _ => done status') second status := by
      cases status' with
      | complete => exact absurd rfl complete
      | _ => exact ends
    obtain ⟨stop, nothing, ⟨⟩, rfl, stops, returns⟩ := plays_bind_iff.mp stopped
    obtain rfl := plays_sendStop stops
    obtain ⟨rfl, rfl⟩ := plays_done_iff.mp returns
    exact .inr ⟨complete, first, rfl, transmits⟩

theorem conducts_write {address : UInt8} {bytes : List UInt8} {status : Transmission}
    (h : Plays (write address bytes) said status) : Conducts said false := by
  obtain ⟨first, rfl, transmits⟩ := plays_stop_behind h
  obtain ⟨rest, rfl, quiet⟩ := plays_transmit transmits
  exact .released quiet

theorem conducts_hold {address : UInt8} {bytes : List UInt8} {status : Transmission}
    (h : Plays (hold address bytes) said status) :
    Conducts said (decide (status = .complete)) := by
  rcases plays_hold h with ⟨complete, transmits⟩ | ⟨incomplete, first, rfl, transmits⟩
  · obtain ⟨rest, rfl, quiet⟩ := plays_transmit transmits
    rw [decide_eq_true complete]
    exact .kept quiet
  · obtain ⟨rest, rfl, quiet⟩ := plays_transmit transmits
    rw [decide_eq_false incomplete]
    exact .released quiet

theorem conducts_read {address : UInt8} {length : Nat} {delivery : Delivery length}
    (h : Plays (read address length) said delivery) : Conducts said false := by
  obtain ⟨first, rfl, receives⟩ := plays_stop_behind h
  rcases plays_receive receives with rfl | ⟨rest, rfl, quiet⟩
  · exact .unasked
  · exact .released quiet

/-- What a request does to the bus. -/
theorem Call.Played.conducts (h : call.Played) :
    match keeps? call.exchange with
    | none => call.accesses = []
    | some kept => Conducts call.accesses kept := by
  obtain ⟨⟨request, reply⟩, accesses⟩ := call
  cases request with
  | write => exact conducts_write h
  | hold => exact conducts_hold h
  | read => exact conducts_read h
  | wait => exact (plays_done_iff.mp h).1
  | tell => exact (plays_done_iff.mp h).1

/-- **A call takes the bus or releases it as its answer says.** -/
theorem Call.Played.lastSaid?_eq (h : call.Played) :
    lastSaid? claims? call.accesses = keeps? call.exchange := by
  have conducts := h.conducts
  rcases keeps : keeps? call.exchange with _ | kept
  · rw [keeps] at conducts
    rw [conducts]
    rfl
  · rw [keeps] at conducts
    exact conducts.lastSaid?_eq

theorem lastSaid?_calls (played : ∀ call ∈ calls, call.Played) :
    lastSaid? claims? (calls.flatMap Call.accesses) =
      lastSaid? keeps? (calls.map Call.exchange) := by
  induction calls with
  | nil => rfl
  | cons call calls ih =>
    obtain ⟨first, others⟩ := List.forall_mem_cons.mp played
    rw [List.flatMap_cons, List.map_cons, lastSaid?_append, lastSaid?_cons, ih others,
      first.lastSaid?_eq]

/-- **The bus is held exactly behind a write that kept it.** -/
theorem held_iff_kept (released : ¬Held past) (played : ∀ call ∈ calls, call.Played) :
    Held (past ++ calls.flatMap Call.accesses) ↔ Kept (calls.map Call.exchange) := by
  rw [Held, Kept, lastSaid?_append, lastSaid?_calls played]
  rcases lastSaid? keeps? (calls.map Call.exchange) with _ | kept
  · exact iff_of_false released nofun
  · exact Iff.rfl

/-- Work on the registers that comes from work on the bus is one call after the other. -/
theorem exists_calls_of_plays {α : Type} {work : Wire α} {a : α}
    (h : Plays (onRegisters work) said a) :
    ∃ calls : List Call, said = calls.flatMap Call.accesses ∧ (∀ call ∈ calls, call.Played) ∧
      Plays work (calls.map Call.exchange) a := by
  induction work generalizing said with
  | done a =>
    obtain ⟨rfl, rfl⟩ := plays_done_iff.mp h
    exact ⟨[], rfl, nofun, .done _⟩
  | ask request next ih =>
    obtain ⟨first, second, reply, rfl, carries, goesOn⟩ := plays_bind_iff.mp h
    obtain ⟨calls, rfl, played, plays⟩ := ih reply goesOn
    exact ⟨⟨⟨request, reply⟩, first⟩ :: calls, rfl, List.forall_mem_cons.mpr ⟨carries, played⟩,
      .ask reply plays⟩

end Calls
end TwoWire

/-! ## Updates -/

namespace Firmware

open Dialogue TwoWire

/-- Whatever the bus answers, the work does not end with the bus kept. -/
def Settled {α : Type} (work : Wire α) : Prop :=
  ∀ talk a, Plays work talk a → ¬Kept talk

section Settled
variable {α β : Type}

theorem settled_done (a : α) : Settled (done a : Wire α) := by
  intro talk b h
  obtain ⟨rfl, -⟩ := plays_done_iff.mp h
  nofun

/-- What comes later counts. -/
theorem not_kept_append {first second : Bus.Talk} (h : ¬Kept first) (h' : ¬Kept second) :
    ¬Kept (first ++ second) := by
  rw [Kept, lastSaid?_append, Option.or_eq_some_iff]
  rintro (kept | ⟨-, kept⟩)
  · exact h' kept
  · exact h kept

theorem Settled.bind {work : Wire α} {next : α → Wire β} (h : Settled work)
    (later : ∀ a, Settled (next a)) : Settled (work.bind next) := by
  intro talk b plays
  obtain ⟨first, second, a, rfl, before, after⟩ := plays_bind_iff.mp plays
  exact not_kept_append (h _ _ before) (later a _ _ after)

/-- A request that does not ask to keep the bus does not. -/
theorem settled_ask {request : Bus.Request} {next : request.Reply → Wire α}
    (mild : ∀ reply, keeps? ⟨request, reply⟩ ≠ some true) (later : ∀ reply, Settled (next reply)) :
    Settled (ask request next : Wire α) := by
  intro talk a plays
  obtain ⟨reply, rest, rfl, goesOn⟩ := plays_ask_iff.mp plays
  have here : ¬Kept [⟨request, reply⟩] := by
    rw [Kept, lastSaid?_singleton]
    exact mild reply
  exact not_kept_append here (later reply _ _ goesOn)

theorem Settled.ite {c : Prop} [Decidable c] {work other : Wire α} (h : Settled work)
    (h' : Settled other) : Settled (if c then work else other) := by
  split
  · exact h
  · exact h'

variable (address : UInt8) (format : FlashFormat) (image : Image)

/-- **The question keeps the bus, and the answer is read whenever it does.** -/
theorem settled_askReport : Settled (askReport address format image) := by
  rcases asked : reportRequest? format.commands image with _ | request
  · unfold askReport
    rw [asked]
    exact settled_done _
  · rw [askReport_eq _ _ _ asked]
    intro talk report plays
    obtain ⟨(status : Transmission), rest, rfl, goesOn⟩ := plays_ask_iff.mp plays
    by_cases complete : status = .complete
    · subst complete
      obtain ⟨⟨⟩, rest, rfl, reads⟩ := plays_ask_iff.mp (show Plays (ask _ _) rest _ from goesOn)
      obtain ⟨delivery, rest, rfl, ends⟩ := plays_ask_iff.mp reads
      obtain ⟨rfl, -⟩ := plays_done_iff.mp ends
      nofun
    · rw [if_neg (by simpa [Transmission.isComplete] using complete)] at goesOn
      obtain ⟨rfl, -⟩ := plays_done_iff.mp goesOn
      intro kept
      exact complete (by simpa [Kept, lastSaid?, keeps?] using kept)

theorem settled_askCrcRepeatedly (attempts : Nat) :
    Settled (askCrcRepeatedly address format image attempts) := by
  induction attempts with
  | zero => exact settled_done _
  | succ attempts ih =>
    rw [askCrcRepeatedly_succ]
    refine (settled_askReport address format image).bind fun report => ?_
    rcases report with _ | ⟨version, crc⟩
    · exact settled_ask nofun fun _ => ih
    · exact settled_done _

theorem settled_sendFrames (page : Nat) (offset : UInt16) (frames : List Nat) :
    Settled (ExceptT.run (sendFrames address format image page offset frames)) := by
  induction frames with
  | nil => exact settled_done _
  | cons frame rest ih =>
    rw [run_sendFrames_cons]
    refine settled_ask nofun fun (status : Transmission) => settled_ask nofun fun _ => ?_
    refine Settled.ite ?_ (settled_done _)
    exact settled_ask nofun fun _ => ih

theorem settled_sendPage (page : Nat) :
    Settled (ExceptT.run (sendPage address format image page)) := by
  rcases placed : image.pageOffset? page format.pageSize with _ | offset
  · unfold sendPage
    rw [placed]
    exact settled_done _
  · rw [run_sendPage _ _ _ placed]
    refine settled_ask nofun fun (status : Transmission) => settled_ask nofun fun _ => ?_
    exact (settled_sendFrames address format image page offset _).ite (settled_done _)

theorem settled_sendPages (total : Nat) (pages : List Nat) :
    Settled (ExceptT.run (sendPages address format image total pages)) := by
  induction pages with
  | nil => exact settled_done _
  | cons page rest ih =>
    rw [run_sendPages_cons]
    refine (settled_sendPage address format image page).bind fun result => ?_
    cases result with
    | ok => exact settled_ask nofun fun _ => ih
    | error => exact settled_done _

variable (session : Session)

theorem settled_from_bind {op : UpdateOp α} {next : α → UpdateOp β}
    (h : Settled (UpdateOp.from session op))
    (later : ∀ a session, Settled (UpdateOp.from session (next a))) :
    Settled (UpdateOp.from session (op >>= next)) := by
  rw [from_bind]
  refine h.bind fun (result, session) => ?_
  cases result with
  | ok a => exact later a session
  | error => exact settled_done _

theorem settled_reportBefore : Settled (UpdateOp.from session (reportBefore image)) := by
  rw [from_reportBefore]
  refine settled_ask nofun fun _ => settled_ask nofun fun _ => ?_
  refine (settled_askReport _ _ image).bind fun report => ?_
  split
  · exact settled_done _
  · exact settled_ask nofun fun _ => settled_done _

theorem settled_writeImage : Settled (UpdateOp.from session (writeImage image)) := by
  refine settled_from_bind session (settled_done _) fun _ session => ?_
  refine settled_from_bind session (settled_reportBefore image session) fun _ session => ?_
  refine settled_from_bind session ?_ fun _ session => ?_
  · rw [from_erase]
    exact settled_ask nofun fun _ => settled_ask nofun fun _ => settled_ask nofun fun _ =>
      settled_done _
  refine settled_from_bind session ?_ fun _ session => ?_
  · rw [from_writePages]
    exact settled_ask nofun fun _ => (settled_sendPages _ _ image _ _).bind fun _ => settled_done _
  refine settled_from_bind session ?_ fun _ session => ?_
  · rw [from_verifyWritten]
    exact settled_ask nofun fun _ =>
      (settled_askCrcRepeatedly _ _ image _).bind fun _ => settled_done _
  refine settled_from_bind session ?_ fun _ session => settled_done _
  rw [from_startProgram]
  exact settled_ask nofun fun _ => settled_done _

/-- However an update ends, it has not kept the bus. -/
theorem settled_update : Settled ((update image).run session) := by
  have concludes : ∀ result (session : Session), Settled ((conclude result).run session) := by
    intro result session
    rw [run_conclude]
    cases result with
    | ok => exact settled_ask nofun fun _ => settled_done _
    | error => exact settled_ask nofun fun _ => settled_ask nofun fun _ => settled_done _
  rw [run_update]
  rcases image.validate session.half.profile.flasher with failure | ⟨⟩
  · exact concludes _ session
  · exact (settled_writeImage image session).bind fun (result, session) => concludes result session

end Settled
end Firmware

namespace TwoWire

open Dialogue

/-- How the bus is taken and released in a sequence of calls, and by an update. -/
structure OwnsInTurn (past : Accesses) (calls : List Call) : Prop where
  /-- A transaction ends with a stop, unless it was to keep the bus and went well. -/
  ends : ∀ call ∈ calls, keeps? call.exchange = some false →
    lastSaid? control? call.accesses = some (command Control.stop)
  /-- Pauses and notes leave the unit alone. -/
  pauses : ∀ call ∈ calls, keeps? call.exchange = none → call.accesses = []
  /-- A start is the first thing in a transaction, and requested of a bus that is released or was
  kept by the transaction before. -/
  starts : ∀ before call after, calls = before ++ call :: after →
    ∀ earlier control later, call.accesses = earlier ++ ⟨.write .control control, ()⟩ :: later →
      control &&& Control.start ≠ 0 →
      earlier = [] ∧
        (¬Held (past ++ before.flatMap Call.accesses) ∨ Kept (before.map Call.exchange))
  /-- An update that begins on a released bus ends on one. -/
  updates : ∀ (image : Firmware.Image) (session : Firmware.Session) (said : Accesses)
    (outcome : Except Firmware.Failure Firmware.Report × Firmware.Session),
    Plays (onRegisters ((Firmware.update image).run session)) said outcome → ¬Held (past ++ said)

/-- **The bus is never left held by accident**: whatever the unit shows, every call but a write that
kept the bus and went well releases it, and so does every update. -/
theorem ownsInTurn_of_played {past : Accesses} {calls : List Call} (released : ¬Held past)
    (played : ∀ call ∈ calls, call.Played) : OwnsInTurn past calls where
  ends call member keeps := by
    have conducts := (played call member).conducts
    rw [keeps] at conducts
    exact conducts.lastControl?_eq
  pauses call member keeps := by
    have conducts := (played call member).conducts
    rw [keeps] at conducts
    exact conducts
  starts before call after split earlier control later accessed start := by
    subst split
    have conducts := (played call (List.mem_append_right _ List.mem_cons_self)).conducts
    have first : earlier = [] := by
      rcases keeps : keeps? call.exchange with _ | kept
      · rw [keeps] at conducts
        rw [conducts] at accessed
        simp at accessed
      · rw [keeps] at conducts
        exact conducts.start_first accessed start
    refine ⟨first, ?_⟩
    rw [held_iff_kept released fun call member => played call (List.mem_append_left _ member)]
    exact (Classical.em _).symm
  updates image session said outcome plays := by
    obtain ⟨calls, rfl, played, talk⟩ := exists_calls_of_plays plays
    rw [held_iff_kept released played]
    exact Firmware.settled_update image session _ _ talk

/-! ## Calls on a given unit -/

section Partner
variable {σ : Type} (partner : Partner vocabulary σ)

/-- Carry out one request after the other on a unit. -/
def callsOn (unit : σ) : List Bus.Request → List Call
  | [] => []
  | request :: rest =>
    let (reply, accesses, unit) := (carryOut request).transcribe partner unit
    ⟨⟨request, reply⟩, accesses⟩ :: callsOn unit rest

theorem played_callsOn (unit : σ) (requests : List Bus.Request) :
    ∀ call ∈ callsOn partner unit requests, call.Played := by
  induction requests generalizing unit with
  | nil => nofun
  | cons request rest ih =>
    rw [callsOn, List.forall_mem_cons]
    exact ⟨plays_transcribe partner _ unit, ih _⟩

end Partner

/-- Two reports are asked for. The second time nobody takes the address. -/
theorem ownsInTurn_of_played_reports :
    let unit : ScriptedUnit := { script := List.replicate 9 {} ++ [{ status := some 0x20 }] }
    let calls := callsOn ScriptedUnit.partner unit
      [.hold 0x50 [6], .wait 3000000, .read 0x50 3, .hold 0x50 [6], .read 0x50 0]
    ¬Held [] ∧ (∀ call ∈ calls, call.Played) ∧
      calls.map (fun call => (keeps? call.exchange, call.accesses.filterMap claims?)) =
        [(some true, [true]), (none, []), (some false, [true, false]),
          (some false, [true, false]), (some false, [false])] ∧
      OwnsInTurn [] calls := by
  intro unit calls
  have released : ¬Held [] := nofun
  have played := played_callsOn ScriptedUnit.partner unit
    [.hold 0x50 [6], .wait 3000000, .read 0x50 3, .hold 0x50 [6], .read 0x50 0]
  exact ⟨released, played, by decide +kernel, ownsInTurn_of_played released played⟩

end TwoWire
end SplitBoard

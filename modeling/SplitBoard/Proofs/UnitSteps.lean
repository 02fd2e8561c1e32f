import SplitBoard.Proofs.BusOwnership
import Mathlib.Data.List.TakeWhile

/-!
# What the unit shows

A transaction is a sequence of steps.  Each begins with a value that is written
to the control register, and **what is read until the next write is all that the
master learns of it** (`steps`).  If the flag is seen, the status says how the
step went (`Step.shown?`); if not, the master has looked as often as it has
patience for (`Step.Awaited`).

Nothing here fixes how a unit behaves: the statements are about every sequence of
answers that the registers can give.
-/

namespace SplitBoard.TwoWire

open Dialogue

/-! ## Accesses, one by one -/

/-- The value of the control register, where it is read. -/
def look? : Exchange vocabulary → Option UInt8
  | ⟨.read .control, value⟩ => some value
  | _ => none

/-- The value of the status register, where it is read. -/
def status? : Exchange vocabulary → Option UInt8
  | ⟨.read .status, value⟩ => some value
  | _ => none

/-- The value of the data register, where it is read. -/
def received? : Exchange vocabulary → Option UInt8
  | ⟨.read .data, value⟩ => some value
  | _ => none

/-- The value that is written to the data register. -/
def load? : Exchange vocabulary → Option UInt8
  | ⟨.write .data value, _⟩ => some value
  | _ => none

/-- Whether a register is read. -/
def isRead : Exchange vocabulary → Bool
  | ⟨.read _, _⟩ => true
  | ⟨.write _ _, _⟩ => false

/-- The bytes that were written to the data register. -/
def loads (said : Accesses) : List UInt8 := said.filterMap load?

/-- The bytes that were read from the data register. -/
def received (said : Accesses) : List UInt8 := said.filterMap received?

/-! ## Steps -/

/-- A step: the control value that began it, and what was read until the next write. -/
structure Step where
  control : UInt8
  reads : Accesses

namespace Step

/-- The values of the control register that were seen. -/
def looks (step : Step) : List UInt8 := step.reads.filterMap look?

/-- The unit showed that the step was over. -/
def Over (step : Step) : Prop := ∃ look ∈ step.looks, look &&& Control.flag ≠ 0

instance (step : Step) : Decidable step.Over :=
  inferInstanceAs (Decidable (∃ look ∈ step.looks, look &&& Control.flag ≠ 0))

/-- The status that the unit showed, without the bits that are none; nothing if the step was not
seen to be over. -/
def shown? (step : Step) : Option UInt8 :=
  if step.Over then (step.reads.findSome? status?).map (· &&& Status.mask) else none

/-- The master waited for the end of the step as it should. -/
structure Awaited (step : Step) : Prop where
  /-- Nobody looks again once the flag was seen. -/
  clear : ∀ look ∈ step.looks.dropLast, look &&& Control.flag = 0
  length_le : step.looks.length ≤ patience
  /-- Patience has to run out before a step is given up. -/
  givenUp : ¬step.Over → step.looks.length = patience
  /-- The status of a step that is over is read. -/
  shows : step.Over → step.shown?.isSome = true

end Step

/-- The steps of a transaction. A stop is no step. -/
def steps : Accesses → List Step
  | [] => []
  | e :: rest =>
    match control? e with
    | some value =>
      if value &&& Control.stop = 0 then ⟨value, rest.takeWhile isRead⟩ :: steps rest
      else steps rest
    | none => steps rest

/-- What the unit showed after the step `i`, if there was one and it came to an end. -/
def shown (said : Accesses) (i : Nat) : Option UInt8 := (steps said)[i]?.bind Step.shown?

/-- The unit sent the start, which is the first step. -/
def Began (said : Accesses) : Prop :=
  shown said 0 = some Status.started ∨ shown said 0 = some Status.restarted

/-- The accesses do not begin with a read, so that they do not go on with a step before them. -/
def Fresh (said : Accesses) : Prop := ∀ e ∈ said.head?, isRead e = false

/-- How many stops were requested. -/
def stops (said : Accesses) : Nat := said.countP fun e => claims? e = some false

section Steps
variable {first second said reads : Accesses}

@[simp] theorem fresh_nil : Fresh [] := nofun

@[simp] theorem fresh_cons {e : Exchange vocabulary} : Fresh (e :: said) ↔ isRead e = false := by
  simp [Fresh]

theorem Fresh.takeWhile_eq_nil (h : Fresh said) : said.takeWhile isRead = [] := by
  cases said with
  | nil => rfl
  | cons e rest =>
    rw [List.takeWhile_cons, fresh_cons.mp h]
    rfl

theorem takeWhile_append_fresh (fresh : Fresh second) :
    (first ++ second).takeWhile isRead = first.takeWhile isRead := by
  rw [List.takeWhile_append, fresh.takeWhile_eq_nil, List.append_nil]
  split
  · rename_i whole
    exact ((List.takeWhile_prefix isRead).eq_of_length whole).symm
  · rfl

theorem steps_append (fresh : Fresh second) :
    steps (first ++ second) = steps first ++ steps second := by
  induction first with
  | nil => rfl
  | cons e rest ih =>
    simp only [List.cons_append, steps, ih, takeWhile_append_fresh fresh]
    cases control? e with
    | none => rfl
    | some value =>
      dsimp only
      split <;> rfl

theorem steps_reads (only : ∀ e ∈ reads, isRead e = true) : steps reads = [] := by
  induction reads with
  | nil => rfl
  | cons e rest ih =>
    obtain ⟨here, later⟩ := List.forall_mem_cons.mp only
    have noControl : control? e = none := by
      obtain ⟨_ | _, reply⟩ := e
      · simp [isRead] at here
      · rfl
    simp only [steps, noControl, ih later]

/-- A control value that is no stop begins a step, to which the reads behind it belong. -/
theorem steps_begin {value : UInt8} (noStop : value &&& Control.stop = 0)
    (only : ∀ e ∈ reads, isRead e = true) :
    steps (⟨.write .control value, ()⟩ :: reads) = [⟨value, reads⟩] := by
  have whole : reads.takeWhile isRead = reads := List.takeWhile_eq_self_iff.mpr only
  change (if value &&& Control.stop = 0 then _ else _) = _
  rw [if_pos noStop, whole, steps_reads only]

theorem loads_append : loads (first ++ second) = loads first ++ loads second :=
  List.filterMap_append

theorem received_append : received (first ++ second) = received first ++ received second :=
  List.filterMap_append

@[simp] theorem steps_append_stop : steps (said ++ [stopAccess]) = steps said := by
  rw [steps_append (fresh_cons.mpr rfl)]
  exact List.append_nil _

@[simp] theorem shown_append_stop : shown (said ++ [stopAccess]) = shown said := by
  funext i
  rw [shown, steps_append_stop, shown]

@[simp] theorem loads_append_stop : loads (said ++ [stopAccess]) = loads said := by
  rw [loads_append]
  exact List.append_nil _

@[simp] theorem received_append_stop : received (said ++ [stopAccess]) = received said := by
  rw [received_append]
  exact List.append_nil _

theorem Quiet.stops_eq (h : Quiet said) : stops said = 0 := by
  refine List.countP_eq_zero.mpr fun e member => ?_
  rw [h e member]
  decide

/-- A transaction sends one stop, or none if it keeps the bus. -/
theorem Conducts.stops_eq {kept : Bool} (h : Conducts said kept) :
    stops said = if kept then 0 else 1 := by
  have started (rest : Accesses) : stops (startAccess :: rest) = stops rest :=
    List.countP_cons_of_neg (by decide)
  cases h with
  | unasked => rfl
  | released quiet =>
    rw [started, stops, List.countP_append]
    exact congrArg (· + 1) quiet.stops_eq
  | kept quiet =>
    rw [started]
    exact quiet.stops_eq

/-- The stop comes last. -/
theorem Conducts.getLast? (h : Conducts said false) : said.getLast? = some stopAccess := by
  cases h with
  | unasked => rfl
  | @released rest => exact List.getLast?_concat (l := startAccess :: rest)

end Steps

/-! ## The address byte -/

theorem writeAddress_eq (address : UInt8) : writeAddress address = 2 * address := by
  refine UInt8.toNat_inj.mp ?_
  rw [writeAddress, UInt8.toNat_shiftLeft, UInt8.toNat_mul]
  change address.toNat <<< 1 % 256 = 2 * address.toNat % 256
  rw [Nat.shiftLeft_eq, Nat.mul_comm]

theorem readAddress_eq (address : UInt8) : readAddress address = 2 * address + 1 := by
  -- the last bit of the address byte is left for the direction
  have free : (writeAddress address).toBitVec &&& 1#8 = 0#8 := by
    refine BitVec.eq_of_getLsbD_eq fun i _ => ?_
    rcases i with _ | i <;> simp [writeAddress]
  rw [← writeAddress_eq]
  exact UInt8.toBitVec_inj.mp (BitVec.add_eq_or_of_and_eq_zero _ _ free).symm

/-! ## Waiting for the flag -/

/-- What is seen of the control register by somebody who looks up to so many times, and whether the
flag was among it. -/
inductive Waits : (patience : Nat) → (looks : List UInt8) → (seen : Bool) → Prop where
  | givenUp : Waits 0 [] false
  | seen {left : Nat} {look : UInt8} (flag : look &&& Control.flag ≠ 0) :
      Waits (left + 1) [look] true
  | again {left : Nat} {look : UInt8} {looks : List UInt8} {seen : Bool}
      (clear : look &&& Control.flag = 0) (later : Waits left looks seen) :
      Waits (left + 1) (look :: looks) seen

section Waits
variable {left : Nat} {looks : List UInt8} {seen : Bool}

theorem Waits.length_le (h : Waits left looks seen) : looks.length ≤ left := by
  induction h with
  | givenUp => exact Nat.le_refl 0
  | seen => exact Nat.succ_le_succ (Nat.zero_le _)
  | again _ _ ih => exact Nat.succ_le_succ ih

theorem Waits.length_eq (h : Waits left looks false) : looks.length = left := by
  generalize none? : false = seen at h
  induction h with
  | givenUp => rfl
  | seen => cases none?
  | again _ _ ih => exact congrArg Nat.succ (ih none?)

theorem Waits.exists_iff (h : Waits left looks seen) :
    (∃ look ∈ looks, look &&& Control.flag ≠ 0) ↔ seen = true := by
  induction h with
  | givenUp => simp
  | seen flag => simp [flag]
  | again clear _ ih => simp [clear, ih]

theorem Waits.clear (h : Waits left looks seen) :
    ∀ look ∈ looks.dropLast, look &&& Control.flag = 0 := by
  induction h with
  | givenUp => nofun
  | seen => nofun
  | @again left look looks seen clear later ih =>
    cases looks with
    | nil => nofun
    | cons next looks =>
      rw [List.dropLast_cons_cons]
      exact List.forall_mem_cons.mpr ⟨clear, ih⟩

/-- The control register is looked at. -/
def lookAccess (value : UInt8) : Exchange vocabulary := ⟨.read .control, value⟩

theorem plays_awaitFlag {said : Accesses} (h : Plays (awaitFlag left) said seen) :
    ∃ looks, said = looks.map lookAccess ∧ Waits left looks seen := by
  induction left generalizing said with
  | zero =>
    obtain ⟨rfl, rfl⟩ := plays_done_iff.mp h
    exact ⟨[], rfl, .givenUp⟩
  | succ left ih =>
    obtain ⟨(look : UInt8), rest, rfl, goesOn⟩ := plays_ask_iff.mp h
    change Plays (if look &&& Control.flag ≠ 0 then done true else awaitFlag left) rest
      seen at goesOn
    by_cases clear : look &&& Control.flag = 0
    · rw [if_neg (fun flag => flag clear)] at goesOn
      obtain ⟨looks, rfl, later⟩ := ih goesOn
      exact ⟨look :: looks, rfl, .again clear later⟩
    · rw [if_pos clear] at goesOn
      obtain ⟨rfl, rfl⟩ := plays_done_iff.mp goesOn
      exact ⟨[look], rfl, .seen clear⟩

end Waits

/-! ## One step -/

/-- The status register is read. -/
def statusAccess (value : UInt8) : Exchange vocabulary := ⟨.read .status, value⟩

/-- The data register is read. -/
def receivedAccess (value : UInt8) : Exchange vocabulary := ⟨.read .data, value⟩

/-- A control value is written. -/
def controlAccess (value : UInt8) : Exchange vocabulary := ⟨.write .control value, ()⟩

/-- What is said in one step, and what comes of it. -/
inductive StepTalk (bits : UInt8) : Accesses → Option UInt8 → Prop where
  | silent {looks : List UInt8} (waits : Waits patience looks false) :
      StepTalk bits (controlAccess (command bits) :: looks.map lookAccess) none
  | ended {looks : List UInt8} (waits : Waits patience looks true) (status : UInt8) :
      StepTalk bits
        (controlAccess (command bits) :: (looks.map lookAccess ++ [statusAccess status]))
        (some (status &&& Status.mask))

theorem plays_step_talk {bits : UInt8} {said : Accesses} {status : Option UInt8}
    (h : Plays (step bits) said status) : StepTalk bits said status := by
  rw [step_eq] at h
  obtain ⟨⟨⟩, rest, rfl, goesOn⟩ := plays_ask_iff.mp h
  obtain ⟨first, second, seen, rfl, awaits, reads⟩ := plays_bind_iff.mp goesOn
  obtain ⟨looks, rfl, waits⟩ := plays_awaitFlag awaits
  cases seen with
  | false =>
    obtain ⟨rfl, rfl⟩ := plays_done_iff.mp reads
    rw [List.append_nil]
    exact .silent waits
  | true =>
    obtain ⟨(value : UInt8), rest, rfl, ends⟩ := plays_ask_iff.mp reads
    obtain ⟨rfl, rfl⟩ := plays_done_iff.mp ends
    exact .ended waits value

/-- The accesses are one step, which the control value began and which showed this. -/
structure Stepped (control : UInt8) (said : Accesses) (status : Option UInt8) : Prop where
  fresh : Fresh said
  single : ∃ step, steps said = [step] ∧ step.control = control ∧ step.shown? = status ∧
    step.Awaited

section Stepped
variable {first second : Accesses} {control : UInt8} {status : Option UInt8}

theorem Stepped.fresh_append (h : Stepped control first status) : Fresh (first ++ second) := by
  obtain ⟨step, single, -⟩ := h.single
  cases first with
  | nil => simp [steps] at single
  | cons e rest => exact fresh_cons.mpr (fresh_cons.mp h.fresh)

theorem Stepped.shown_eq (h : Stepped control first status) : shown first 0 = status := by
  obtain ⟨step, single, -, shows, -⟩ := h.single
  rw [shown, single]
  exact shows

theorem Stepped.controls (h : Stepped control first status) :
    (steps first).map Step.control = [control] := by
  obtain ⟨step, single, began, -⟩ := h.single
  rw [single, List.map_singleton, began]

theorem Stepped.awaited (h : Stepped control first status) :
    ∀ step ∈ steps first, step.Awaited := by
  obtain ⟨step, single, -, -, awaited⟩ := h.single
  rw [single]
  exact List.forall_mem_singleton.mpr awaited

theorem Stepped.steps_append (h : Stepped control first status) (fresh : Fresh second) :
    ∃ step, steps (first ++ second) = step :: steps second ∧ step.control = control ∧
      step.shown? = status ∧ step.Awaited := by
  obtain ⟨step, single, began, shows, awaited⟩ := h.single
  refine ⟨step, ?_, began, shows, awaited⟩
  rw [TwoWire.steps_append fresh, single]
  rfl

theorem Stepped.shown_zero (h : Stepped control first status) (fresh : Fresh second) :
    shown (first ++ second) 0 = status := by
  obtain ⟨step, split, -, shows, -⟩ := h.steps_append fresh
  rw [shown, split]
  exact shows

theorem Stepped.shown_succ (h : Stepped control first status) (fresh : Fresh second) (i : Nat) :
    shown (first ++ second) (i + 1) = shown second i := by
  obtain ⟨step, split, -⟩ := h.steps_append fresh
  rw [shown, split]
  rfl

theorem Stepped.controls_append (h : Stepped control first status) (fresh : Fresh second) :
    (steps (first ++ second)).map Step.control = control :: (steps second).map Step.control := by
  obtain ⟨step, split, began, -⟩ := h.steps_append fresh
  rw [split, List.map_cons, began]

theorem Stepped.awaited_append (h : Stepped control first status) (fresh : Fresh second)
    (later : ∀ step ∈ steps second, step.Awaited) :
    ∀ step ∈ steps (first ++ second), step.Awaited := by
  obtain ⟨step, split, -, -, awaited⟩ := h.steps_append fresh
  rw [split]
  exact List.forall_mem_cons.mpr ⟨awaited, later⟩

end Stepped

/-- The flag is waited for, and the status is read if it was seen. What else is read behind it tells
nothing about how the step went. -/
theorem stepped_of_waits {control : UInt8} {looks : List UInt8} {seen : Bool}
    (noStop : control &&& Control.stop = 0) (waits : Waits patience looks seen) (last : Accesses)
    (only : ∀ e ∈ last, isRead e = true) (blind : last.filterMap look? = [])
    (tells : (last.findSome? status?).isSome = seen) :
    Stepped control (controlAccess control :: (looks.map lookAccess ++ last))
      ((last.findSome? status?).map (· &&& Status.mask)) := by
  have reads : ∀ e ∈ looks.map lookAccess ++ last, isRead e = true := by
    refine List.forall_mem_append.mpr ⟨fun e member => ?_, only⟩
    obtain ⟨look, -, rfl⟩ := List.mem_map.mp member
    rfl
  have seenLooks : Step.looks ⟨control, looks.map lookAccess ++ last⟩ = looks := by
    rw [Step.looks, List.filterMap_append, blind, List.append_nil, List.filterMap_map]
    exact List.filterMap_some
  have statusRead : (looks.map lookAccess ++ last).findSome? status? = last.findSome? status? := by
    rw [List.findSome?_append, List.findSome?_eq_none_iff.mpr, Option.none_or]
    intro e member
    obtain ⟨look, -, rfl⟩ := List.mem_map.mp member
    rfl
  have isOver : Step.Over ⟨control, looks.map lookAccess ++ last⟩ ↔ seen = true := by
    rw [Step.Over, seenLooks]
    exact waits.exists_iff
  have shows : Step.shown? ⟨control, looks.map lookAccess ++ last⟩ =
      (last.findSome? status?).map (· &&& Status.mask) := by
    rw [Step.shown?, statusRead]
    by_cases ended : seen = true
    · rw [if_pos (isOver.mpr ended)]
    · have nothing : last.findSome? status? = none := by
        rw [← Option.not_isSome_iff_eq_none, tells]
        exact ended
      rw [if_neg (mt isOver.mp ended), nothing]
      rfl
  refine ⟨fresh_cons.mpr rfl, ⟨control, looks.map lookAccess ++ last⟩, steps_begin noStop reads,
    rfl, shows, ?_, ?_, ?_, ?_⟩
  · rw [seenLooks]
    exact waits.clear
  · rw [seenLooks]
    exact waits.length_le
  · intro notOver
    rw [seenLooks]
    cases seen with
    | false => exact waits.length_eq
    | true => exact absurd (isOver.mpr rfl) notOver
  · intro ended
    rw [shows, Option.isSome_map, tells]
    exact isOver.mp ended

section Steps
variable {bits : UInt8} {said : Accesses} {status : Option UInt8}

theorem StepTalk.stepped (h : StepTalk bits said status)
    (noStop : command bits &&& Control.stop = 0) : Stepped (command bits) said status := by
  cases h with
  | silent waits =>
    have stepped := stepped_of_waits noStop waits [] nofun rfl rfl
    rwa [List.append_nil] at stepped
  | ended waits value =>
    refine stepped_of_waits noStop waits [statusAccess value] ?_ rfl rfl
    simp [isRead, statusAccess]

/-- A byte that is taken from the data register belongs to the step that brought it. -/
theorem StepTalk.stepped_received {shows : UInt8} (h : StepTalk bits said (some shows))
    (noStop : command bits &&& Control.stop = 0) (byte : UInt8) :
    Stepped (command bits) (said ++ [receivedAccess byte]) (some shows) := by
  cases h with
  | ended waits value =>
    rw [List.cons_append, List.append_assoc]
    refine stepped_of_waits noStop waits [statusAccess value, receivedAccess byte] ?_ rfl rfl
    simp [isRead, statusAccess, receivedAccess]

/-- What only writes and the data register tell is not told in a step. -/
theorem StepTalk.filterMap_eq_nil {α : Type} {f : Exchange vocabulary → Option α}
    (h : StepTalk bits said status) (began : f (controlAccess (command bits)) = none)
    (looks : ∀ value, f (lookAccess value) = none)
    (statuses : ∀ value, f (statusAccess value) = none) : said.filterMap f = [] := by
  have silent (values : List UInt8) : (values.map lookAccess).filterMap f = [] := by
    rw [List.filterMap_map, List.filterMap_eq_nil_iff]
    exact fun value _ => looks value
  cases h with
  | silent => rw [List.filterMap_cons_none began, silent]
  | ended waits value =>
    rw [List.filterMap_cons_none began, List.filterMap_append, silent, List.nil_append,
      List.filterMap_cons_none (statuses value), List.filterMap_nil]

theorem StepTalk.loads_eq (h : StepTalk bits said status) : loads said = [] :=
  h.filterMap_eq_nil rfl (fun _ => rfl) fun _ => rfl

theorem StepTalk.received_eq (h : StepTalk bits said status) : received said = [] :=
  h.filterMap_eq_nil rfl (fun _ => rfl) fun _ => rfl

/-- A start is one step, and succeeds if the unit says so. -/
theorem plays_sendStart_step {ok : Bool} (h : Plays sendStart said ok) :
    ∃ status, Stepped (command Control.start) said status ∧ loads said = [] ∧ received said = [] ∧
      (ok = true ↔ status = some Status.started ∨ status = some Status.restarted) := by
  obtain ⟨first, second, status, rfl, starts, judged⟩ := plays_bind_iff.mp h
  obtain ⟨rfl, rfl⟩ := plays_done_iff.mp judged
  rw [List.append_nil]
  have talk := plays_step_talk starts
  exact ⟨status, talk.stepped (by decide), talk.loads_eq, talk.received_eq, decide_eq_true_iff⟩

/-- To send a byte is to load it, and then one step. -/
theorem plays_sendByte_step {byte : UInt8} (h : Plays (sendByte byte) said status) :
    Stepped (command 0) said status ∧ loads said = [byte] ∧ received said = [] := by
  obtain ⟨⟨⟩, rest, rfl, sends⟩ := plays_ask_iff.mp h
  have talk := plays_step_talk sends
  have stepped := talk.stepped (by decide)
  refine ⟨⟨fresh_cons.mpr rfl, stepped.single⟩, ?_, talk.received_eq⟩
  exact congrArg (byte :: ·) talk.loads_eq

/-- To receive a byte is one step, and the byte is taken if the step went as it should. -/
theorem plays_receiveByte_step {acknowledge : Bool} {byte? : Option UInt8}
    (h : Plays (receiveByte acknowledge) said byte?) :
    ∃ status, Stepped (command (if acknowledge then Control.acknowledge else 0)) said status ∧
      loads said = [] ∧ received said = byte?.toList ∧
      (byte?.isSome = true ↔ status = some
        (if acknowledge then Status.receivedAcknowledged else Status.receivedRefused)) := by
  have noStop : command (if acknowledge then Control.acknowledge else 0) &&& Control.stop = 0 := by
    cases acknowledge <;> decide
  obtain ⟨first, second, status, rfl, steps, judged⟩ := plays_bind_iff.mp h
  have talk := plays_step_talk steps
  by_cases expected : status = some
      (if acknowledge then Status.receivedAcknowledged else Status.receivedRefused)
  · obtain ⟨(byte : UInt8), rest, rfl, ends⟩ : ∃ byte rest, second = receivedAccess byte :: rest ∧
        Plays (done (some byte) : Registers (Option UInt8)) rest byte? := by
      rw [if_pos expected] at judged
      exact plays_ask_iff.mp judged
    obtain ⟨rfl, rfl⟩ := plays_done_iff.mp ends
    subst expected
    refine ⟨_, talk.stepped_received noStop byte, ?_, ?_, by simp⟩
    · rw [loads_append, talk.loads_eq]
      rfl
    · rw [received_append, talk.received_eq]
      rfl
  · rw [if_neg expected] at judged
    obtain ⟨rfl, rfl⟩ := plays_done_iff.mp judged
    rw [List.append_nil]
    exact ⟨status, talk.stepped noStop, talk.loads_eq, talk.received_eq, by simp [expected]⟩

end Steps

end SplitBoard.TwoWire

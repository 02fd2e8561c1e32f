import SplitBoard.Proofs.UnitSteps

/-!
# How a write ends

The bytes of a write go out one after the other, the address first, and **the
first that is not acknowledged is the last that is sent**.  What the unit shows
after the start and after each byte decides how the write ends, and every end has
its own condition (`WriteEnded`).

The three ways to write differ in the stop alone: a write and a probe always end
with one, and a write that is to keep the bus only if something went wrong.
-/

namespace SplitBoard.TwoWire

open Dialogue

/-! ## The data bytes -/

/-- What is known of the data bytes of a write that ended like that. -/
structure BytesSent (bytes : List UInt8) (said : Accesses) (status : Transmission) : Prop where
  fresh : Fresh said
  awaited : ∀ step ∈ steps said, step.Awaited
  controls : (steps said).map Step.control = (loads said).map fun _ => command 0
  loaded : loads said <+: bytes
  loaded_iff : ∀ i < bytes.length,
    (i < (loads said).length ↔ ∀ j < i, shown said j = some Status.byteAcknowledged)
  complete_iff : status = .complete ↔
    ∀ i < bytes.length, shown said i = some Status.byteAcknowledged
  dataNack_iff : status = .dataNack ↔ ∃ k < bytes.length,
    (∀ i < k, shown said i = some Status.byteAcknowledged) ∧ shown said k = some Status.byteRefused
  other : status ≠ .addressNack ∧ status ≠ .tooLong

section BytesSent
variable {byte : UInt8} {rest : List UInt8} {here later : Accesses} {status : Transmission}

theorem bytesSent_nil : BytesSent [] [] .complete where
  fresh := fresh_nil
  awaited := nofun
  controls := rfl
  loaded := List.nil_prefix
  loaded_iff := nofun
  complete_iff := ⟨fun _ => nofun, fun _ => rfl⟩
  dataNack_iff := ⟨nofun, nofun⟩
  other := ⟨nofun, nofun⟩

/-- The device takes a byte, and the next one is sent. -/
theorem BytesSent.cons (taken : Stepped (command 0) here (some Status.byteAcknowledged))
    (loaded : loads here = [byte]) (sent : BytesSent rest later status) :
    BytesSent (byte :: rest) (here ++ later) status where
  fresh := taken.fresh_append
  awaited := taken.awaited_append sent.fresh sent.awaited
  controls := by
    rw [taken.controls_append sent.fresh, loads_append, loaded, sent.controls]
    rfl
  loaded := by
    rw [loads_append, loaded]
    exact List.cons_prefix_cons.mpr ⟨rfl, sent.loaded⟩
  loaded_iff := by
    intro i inside
    rw [loads_append, loaded]
    cases i with
    | zero => simp
    | succ i =>
      have before := sent.loaded_iff i (Nat.lt_of_succ_lt_succ inside)
      simp only [Nat.forall_lt_succ_left, taken.shown_zero sent.fresh, taken.shown_succ sent.fresh]
      simpa using before
  complete_iff := by
    simp only [List.length_cons, Nat.forall_lt_succ_left, taken.shown_zero sent.fresh,
      taken.shown_succ sent.fresh, true_and]
    exact sent.complete_iff
  dataNack_iff := by
    simp only [List.length_cons, Nat.exists_lt_succ_left, Nat.forall_lt_succ_left,
      taken.shown_zero sent.fresh, taken.shown_succ sent.fresh, true_and]
    rw [sent.dataNack_iff]
    simp [Status.byteAcknowledged, Status.byteRefused]
  other := sent.other

/-- What becomes of a write by what the unit shows after a byte that is not acknowledged. -/
theorem BytesSent.stop {shows : Option UInt8} (sent : Stepped (command 0) here shows)
    (loaded : loads here = [byte]) (refused : shows ≠ some Status.byteAcknowledged) :
    BytesSent (byte :: rest) here
      (if shows = some Status.byteRefused then .dataNack else .fault) := by
  have zero := sent.shown_eq
  have ends : (if shows = some Status.byteRefused then Transmission.dataNack else .fault) ≠
      .complete := by
    split <;> nofun
  refine ⟨sent.fresh, sent.awaited, ?_, ?_, ?_, ?_, ?_, ?_⟩
  · rw [sent.controls, loaded]
    rfl
  · rw [loaded]
    exact List.cons_prefix_cons.mpr ⟨rfl, List.nil_prefix⟩
  · intro i inside
    cases i with
    | zero => simp [loaded]
    | succ i =>
      simp only [loaded, List.length_singleton, Nat.forall_lt_succ_left, zero, refused, false_and,
        iff_false]
      omega
  · simp only [ends, List.length_cons, Nat.forall_lt_succ_left, zero, refused, false_and]
  · simp only [List.length_cons, Nat.exists_lt_succ_left, Nat.forall_lt_succ_left, zero, refused]
    split <;> simp [*]
  · split <;> exact ⟨nofun, nofun⟩

/-- Work that ends at once, in one of two ways. -/
theorem plays_either {α : Type} {c : Prop} [Decidable c] {a b result : α} {said : Accesses}
    (h : Plays (if c then done a else done b : Registers α) said result) :
    said = [] ∧ result = if c then a else b := by
  rw [← apply_ite done] at h
  exact plays_done_iff.mp h

/-- One byte after the other, up to the first that is not acknowledged. -/
theorem bytesSent_of_plays {bytes : List UInt8} {said : Accesses}
    (h : Plays (sendBytes bytes) said status) : BytesSent bytes said status := by
  induction bytes generalizing said with
  | nil =>
    obtain ⟨rfl, rfl⟩ := plays_done_iff.mp h
    exact bytesSent_nil
  | cons byte rest ih =>
    obtain ⟨here, later, shows, rfl, sends, goesOn⟩ := plays_bind_iff.mp h
    obtain ⟨sent, loaded, -⟩ := plays_sendByte_step sends
    by_cases taken : shows = some Status.byteAcknowledged
    · rw [if_pos taken] at goesOn
      subst taken
      exact .cons sent loaded (ih goesOn)
    · rw [if_neg taken] at goesOn
      obtain ⟨rfl, rfl⟩ := plays_either goesOn
      rw [List.append_nil]
      exact .stop sent loaded taken

end BytesSent

/-! ## The whole write -/

/-- Byte `i` was acknowledged as it should be. Byte 0 is the address. -/
def Acknowledged (said : Accesses) (i : Nat) : Prop :=
  shown said (i + 1) =
    some (if i = 0 then Status.writeAcknowledged else Status.byteAcknowledged)

/-- The start, the address and so many data bytes were accepted. -/
def AllTaken (count : Nat) (said : Accesses) : Prop :=
  Began said ∧ shown said 1 = some Status.writeAcknowledged ∧
    ∀ i < count, shown said (i + 2) = some Status.byteAcknowledged

/-- Nobody took the address. -/
def AddressRefused (said : Accesses) : Prop :=
  Began said ∧ shown said 1 = some Status.writeRefused

/-- The address was taken, and of so many data bytes the first that was not acknowledged was
refused. -/
def ByteRefused (count : Nat) (said : Accesses) : Prop :=
  Began said ∧ shown said 1 = some Status.writeAcknowledged ∧ ∃ k < count,
    (∀ i < k, shown said (i + 2) = some Status.byteAcknowledged) ∧
      shown said (k + 2) = some Status.byteRefused

/-- How the bytes of a write went out, and how the write ended. -/
structure Transmitted (address : UInt8) (bytes : List UInt8) (said : Accesses)
    (status : Transmission) : Prop where
  awaited : ∀ step ∈ steps said, step.Awaited
  /-- The first step is the start, and each byte that goes out is one more. -/
  controls : (steps said).map Step.control =
    command Control.start :: (loads said).map fun _ => command 0
  /-- The bytes go out in order, behind the address. -/
  loaded : loads said <+: 2 * address :: bytes
  /-- A byte goes out if the start did and every byte before it was acknowledged. -/
  loaded_iff : ∀ i ≤ bytes.length,
    (i < (loads said).length ↔ Began said ∧ ∀ j < i, Acknowledged said j)
  complete_iff : status = .complete ↔ AllTaken bytes.length said
  addressNack_iff : status = .addressNack ↔ AddressRefused said
  dataNack_iff : status = .dataNack ↔ ByteRefused bytes.length said
  /-- A write does not fail for want of room. -/
  roomy : status ≠ .tooLong

section Transmitted
variable {address : UInt8} {bytes : List UInt8} {start addressed later said : Accesses}
  {started shows : Option UInt8} {status : Transmission}

theorem forall_acknowledged_iff {n : Nat} :
    (∀ j < n + 1, Acknowledged said j) ↔ shown said 1 = some Status.writeAcknowledged ∧
      ∀ j < n, shown said (j + 2) = some Status.byteAcknowledged := by
  simp only [Nat.forall_lt_succ_left, Acknowledged]
  simp

/-- Without a start nothing goes out. -/
theorem transmitted_of_unstarted (begins : Stepped (command Control.start) start started)
    (silent : loads start = []) (refused : ¬(started = some Status.started ∨
      started = some Status.restarted)) : Transmitted address bytes start .fault := by
  have notBegan : ¬Began start := by
    rw [Began, begins.shown_eq]
    exact refused
  refine ⟨begins.awaited, ?_, ?_, ?_, ?_, ?_, ?_, nofun⟩
  · rw [begins.controls, silent]
    rfl
  · rw [silent]
    exact List.nil_prefix
  · simp [silent, notBegan]
  · simp [AllTaken, notBegan]
  · simp [AddressRefused, notBegan]
  · simp [ByteRefused, notBegan]

/-- If the address is not taken, it is all that goes out. -/
theorem transmitted_of_unaddressed (begins : Stepped (command Control.start) start started)
    (silent : loads start = []) (began : started = some Status.started ∨
      started = some Status.restarted) (sent : Stepped (command 0) addressed shows)
    (loaded : loads addressed = [writeAddress address])
    (untaken : shows ≠ some Status.writeAcknowledged) :
    Transmitted address bytes (start ++ addressed)
      (if shows = some Status.writeRefused then .addressNack else .fault) := by
  have fresh := sent.fresh
  have zero : Began (start ++ addressed) := by
    rw [Began, begins.shown_zero fresh]
    exact began
  have one : shown (start ++ addressed) 1 = shows := by
    rw [begins.shown_succ fresh, sent.shown_eq]
  have ends : (if shows = some Status.writeRefused then Transmission.addressNack else .fault) ≠
      .complete ∧ (if shows = some Status.writeRefused then Transmission.addressNack else .fault) ≠
      .dataNack ∧ (if shows = some Status.writeRefused then Transmission.addressNack else .fault) ≠
      .tooLong := by
    split <;> exact ⟨nofun, nofun, nofun⟩
  refine ⟨begins.awaited_append fresh sent.awaited, ?_, ?_, ?_, ?_, ?_, ?_, ends.2.2⟩
  · rw [begins.controls_append fresh, sent.controls, loads_append, silent, loaded]
    rfl
  · rw [loads_append, silent, loaded, writeAddress_eq]
    exact List.cons_prefix_cons.mpr ⟨rfl, List.nil_prefix⟩
  · intro i _
    rw [loads_append, silent, loaded]
    cases i with
    | zero => simp [zero]
    | succ i =>
      rw [forall_acknowledged_iff, one]
      simp [untaken]
  · simp [AllTaken, one, untaken, ends]
  · rw [AddressRefused, one]
    split <;> simp [*]
  · simp [ByteRefused, one, untaken, ends]

/-- Once the address is taken, the data bytes decide. -/
theorem transmitted_of_addressed (begins : Stepped (command Control.start) start started)
    (silent : loads start = []) (began : started = some Status.started ∨
      started = some Status.restarted)
    (sent : Stepped (command 0) addressed (some Status.writeAcknowledged))
    (loaded : loads addressed = [writeAddress address]) (data : BytesSent bytes later status) :
    Transmitted address bytes (start ++ (addressed ++ later)) status := by
  have fresh : Fresh (addressed ++ later) := sent.fresh_append
  have zero : Began (start ++ (addressed ++ later)) := by
    rw [Began, begins.shown_zero fresh]
    exact began
  have one : shown (start ++ (addressed ++ later)) 1 = some Status.writeAcknowledged := by
    rw [begins.shown_succ fresh, sent.shown_zero data.fresh]
  have byte (i : Nat) : shown (start ++ (addressed ++ later)) (i + 2) = shown later i := by
    rw [begins.shown_succ fresh, sent.shown_succ data.fresh]
  have loads_eq : loads (start ++ (addressed ++ later)) = 2 * address :: loads later := by
    rw [loads_append, loads_append, silent, loaded, writeAddress_eq]
    rfl
  refine ⟨begins.awaited_append fresh (sent.awaited_append data.fresh data.awaited), ?_, ?_, ?_, ?_,
    ?_, ?_, data.other.2⟩
  · rw [loads_eq, begins.controls_append fresh, sent.controls_append data.fresh, data.controls]
    rfl
  · rw [loads_eq]
    exact List.cons_prefix_cons.mpr ⟨rfl, data.loaded⟩
  · intro i inside
    rw [loads_eq]
    cases i with
    | zero => simp [zero]
    | succ i =>
      have before := data.loaded_iff i inside
      rw [forall_acknowledged_iff, one]
      simpa [zero, byte] using before
  · rw [data.complete_iff]
    simp [AllTaken, zero, one, byte]
  · simp [AddressRefused, one, data.other.1, Status.writeAcknowledged, Status.writeRefused]
  · rw [data.dataNack_iff]
    simp [ByteRefused, zero, one, byte]

/-- **What the unit shows decides how a write ends.** -/
theorem transmitted_of_plays (h : Plays (transmit address bytes) said status) :
    Transmitted address bytes said status := by
  obtain ⟨start, rest, ok, rfl, starts, goesOn⟩ := plays_bind_iff.mp h
  obtain ⟨started, begins, silent, -, judged⟩ := plays_sendStart_step starts
  cases ok with
  | false =>
    obtain ⟨rfl, rfl⟩ := plays_done_iff.mp goesOn
    rw [List.append_nil]
    exact transmitted_of_unstarted begins silent (mt judged.mpr nofun)
  | true =>
    obtain ⟨addressed, later, shows, rfl, sends, goesOn⟩ := plays_bind_iff.mp goesOn
    obtain ⟨sent, loaded, -⟩ := plays_sendByte_step sends
    by_cases taken : shows = some Status.writeAcknowledged
    · rw [if_pos taken] at goesOn
      subst taken
      exact transmitted_of_addressed begins silent (judged.mp rfl) sent loaded
        (bytesSent_of_plays goesOn)
    · rw [if_neg taken] at goesOn
      obtain ⟨rfl, rfl⟩ := plays_either goesOn
      rw [List.append_nil]
      exact transmitted_of_unaddressed begins silent (judged.mp rfl) sent loaded taken

/-- A stop behind a write changes nothing of that. -/
theorem Transmitted.stop (h : Transmitted address bytes said status) :
    Transmitted address bytes (said ++ [stopAccess]) status where
  awaited := by simpa using h.awaited
  controls := by simpa using h.controls
  loaded := by simpa using h.loaded
  loaded_iff := by simpa [Began, Acknowledged] using h.loaded_iff
  complete_iff := by simpa [AllTaken, Began] using h.complete_iff
  addressNack_iff := by simpa [AddressRefused, Began] using h.addressNack_iff
  dataNack_iff := by simpa [ByteRefused, Began] using h.dataNack_iff
  roomy := h.roomy

end Transmitted

/-! ## The three ways to write -/

/-- The work on the bus that writes these bytes to this address, and whether it is to keep the bus.
A probe writes no bytes. -/
inductive Writes (address : UInt8) :
    (bytes : List UInt8) → (keeps : Bool) → Wire Transmission → Prop where
  | write (bytes : List UInt8) : Writes address bytes false (Wire.write address bytes)
  | probe : Writes address [] false (Wire.probe address)
  | hold (bytes : List UInt8) : Writes address bytes true (Wire.hold address bytes)

/-- How a write ended. -/
structure WriteEnded (address : UInt8) (bytes : List UInt8) (keeps : Bool) (said : Accesses)
    (status : Transmission) : Prop extends Transmitted address bytes said status where
  /-- Every other end is a fault. -/
  fault_iff : status = .fault ↔
    ¬AllTaken bytes.length said ∧ ¬AddressRefused said ∧ ¬ByteRefused bytes.length said
  /-- There is one stop, but none if the bus is kept. -/
  stops_eq : stops said = if keeps = true ∧ status = .complete then 0 else 1
  /-- The stop comes after everything else. -/
  stop_last : ¬(keeps = true ∧ status = .complete) → said.getLast? = some stopAccess

section WriteEnded
variable {address : UInt8} {bytes : List UInt8} {keeps : Bool} {work : Wire Transmission}
  {said : Accesses} {status : Transmission}

/-- What is not one of the other ends is a fault. -/
theorem Transmitted.fault_iff (h : Transmitted address bytes said status) : status = .fault ↔
    ¬AllTaken bytes.length said ∧ ¬AddressRefused said ∧ ¬ByteRefused bytes.length said := by
  rw [← h.complete_iff, ← h.addressNack_iff, ← h.dataNack_iff]
  have roomy := h.roomy
  cases status <;> simp_all

theorem Transmitted.ended (h : Transmitted address bytes said status)
    (conducts : Conducts said (decide (keeps = true ∧ status = .complete))) :
    WriteEnded address bytes keeps said status where
  toTransmitted := h
  fault_iff := h.fault_iff
  stops_eq := by
    rw [conducts.stops_eq]
    simp
  stop_last released := by
    rw [decide_eq_false released] at conducts
    exact conducts.getLast?

/-- **Every way to write tells the five ends apart by what the unit shows, and stops as it
should.** -/
theorem writeEnded_of_plays (writes : Writes address bytes keeps work)
    (plays : Plays (onRegisters work) said status) :
    WriteEnded address bytes keeps said status := by
  have released {bytes : List UInt8} (written : Plays (write address bytes) said status) :
      WriteEnded address bytes false said status := by
    have conducts := conducts_write written
    obtain ⟨first, rfl, transmits⟩ := plays_stop_behind written
    exact (transmitted_of_plays transmits).stop.ended (by simpa using conducts)
  cases writes with
  | write | probe =>
    refine released ?_
    rwa [← bind_done (write _ _)]
  | hold =>
    have held : Plays (hold address bytes) said status := by
      rwa [← bind_done (hold _ _)]
    have conducts := conducts_hold held
    rcases plays_hold held with ⟨-, transmits⟩ | ⟨-, first, rfl, transmits⟩
    · exact (transmitted_of_plays transmits).ended (by simpa using conducts)
    · exact (transmitted_of_plays transmits).stop.ended (by simpa using conducts)

/-- Of three bytes that are to keep the bus the second is refused, with bits in the status register
that are no status. -/
theorem writeEnded_of_plays_refused :
    let unit : ScriptedUnit := { script := [{}, {}, {}, { status := some 0x33, busy := 2 }] }
    let work := Wire.hold 0x58 [1, 2, 3]
    let run := (onRegisters work).transcribe ScriptedUnit.partner unit
    Writes 0x58 [1, 2, 3] true work ∧ Plays (onRegisters work) run.2.1 run.1 ∧
      run.1 = .dataNack ∧ loads run.2.1 = [0xB0, 1, 2] ∧
      WriteEnded 0x58 [1, 2, 3] true run.2.1 run.1 := by
  intro unit work run
  have plays : Plays (onRegisters work) run.2.1 run.1 := plays_transcribe _ _ _
  exact ⟨.hold _, plays, by decide +kernel, by decide +kernel,
    writeEnded_of_plays (.hold _) plays⟩

end WriteEnded

end SplitBoard.TwoWire

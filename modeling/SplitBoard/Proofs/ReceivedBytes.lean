import SplitBoard.Proofs.UnitSteps
import Mathlib.Order.Bounds.Basic

/-!
# What a read brings

The bytes of a read come one after the other over what is in the buffer, up to
the first that does not come as it should.  **All are acknowledged but the last
one, which is what tells the device to let go of the bus** (`comesWith`), and no
byte is asked for once one went wrong.

`readInto_eq` says that a read into a buffer is the read that all other work on
the bus uses, with the bytes put over the beginning of the buffer.
-/

namespace SplitBoard.TwoWire

open Dialogue

/-! ## With a buffer or without one -/

section Buffers

/-- The newest byte stands first while they come, and is turned around in the end. -/
theorem receiveBytes_eq (earlier : List UInt8) (left : Nat) :
    receiveBytes earlier left =
      (receiveBytes [] left).bind fun bytes => done (earlier.reverse ++ bytes) := by
  induction left generalizing earlier with
  | zero => simp [receiveBytes]
  | succ left ih =>
    simp only [receiveBytes, bind_eq, bind_assoc]
    congr 1
    funext byte?
    cases byte? with
    | none => simp
    | some byte =>
      dsimp only
      rw [ih (byte :: earlier), ih [byte], bind_assoc]
      simp

/-- The buffer with bytes over its beginning, and how many there are. -/
def laidOver (bytes buffer : List UInt8) : Nat × List UInt8 :=
  (bytes.length, bytes ++ buffer.drop bytes.length)

theorem receiveOver_eq (buffer : List UInt8) :
    receiveOver buffer = (receiveBytes [] buffer.length).bind fun bytes =>
      done (laidOver (bytes.take buffer.length) buffer) := by
  induction buffer with
  | nil => rfl
  | cons old rest ih =>
    have some_left : (rest.length ≠ 0) = (rest ≠ []) := by simp
    simp only [receiveOver, receiveBytes, List.length_cons, bind_eq, bind_assoc, some_left]
    congr 1
    funext byte?
    cases byte? with
    | none => rfl
    | some byte =>
      dsimp only
      rw [ih, receiveBytes_eq [byte], bind_assoc, bind_assoc]
      rfl

theorem receiveInto_eq (address : UInt8) (buffer : List UInt8) :
    receiveInto address buffer = (receive address buffer.length).bind fun delivery =>
      done (laidOver delivery.bytes buffer) := by
  rcases buffer with _ | ⟨old, rest⟩
  · rfl
  · simp only [receiveInto, receive, reduceCtorEq, if_false, List.length_cons, Nat.add_one_ne_zero,
      bind_eq, bind_assoc]
    congr 1
    funext ok
    cases ok with
    | false => rfl
    | true =>
      simp only [if_true, bind_assoc]
      congr 1
      funext status
      split
      · rw [receiveOver_eq, bind_assoc]
        rfl
      · rfl

/-- **A read into a buffer is a read whose bytes are put over the beginning of the buffer.** -/
theorem readInto_eq (address : UInt8) (buffer : List UInt8) :
    readInto address buffer = (read address buffer.length).bind fun delivery =>
      done (laidOver delivery.bytes buffer) := by
  simp only [readInto, read, bind_eq, bind_assoc, receiveInto_eq]
  rfl

end Buffers

/-! ## One byte after the other -/

/-- The control value that asks for byte `i` of so many: all but the last one are acknowledged. -/
def asksFor (length i : Nat) : UInt8 :=
  command (if i + 1 < length then Control.acknowledge else 0)

/-- The status that byte `i` of so many should come with. -/
def comesWith (length i : Nat) : UInt8 :=
  if i + 1 < length then Status.receivedAcknowledged else Status.receivedRefused

/-- What is known of the bytes that came over what was in a buffer. -/
structure BytesReceived (buffer : List UInt8) (said : Accesses) (count : Nat)
    (filled : List UInt8) : Prop where
  fresh : Fresh said
  awaited : ∀ step ∈ steps said, step.Awaited
  controls : (steps said).map Step.control =
    (List.range (min (count + 1) buffer.length)).map (asksFor buffer.length)
  silent : loads said = []
  count_le : count ≤ buffer.length
  came : ∀ i < count, shown said i = some (comesWith buffer.length i)
  missed : count < buffer.length → shown said count ≠ some (comesWith buffer.length count)
  front : filled.take count = received said
  rest : filled.drop count = buffer.drop count
  length_eq : filled.length = buffer.length

section BytesReceived
variable {old byte : UInt8} {rest filled : List UInt8} {here later said : Accesses} {count : Nat}
  {shows : Option UInt8}

theorem bytesReceived_nil : BytesReceived [] [] 0 [] :=
  ⟨fresh_nil, nofun, rfl, rfl, Nat.le_refl 0, nofun, nofun, rfl, rfl, rfl⟩

theorem asksFor_succ (length i : Nat) : asksFor (length + 1) (i + 1) = asksFor length i := by
  simp [asksFor]

theorem comesWith_succ (length i : Nat) : comesWith (length + 1) (i + 1) = comesWith length i := by
  simp [comesWith]

/-- A byte comes as it should, and the next one is asked for. -/
theorem BytesReceived.cons
    (asked : Stepped (asksFor (rest.length + 1) 0) here (some (comesWith (rest.length + 1) 0)))
    (silent : loads here = []) (brings : received here = [byte])
    (next : BytesReceived rest later count filled) :
    BytesReceived (old :: rest) (here ++ later) (count + 1) (byte :: filled) where
  fresh := asked.fresh_append
  awaited := asked.awaited_append next.fresh next.awaited
  controls := by
    rw [asked.controls_append next.fresh, next.controls, List.length_cons, Nat.add_min_add_right,
      List.range_succ_eq_map, List.map_cons, List.map_map]
    simp only [Function.comp_def, asksFor_succ]
  silent := by
    rw [loads_append, silent, next.silent]
    rfl
  count_le := Nat.succ_le_succ next.count_le
  came := by
    intro i inside
    cases i with
    | zero => exact asked.shown_zero next.fresh
    | succ i =>
      rw [asked.shown_succ next.fresh, List.length_cons, comesWith_succ]
      exact next.came i (Nat.lt_of_succ_lt_succ inside)
  missed := by
    intro short
    rw [asked.shown_succ next.fresh, List.length_cons, comesWith_succ]
    exact next.missed (Nat.lt_of_succ_lt_succ short)
  front := by
    rw [received_append, brings, List.take_succ_cons, next.front]
    rfl
  rest := next.rest
  length_eq := congrArg Nat.succ next.length_eq

/-- A byte does not come as it should, and the buffer stays as it is from there on. -/
theorem BytesReceived.stop (asked : Stepped (asksFor (rest.length + 1) 0) here shows)
    (silent : loads here = []) (brings : received here = [])
    (wrong : shows ≠ some (comesWith (rest.length + 1) 0)) :
    BytesReceived (old :: rest) here 0 (old :: rest) where
  fresh := asked.fresh
  awaited := asked.awaited
  controls := by
    rw [asked.controls]
    simp
  silent := silent
  count_le := Nat.zero_le _
  came := nofun
  missed _ := by
    rw [asked.shown_eq]
    exact wrong
  front := brings.symm
  rest := rfl
  length_eq := rfl

/-- **The bytes come in order, up to the first that does not come as it should.** -/
theorem bytesReceived_of_plays {buffer : List UInt8}
    (h : Plays (receiveOver buffer) said (count, filled)) :
    BytesReceived buffer said count filled := by
  induction buffer generalizing said count filled with
  | nil =>
    obtain ⟨rfl, same⟩ := plays_done_iff.mp h
    obtain ⟨rfl, rfl⟩ := Prod.mk.inj same
    exact bytesReceived_nil
  | cons old rest ih =>
    obtain ⟨here, later, byte?, rfl, receives, goesOn⟩ := plays_bind_iff.mp h
    obtain ⟨shows, stepped, silent, brings, judged⟩ := plays_receiveByte_step receives
    have asks : command (if decide (rest ≠ []) = true then Control.acknowledge else 0) =
        asksFor (rest.length + 1) 0 := by
      cases rest <;> rfl
    have expects : (if decide (rest ≠ []) = true then Status.receivedAcknowledged
        else Status.receivedRefused) = comesWith (rest.length + 1) 0 := by
      cases rest <;> rfl
    rw [asks] at stepped
    rw [expects] at judged
    cases byte? with
    | none =>
      obtain ⟨rfl, same⟩ := plays_done_iff.mp goesOn
      obtain ⟨rfl, rfl⟩ := Prod.mk.inj same
      rw [List.append_nil]
      exact .stop stepped silent brings (mt judged.mpr nofun)
    | some byte =>
      obtain ⟨later, nothing, ⟨count, filled⟩, rfl, receives, ends⟩ := plays_bind_iff.mp goesOn
      obtain ⟨rfl, same⟩ := plays_done_iff.mp ends
      obtain ⟨rfl, rfl⟩ := Prod.mk.inj same
      rw [List.append_nil]
      rw [judged.mp rfl] at stepped
      exact .cons stepped silent brings (ih receives)

theorem BytesReceived.asked (h : BytesReceived rest said count filled) {i : Nat} {step : Step}
    (here : (steps said)[i]? = some step) : step.control = asksFor rest.length i := by
  have mapped : ((steps said).map Step.control)[i]? = some step.control := by
    rw [List.getElem?_map, here]
    rfl
  rw [h.controls, List.getElem?_map] at mapped
  obtain ⟨j, place, same⟩ := Option.map_eq_some_iff.mp mapped
  obtain ⟨inside, value⟩ := List.getElem?_eq_some_iff.mp place
  rw [List.getElem_range] at value
  rw [← same, ← value]

theorem BytesReceived.length_steps (h : BytesReceived rest said count filled) :
    (steps said).length = min (count + 1) rest.length := by
  have lengths := congrArg List.length h.controls
  simpa using lengths

/-- As many bytes came as there are in the longest beginning that came as it should. -/
theorem BytesReceived.isGreatest (h : BytesReceived rest said count filled) :
    IsGreatest {n | n ≤ rest.length ∧ ∀ i < n, shown said i = some (comesWith rest.length i)}
      count := by
  refine ⟨⟨h.count_le, h.came⟩, fun n ⟨inside, came⟩ => ?_⟩
  by_contra more
  have short : count < n := Nat.lt_of_not_le more
  exact h.missed (Nat.lt_of_lt_of_le short inside) (came count short)

/-- A byte is asked for if there is room for it and all before it came as they should. -/
theorem BytesReceived.lt_length_steps_iff (h : BytesReceived rest said count filled) (i : Nat) :
    i < (steps said).length ↔
      i < rest.length ∧ ∀ j < i, shown said j = some (comesWith rest.length j) := by
  rw [h.length_steps]
  constructor
  · intro asked
    exact ⟨by omega, fun j before => h.came j (by omega)⟩
  · rintro ⟨room, came⟩
    by_contra unasked
    have short : count < i := by omega
    exact h.missed (by omega) (came count short)

end BytesReceived

/-! ## The whole read -/

/-- A device took the address to be read from. -/
def ReadTaken (said : Accesses) : Prop :=
  Began said ∧ shown said 1 = some Status.readAcknowledged

/-- Byte `i` of so many came as it should. -/
def Came (length : Nat) (said : Accesses) (i : Nat) : Prop :=
  shown said (i + 2) = some (comesWith length i)

/-- What a read puts into a buffer, and what it asks for. -/
structure ReadOver (address : UInt8) (buffer : List UInt8) (said : Accesses) (count : Nat)
    (filled : List UInt8) : Prop where
  awaited : ∀ step ∈ steps said, step.Awaited
  /-- For an empty buffer nothing is asked for. -/
  idle_iff : steps said = [] ↔ buffer = []
  /-- The address is all that is sent. -/
  loaded : (Began said → loads said = [2 * address + 1]) ∧ (¬Began said → loads said = [])
  /-- The count is the length of the longest beginning of the buffer that came as it should. -/
  counted : ReadTaken said →
    IsGreatest {n | n ≤ buffer.length ∧ ∀ i < n, Came buffer.length said i} count
  uncounted : buffer = [] ∨ ¬ReadTaken said → count = 0
  /-- Behind the address, one byte is asked for after the other until one goes wrong. -/
  requested_iff : ∀ i, i + 2 < (steps said).length ↔
    i < buffer.length ∧ ReadTaken said ∧ ∀ j < i, Came buffer.length said j
  /-- All but the last one are acknowledged. -/
  asked : ∀ i step, (steps said)[i + 2]? = some step → step.control = asksFor buffer.length i
  /-- What came stands at the front, in order. -/
  front : filled.take count = received said
  /-- Behind it the buffer is as it was. -/
  rest : filled.drop count = buffer.drop count
  length_eq : filled.length = buffer.length

section ReadOver
variable {address : UInt8} {buffer filled : List UInt8} {start addressed later said : Accesses}
  {started shows : Option UInt8} {count : Nat}

theorem readOver_nil : ReadOver address [] [] 0 [] where
  awaited := nofun
  idle_iff := by simp [steps]
  loaded := ⟨by simp [Began, shown, steps], fun _ => rfl⟩
  counted taken := by
    have nothing : ¬Began [] := by simp [Began, shown, steps]
    exact absurd taken.1 nothing
  uncounted _ := rfl
  requested_iff i := by simp [steps]
  asked i step := by simp [steps]
  front := rfl
  rest := rfl
  length_eq := rfl

/-- If there is no start, or the address is not taken, no byte is asked for. -/
theorem readOver_of_untaken (some_room : buffer ≠ []) (awaited : ∀ step ∈ steps said, step.Awaited)
    (begun : steps said ≠ []) (few : (steps said).length ≤ 2) (untaken : ¬ReadTaken said)
    (loaded : (Began said → loads said = [2 * address + 1]) ∧ (¬Began said → loads said = []))
    (nothing : received said = []) : ReadOver address buffer said 0 buffer where
  awaited := awaited
  idle_iff := iff_of_false begun some_room
  loaded := loaded
  counted taken := absurd taken untaken
  uncounted _ := rfl
  requested_iff i := by
    simp only [untaken, false_and, and_false, iff_false]
    omega
  asked i step here := by
    have inside := List.getElem?_eq_some_iff.mp here
    obtain ⟨bound, -⟩ := inside
    omega
  front := nothing.symm
  rest := rfl
  length_eq := rfl

/-- Once the address is taken, the bytes decide. -/
theorem readOver_of_taken (begins : Stepped (command Control.start) start started)
    (silent : loads start = []) (empty : received start = [])
    (began : started = some Status.started ∨ started = some Status.restarted)
    (sent : Stepped (command 0) addressed (some Status.readAcknowledged))
    (loaded : loads addressed = [readAddress address]) (empty' : received addressed = [])
    (some_room : buffer ≠ []) (bytes : BytesReceived buffer later count filled) :
    ReadOver address buffer (start ++ (addressed ++ later)) count filled := by
  have fresh : Fresh (addressed ++ later) := sent.fresh_append
  have zero : Began (start ++ (addressed ++ later)) := by
    rw [Began, begins.shown_zero fresh]
    exact began
  have one : shown (start ++ (addressed ++ later)) 1 = some Status.readAcknowledged := by
    rw [begins.shown_succ fresh, sent.shown_zero bytes.fresh]
  have byte (i : Nat) : shown (start ++ (addressed ++ later)) (i + 2) = shown later i := by
    rw [begins.shown_succ fresh, sent.shown_succ bytes.fresh]
  obtain ⟨first, split, -⟩ := begins.steps_append fresh
  obtain ⟨second, split', -⟩ := sent.steps_append bytes.fresh
  rw [split'] at split
  refine ⟨?_, ?_, ⟨fun _ => ?_, fun unbegun => absurd zero unbegun⟩, fun _ => ?_, ?_, fun i => ?_,
    ?_, ?_, bytes.rest, bytes.length_eq⟩
  · exact begins.awaited_append fresh (sent.awaited_append bytes.fresh bytes.awaited)
  · simp [split, some_room]
  · rw [loads_append, loads_append, silent, loaded, bytes.silent, readAddress_eq]
    rfl
  · simpa only [Came, byte] using bytes.isGreatest
  · rintro (empty | untaken)
    · exact absurd empty some_room
    · exact absurd ⟨zero, one⟩ untaken
  · simpa [split, ReadTaken, Came, zero, one, byte] using bytes.lt_length_steps_iff i
  · intro i step here
    rw [split] at here
    exact bytes.asked here
  · rw [received_append, received_append, empty, empty', bytes.front]
    rfl

/-- **What the unit shows decides what a read brings.** -/
theorem readOver_of_plays (h : Plays (receiveInto address buffer) said (count, filled)) :
    ReadOver address buffer said count filled := by
  unfold receiveInto at h
  split at h
  · rename_i nothing
    subst nothing
    obtain ⟨rfl, same⟩ := plays_done_iff.mp h
    obtain ⟨rfl, rfl⟩ := Prod.mk.inj same
    exact readOver_nil
  rename_i some_room
  obtain ⟨start, rest, ok, rfl, starts, goesOn⟩ := plays_bind_iff.mp h
  obtain ⟨started, begins, silent, empty, judged⟩ := plays_sendStart_step starts
  cases ok with
  | false =>
    obtain ⟨rfl, same⟩ := plays_done_iff.mp goesOn
    obtain ⟨rfl, rfl⟩ := Prod.mk.inj same
    rw [List.append_nil]
    have unbegun : ¬Began start := by
      rw [Began, begins.shown_eq]
      exact mt judged.mpr nofun
    obtain ⟨step, single, -⟩ := begins.single
    exact readOver_of_untaken some_room begins.awaited (by simp [single]) (by simp [single])
      (fun taken => unbegun taken.1) ⟨fun begun => absurd begun unbegun, fun _ => silent⟩ empty
  | true =>
    obtain ⟨addressed, later, shows, rfl, sends, goesOn⟩ := plays_bind_iff.mp goesOn
    obtain ⟨sent, loaded, empty'⟩ := plays_sendByte_step sends
    by_cases taken : shows = some Status.readAcknowledged
    · rw [if_pos taken] at goesOn
      subst taken
      exact readOver_of_taken begins silent empty (judged.mp rfl) sent loaded empty' some_room
        (bytesReceived_of_plays goesOn)
    · rw [if_neg taken] at goesOn
      obtain ⟨rfl, same⟩ := plays_done_iff.mp goesOn
      obtain ⟨rfl, rfl⟩ := Prod.mk.inj same
      rw [List.append_nil]
      have begun : Began (start ++ addressed) := by
        rw [Began, begins.shown_zero sent.fresh]
        exact judged.mp rfl
      have untaken : ¬ReadTaken (start ++ addressed) := by
        rw [ReadTaken, begins.shown_succ sent.fresh, sent.shown_eq]
        exact fun both => taken both.2
      obtain ⟨first, split, -⟩ := begins.steps_append sent.fresh
      obtain ⟨second, single, -⟩ := sent.single
      refine readOver_of_untaken some_room (begins.awaited_append sent.fresh sent.awaited)
        (by simp [split]) (by simp [split, single]) untaken
        ⟨fun _ => ?_, fun unbegun => absurd begun unbegun⟩ ?_
      · rw [loads_append, silent, loaded, readAddress_eq]
        rfl
      · rw [received_append, empty, empty']
        rfl

/-- A stop behind a read changes nothing of that. -/
theorem ReadOver.stop (h : ReadOver address buffer said count filled) :
    ReadOver address buffer (said ++ [stopAccess]) count filled where
  awaited := by simpa using h.awaited
  idle_iff := by simpa using h.idle_iff
  loaded := by simpa [Began] using h.loaded
  counted := by simpa [ReadTaken, Began, Came] using h.counted
  uncounted := by simpa [ReadTaken, Began] using h.uncounted
  requested_iff := by simpa [ReadTaken, Began, Came] using h.requested_iff
  asked := by simpa using h.asked
  front := by simpa using h.front
  rest := h.rest
  length_eq := h.length_eq

end ReadOver

/-- How a read into a buffer went. -/
structure ReadEnded (address : UInt8) (buffer : List UInt8) (said : Accesses) (count : Nat)
    (filled : List UInt8) : Prop extends ReadOver address buffer said count filled where
  /-- It is the read that all other work on the bus uses. -/
  delivered : ∃ delivery, Plays (read address buffer.length) said delivery ∧
    (count, filled) = laidOver delivery.bytes buffer
  /-- There is one stop, after everything else. -/
  stops_eq : stops said = 1
  stop_last : said.getLast? = some stopAccess

/-- **However the unit behaves, a read brings the longest beginning that came as it should, leaves
the rest of the buffer alone and releases the bus.** -/
theorem readEnded_of_plays {address : UInt8} {buffer filled : List UInt8} {said : Accesses}
    {count : Nat} (h : Plays (readInto address buffer) said (count, filled)) :
    ReadEnded address buffer said count filled := by
  have delivered : ∃ delivery, Plays (read address buffer.length) said delivery ∧
      (count, filled) = laidOver delivery.bytes buffer := by
    rw [readInto_eq] at h
    obtain ⟨first, second, delivery, rfl, reads, ends⟩ := plays_bind_iff.mp h
    obtain ⟨rfl, same⟩ := plays_done_iff.mp ends
    rw [List.append_nil]
    exact ⟨delivery, reads, same⟩
  have conducts : Conducts said false := by
    obtain ⟨delivery, reads, -⟩ := delivered
    exact conducts_read reads
  have inside : ReadOver address buffer said count filled := by
    obtain ⟨first, rfl, receives⟩ := plays_stop_behind h
    exact (readOver_of_plays receives).stop
  exact ⟨inside, delivered, conducts.stops_eq, conducts.getLast?⟩

/-- Of three bytes the second comes as if it were the last one. -/
theorem readEnded_of_plays_cut :
    let unit : ScriptedUnit :=
      { script := [{}, {}, { data := some 0xAB, busy := 3 }, { status := some 0x58 }] }
    let run := (readInto 0x58 [7, 8, 9]).transcribe ScriptedUnit.partner unit
    Plays (readInto 0x58 [7, 8, 9]) run.2.1 (run.1.1, run.1.2) ∧ run.1 = (1, [0xAB, 8, 9]) ∧
      ReadEnded 0x58 [7, 8, 9] run.2.1 run.1.1 run.1.2 := by
  intro unit run
  have plays : Plays (readInto 0x58 [7, 8, 9]) run.2.1 (run.1.1, run.1.2) := plays_transcribe _ _ _
  exact ⟨plays, by decide +kernel, readEnded_of_plays plays⟩

end SplitBoard.TwoWire

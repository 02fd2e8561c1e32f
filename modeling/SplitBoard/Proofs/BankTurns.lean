import SplitBoard.Proofs.Availability
import Mathlib.Data.List.Rotate

/-!
# Every dirty bank gets its turn

Dirty banks are sent one in each call.  The banks stand in a queue that begins with
the one whose turn it is (`LedBuffer.queue`).  A call tries the first dirty bank of
it, and whether or not that arrives, the bank goes to the end of the queue, and the
clean ones that stood before it with it (`LedBuffer.queue_pass`).

So the banks before one that waits become fewer with every call, whatever else
becomes dirty meanwhile: **no dirty bank waits for more calls than there are banks**
(`servedInTurn_of_streaming`).
-/

namespace SplitBoard

namespace LedBuffer

variable {leds : LedBuffer}

/-! ## The queue of the banks -/

/-- The banks in the order in which their turns come. -/
def queue (leds : LedBuffer) : List Nat :=
  (List.range leds.banks).map fun n => (leds.nextBank + n) % leds.banks

/-- The dirty banks in that order. -/
def dirtyQueue (leds : LedBuffer) : List Nat :=
  leds.queue.filter leds.isDirty

/-- The buffer once a bank had its turn. -/
def passTurn (leds : LedBuffer) (bank : Nat) : LedBuffer :=
  { leds with nextBank := (bank + 1) % max leds.banks 1 }

theorem queue_eq_rotate (leds : LedBuffer) :
    leds.queue = (List.range leds.banks).rotate leds.nextBank := by
  refine List.ext_getElem (by simp [queue]) fun i inside _ => ?_
  rw [List.getElem_rotate]
  simp [queue, Nat.add_comm]

/-- The bank whose turn it is stands first. -/
theorem exists_queue_eq_cons (inside : leds.nextBank < leds.banks) :
    ∃ after, leds.queue = leds.nextBank :: after := by
  obtain ⟨more, banks⟩ := Nat.exists_eq_add_of_lt inside
  rw [queue, banks, List.range_succ_eq_map, List.map_cons, Nat.add_zero,
    Nat.mod_eq_of_lt (by omega)]
  exact ⟨_, rfl⟩

theorem nodup_queue (leds : LedBuffer) : leds.queue.Nodup := by
  rw [queue_eq_rotate, List.nodup_rotate]
  exact List.nodup_range

theorem mem_queue_iff {bank : Nat} : bank ∈ leds.queue ↔ bank < leds.banks := by
  rw [queue_eq_rotate, List.mem_rotate, List.mem_range]

theorem length_queue (leds : LedBuffer) : leds.queue.length = leds.banks := by
  simp [queue]

/-- Cleaning a bank leaves the queue alone. -/
theorem queue_clearDirty (leds : LedBuffer) (bank : Nat) :
    (leds.clearDirty bank).queue = leds.queue := by
  rw [queue, queue, banks_clearDirty, nextBank_clearDirty]

theorem mem_dirtyQueue_iff {bank : Nat} : bank ∈ leds.dirtyQueue ↔ leds.isDirty bank = true := by
  rw [dirtyQueue, List.mem_filter, mem_queue_iff]
  exact ⟨And.right, fun dirty => ⟨lt_banks_of_isDirty dirty, dirty⟩⟩

theorem nodup_dirtyQueue (leds : LedBuffer) : leds.dirtyQueue.Nodup :=
  leds.nodup_queue.filter _

theorem nextDirtyBank?_eq_head? (leds : LedBuffer) :
    leds.nextDirtyBank? = leds.dirtyQueue.head? :=
  List.head?_filter.symm

/-- The bank that is found, and the clean ones that stand before it. -/
theorem split_queue {turn : Nat} (next : leds.nextDirtyBank? = some turn) :
    ∃ before after, leds.queue = before ++ turn :: after ∧
      ∀ bank ∈ before, leds.isDirty bank = false := by
  obtain ⟨-, before, after, split, clean⟩ := List.find?_eq_some_iff_append.mp next
  exact ⟨before, after, split, fun bank member => by simpa using clean bank member⟩

/-- A bank that had its turn goes to the end, with all that stood before it. -/
theorem queue_pass {turn : Nat} {before after : List Nat}
    (split : leds.queue = before ++ turn :: after) :
    (leds.passTurn turn).queue = after ++ (before ++ [turn]) := by
  have here : (before ++ turn :: after)[before.length]? = some turn := by simp
  have inside : before.length < leds.banks := by
    rw [← leds.length_queue, split]
    simp
  -- the bank is as far behind the first one as banks stand before it
  have place : turn = (leds.nextBank + before.length) % leds.banks := by
    rw [← split, queue, List.getElem?_map, List.getElem?_range inside] at here
    exact (Option.some.inj here).symm
  have first : (turn + 1) % leds.banks = (leds.nextBank + (before.length + 1)) % leds.banks := by
    rw [place, Nat.mod_add_mod, Nat.add_assoc]
  calc (leds.passTurn turn).queue
      = (List.range leds.banks).rotate ((turn + 1) % leds.banks) := by
        rw [queue_eq_rotate, passTurn, Nat.max_eq_left (by omega)]
        rfl
    _ = (List.range leds.banks).rotate (leds.nextBank + (before.length + 1)) := by
        rw [first]
        have whole := List.rotate_mod (List.range leds.banks) (leds.nextBank + (before.length + 1))
        rwa [List.length_range] at whole
    _ = leds.queue.rotate (before ++ [turn]).length := by
        rw [queue_eq_rotate, List.rotate_rotate, List.length_append, List.length_singleton]
    _ = after ++ (before ++ [turn]) := by
        rw [split, List.append_cons, List.rotate_append_length_eq]

/-- A bank that was sent when its turn came stands last and is clean. -/
theorem queue_passTurn_clearDirty (inside : leds.nextBank < leds.banks) :
    ∃ after, leds.queue = leds.nextBank :: after ∧
      ((leds.passTurn leds.nextBank).clearDirty leds.nextBank).queue =
        after ++ [leds.nextBank] := by
  obtain ⟨after, queued⟩ := exists_queue_eq_cons inside
  refine ⟨after, queued, ?_⟩
  rw [queue_clearDirty]
  exact @queue_pass leds _ [] after queued

theorem isDirty_passTurn_clearDirty {turn : Nat} (inside : turn < leds.banks) (bank : Nat) :
    ((leds.passTurn turn).clearDirty turn).isDirty bank =
      (leds.isDirty bank && decide (bank ≠ turn)) :=
  @isDirty_clearDirty (leds.passTurn turn) turn inside bank

/-- A dirty bank that is passed over comes nearer to the front. -/
theorem idxOf_queue_passTurn_lt {bank turn : Nat} (next : leds.nextDirtyBank? = some turn)
    (dirty : leds.isDirty bank = true) (other : bank ≠ turn) :
    (leds.passTurn turn).queue.idxOf bank < leds.queue.idxOf bank := by
  obtain ⟨before, after, split, clean⟩ := split_queue next
  have notBefore : bank ∉ before := by
    intro member
    cases (clean bank member).symm.trans dirty
  have behind : bank ∈ after := by
    have waits : bank ∈ leds.queue := mem_queue_iff.mpr (lt_banks_of_isDirty dirty)
    rw [split, List.mem_append, List.mem_cons] at waits
    rcases waits with early | same | late
    · exact absurd early notBefore
    · exact absurd same other
    · exact late
  rw [queue_pass split, split, List.idxOf_append_of_mem behind,
    List.idxOf_append_of_notMem notBefore, List.idxOf_cons_ne _ other.symm]
  omega

/-- Once the first dirty bank is clean, the others are those that were left. -/
theorem dirtyQueue_passTurn_clearDirty {turn : Nat} {rest : List Nat}
    (queued : leds.dirtyQueue = turn :: rest) :
    ((leds.passTurn turn).clearDirty turn).dirtyQueue = rest := by
  have next : leds.nextDirtyBank? = some turn := by
    rw [nextDirtyBank?_eq_head?, queued]
    rfl
  have dirty := isDirty_of_nextDirtyBank? next
  obtain ⟨before, after, split, clean⟩ := split_queue next
  have cleaned := isDirty_passTurn_clearDirty (lt_banks_of_isDirty dirty)
  have order : ((leds.passTurn turn).clearDirty turn).queue = after ++ (before ++ [turn]) := by
    rw [queue_clearDirty, queue_pass split]
  have left : after.filter leds.isDirty = rest := by
    rw [dirtyQueue, split, List.filter_append, List.filter_cons_of_pos dirty,
      List.filter_eq_nil_iff.mpr (by simpa using clean)] at queued
    exact (List.cons.inj queued).2
  have notLater : turn ∉ after := by
    have once := leds.nodup_queue
    rw [split, List.nodup_append, List.nodup_cons] at once
    exact once.2.1.1
  have none : (before ++ [turn]).filter ((leds.passTurn turn).clearDirty turn).isDirty = [] := by
    refine List.filter_eq_nil_iff.mpr fun bank member => ?_
    rw [cleaned]
    rcases List.mem_append.mp member with early | same
    · simp [clean bank early]
    · simp [List.mem_singleton.mp same]
  rw [dirtyQueue, order, List.filter_append, none, List.append_nil, ← left]
  refine List.filter_congr fun bank member => ?_
  have other : bank ≠ turn := fun same => notLater (same ▸ member)
  rw [cleaned, decide_eq_true other, Bool.and_true]

/-! ## Changes on the way -/

/-- More banks may be dirty, but the queue is the same. -/
structure Soils (leds leds' : LedBuffer) : Prop where
  banks_eq : leds'.banks = leds.banks
  nextBank_eq : leds'.nextBank = leds.nextBank
  dirty : ∀ bank, leds.isDirty bank = true → leds'.isDirty bank = true

theorem Soils.refl (leds : LedBuffer) : leds.Soils leds := ⟨rfl, rfl, fun _ dirty => dirty⟩

theorem Soils.trans {mid leds' : LedBuffer} (h : leds.Soils mid) (h' : mid.Soils leds') :
    leds.Soils leds' where
  banks_eq := h'.banks_eq.trans h.banks_eq
  nextBank_eq := h'.nextBank_eq.trans h.nextBank_eq
  dirty := fun bank dirty => h'.dirty bank (h.dirty bank dirty)

theorem Soils.queue_eq {leds' : LedBuffer} (h : leds.Soils leds') : leds'.queue = leds.queue := by
  rw [queue, queue, h.banks_eq, h.nextBank_eq]

theorem soils_set (leds : LedBuffer) (index : Nat) (color : Color) :
    leds.Soils (leds.set index color) := by
  rcases set_cases leds index color with same | ⟨-, changed⟩
  · rw [same]
    exact .refl leds
  · rw [changed]
    refine ⟨rfl, rfl, fun bank dirty => ?_⟩
    simp only [isDirty, Bool.and_eq_true] at dirty
    rw [isDirty, banks_recolor, dirty.1, Bool.true_and, recolor, BitVec.getLsbD_or, dirty.2,
      Bool.true_or]

theorem soils_fill (leds : LedBuffer) (color : Color) : leds.Soils (leds.fill color) := by
  have step : ∀ (indices : List Nat) (leds : LedBuffer),
      leds.Soils (indices.foldl (fun leds index => leds.set index color) leds) := by
    intro indices
    induction indices with
    | nil => exact .refl
    | cons index indices ih => exact fun leds => (soils_set leds index color).trans (ih _)
  exact step _ leds

theorem soils_markAllDirty (leds : LedBuffer) : leds.Soils leds.markAllDirty := by
  refine ⟨rfl, rfl, fun bank dirty => ?_⟩
  have inside := lt_banks_of_isDirty dirty
  have small : bank < 16 := by
    simp only [isDirty, Bool.and_eq_true] at dirty
    exact BitVec.lt_of_getLsbD dirty.2
  have same : leds.markAllDirty.banks = leds.banks := rfl
  rw [isDirty, same, decide_eq_true inside, markAllDirty]
  simp [small, inside]

end LedBuffer

namespace Half

open Dialogue Bus

/-! ## Runs -/

/-- A change of what the LEDs should look like. -/
inductive Repaint where
  | set (index : Nat) (color : Color)
  | fill (color : Color)
  | markAllDirty
  | setBrightness (brightness : UInt8)

/-- Make the change. -/
def Repaint.apply (half : Half) : Repaint → Half
  | set index color => half.mapLeds (·.set index color)
  | fill color => half.mapLeds (·.fill color)
  | markAllDirty => half.mapLeds (·.markAllDirty)
  | setBrightness brightness => half.setBrightness brightness

/-- A call for the next dirty bank: the half as it was before, what was said, and what came of
it. -/
structure Turn where
  before : Half
  said : Talk
  result : Except LinkError Bool

/-- Calls for the next dirty bank with changes in between, on any bus. -/
inductive Streaming : Half → List (Repaint ⊕ Turn) → Half → Prop where
  | nil {half : Half} : Streaming half [] half
  | repaint {half half' : Half} {moves : List (Repaint ⊕ Turn)} (change : Repaint)
      (rest : Streaming (change.apply half) moves half') :
      Streaming half (.inl change :: moves) half'
  | call {half mid half' : Half} {moves : List (Repaint ⊕ Turn)} {said : Talk}
      {result : Except LinkError Bool}
      (plays : Plays (perform sendNextDirtyBank half) said (result, mid))
      (rest : Streaming mid moves half') :
      Streaming half (.inr ⟨half, said, result⟩ :: moves) half'

/-- The calls of a run. -/
def turns (moves : List (Repaint ⊕ Turn)) : List Turn :=
  moves.filterMap Sum.getRight?

/-- The call was for this bank: it wrote the bank's frame and nothing else but a probe, and it
succeeded exactly if the frame arrived. -/
def Turn.Tries (bank : Nat) (turn : Turn) : Prop :=
  ∃ sent, turn.said = ⟨.tell (.sendingBank bank turn.before.address), ()⟩ :: sent ∧
    WritesOnly turn.before.address (· = turn.before.bankFrame bank) sent ∧
    (turn.result = .ok true ↔
      ⟨.write turn.before.address (turn.before.bankFrame bank), Transmission.complete⟩ ∈ sent)

/-- Every write of the call completed. -/
def Turn.Undisturbed (turn : Turn) : Prop :=
  ∀ (address : UInt8) (bytes : List UInt8) (status : Transmission),
    ⟨.write address bytes, status⟩ ∈ turn.said → status = .complete

/-- The call brought the bank's frame to the half, in one write and at most a probe before it. -/
def Delivers (half : Half) (bank : Nat) (turn : Turn) : Prop :=
  turn.result = .ok true ∧ ∃ probe,
    transactions turn.said =
      probe ++ [⟨.write half.address (half.bankFrame bank), Transmission.complete⟩] ∧
    (probe = [] ∨
      half.countdown = 1 ∧ probe = [⟨.write half.address [], Transmission.complete⟩])

/-- How the banks of a half are served in a run. -/
structure ServedInTurn (half : Half) (moves : List (Repaint ⊕ Turn)) : Prop where
  /-- A dirty bank is tried in one of the next calls, as many as there are banks. -/
  tried : ∀ bank, half.leds.isDirty bank = true → half.leds.banks ≤ (turns moves).length →
    ∃ turn ∈ (turns moves).take half.leds.banks, turn.Tries bank
  /-- Every dirty bank stands in the queue once. -/
  queued : half.leds.dirtyQueue.Nodup ∧
    ∀ bank, bank ∈ half.leds.dirtyQueue ↔ half.leds.isDirty bank = true
  /-- If nothing is changed on the way and everything arrives, the dirty banks are delivered as they
  stand in the queue, one in each call, and the next call has nothing to do. -/
  delivered : ∀ (sends : List Turn) (last : Turn), moves = (sends ++ [last]).map .inr →
    sends.length = half.leds.dirtyQueue.length → half.countdown = 0 ∨ half.countdown = 1 →
    (∀ turn ∈ sends ++ [last], turn.Undisturbed) →
    List.Forall₂ (Delivers half) half.leds.dirtyQueue sends ∧
      last.result = .ok false ∧ last.said = []

section Runs
variable {half mid half' : Half} {moves : List (Repaint ⊕ Turn)} {said : Talk}
  {result : Except LinkError Bool} {bank turn : Nat}

theorem soils_repaint (half : Half) (change : Repaint) :
    half.leds.Soils (change.apply half).leds := by
  cases change with
  | set index color => exact LedBuffer.soils_set _ index color
  | fill color => exact LedBuffer.soils_fill _ color
  | markAllDirty => exact LedBuffer.soils_markAllDirty _
  | setBrightness => exact .refl _

/-- A call is for the first dirty bank. -/
theorem Streams.tries (h : Streams half said result mid)
    (next : half.leds.nextDirtyBank? = some turn) : Turn.Tries turn ⟨half, said, result⟩ := by
  have content : half.bankFrame turn ≠ [] := List.cons_ne_nil _ _
  cases h with
  | clean none => cases next.symm.trans none
  | @sent found next' _ _ sends =>
    obtain rfl := Option.some.inj (next.symm.trans next')
    refine ⟨_, rfl, sends.writesOnly rfl, ?_⟩
    exact iff_of_true rfl ((sends.mem_iff content).mpr rfl)
  | @unsent found next' _ _ _ sends =>
    obtain rfl := Option.some.inj (next.symm.trans next')
    refine ⟨_, rfl, sends.writesOnly rfl, ?_⟩
    exact iff_of_false nofun fun arrived => nomatch (sends.mem_iff content).mp arrived

/-- Whether or not the bank arrived, its turn has passed, and no other bank is clean for it. -/
theorem Streams.leds_cases (h : Streams half said result mid)
    (next : half.leds.nextDirtyBank? = some turn) :
    mid.leds = half.leds.passTurn turn ∨
      mid.leds = (half.leds.passTurn turn).clearDirty turn := by
  cases h with
  | clean none => cases next.symm.trans none
  | @sent found next' _ _ sends =>
    obtain rfl := Option.some.inj (next.symm.trans next')
    exact .inr (congrArg (LedBuffer.clearDirty · turn) sends.moved.leds_eq)
  | @unsent found next' _ _ _ sends =>
    obtain rfl := Option.some.inj (next.symm.trans next')
    exact .inl sends.moved.leds_eq

/-- Another dirty bank stays dirty and comes nearer to the front. -/
theorem Streams.nearer (h : Streams half said result mid)
    (next : half.leds.nextDirtyBank? = some turn) (dirty : half.leds.isDirty bank = true)
    (other : bank ≠ turn) :
    mid.leds.isDirty bank = true ∧ mid.leds.queue.idxOf bank < half.leds.queue.idxOf bank := by
  have found : turn < half.leds.banks :=
    LedBuffer.lt_banks_of_isDirty (LedBuffer.isDirty_of_nextDirtyBank? next)
  have inside : turn < (half.leds.passTurn turn).banks := found
  have nearer := LedBuffer.idxOf_queue_passTurn_lt next dirty other
  rcases h.leds_cases next with same | cleared
  · rw [same]
    exact ⟨dirty, nearer⟩
  · rw [cleared]
    refine ⟨?_, ?_⟩
    · rw [LedBuffer.isDirty_clearDirty inside, decide_eq_true other, Bool.and_true]
      exact dirty
    · rw [LedBuffer.clearDirty, if_pos inside]
      exact nearer

/-- **A dirty bank is tried before as many calls are over as banks stand before it.**  The induction
is on the run; a call for another bank brings the bank nearer to the front of the queue. -/
theorem Streaming.tried (h : Streaming half moves half') (dirty : half.leds.isDirty bank = true)
    (many : half.leds.queue.idxOf bank < (turns moves).length) :
    ∃ turn ∈ (turns moves).take (half.leds.queue.idxOf bank + 1), turn.Tries bank := by
  induction h with
  | nil => exact absurd many (Nat.not_lt_zero _)
  | @repaint half half' moves change rest ih =>
    have soils := soils_repaint half change
    rw [← soils.queue_eq] at many ⊢
    exact ih (soils.dirty bank dirty) many
  | @call half mid half' moves said result plays rest ih =>
    have streams := plays_sendNextDirtyBank plays
    rcases next : half.leds.nextDirtyBank? with _ | turn
    · -- a dirty bank would have been found
      rw [LedBuffer.nextDirtyBank?_eq_head?, List.head?_eq_none_iff] at next
      have member := LedBuffer.mem_dirtyQueue_iff.mpr dirty
      rw [next] at member
      cases member
    · by_cases same : bank = turn
      · subst same
        exact ⟨_, List.mem_cons_self, streams.tries next⟩
      · obtain ⟨still, nearer⟩ := streams.nearer next dirty same
        have more : half.leds.queue.idxOf bank < (turns moves).length + 1 := many
        obtain ⟨turn, soon, tries⟩ := ih still (by omega)
        refine ⟨turn, List.mem_cons_of_mem _ ?_, tries⟩
        exact List.take_subset_take_left _ (by omega) soon

/-! ## On a bus where everything arrives -/

/-- A request arrives at a half that is there or is there once it is probed. -/
theorem Sends.delivers {request : List UInt8} {sent : Except LinkError Unit}
    (h : Sends request half said sent half') (available : half.countdown = 0 ∨ half.countdown = 1)
    (undisturbed : ∀ (address : UInt8) (bytes : List UInt8) (status : Transmission),
      ⟨.write address bytes, status⟩ ∈ said → status = .complete) :
    sent = .ok () ∧ half'.countdown = 0 ∧ ∃ probe,
      transactions said = probe ++ [⟨.write half.address request, Transmission.complete⟩] ∧
      (probe = [] ∨
        half.countdown = 1 ∧ probe = [⟨.write half.address [], Transmission.complete⟩]) := by
  cases h with
  | unavailable consults =>
    cases consults with
    | absent due refused => exact absurd (undisturbed _ _ _ List.mem_cons_self) refused
    | silent away early =>
      rcases available with here | due
      · exact absurd here away
      · exact absurd due early
  | refused consults refused =>
    exact absurd (undisturbed _ _ _ (List.mem_append_right _ List.mem_cons_self)) refused
  | acknowledged consults =>
    refine ⟨rfl, consults.countdown_eq_zero, ?_⟩
    rw [consults.moved.address_eq]
    cases consults with
    | present here => exact ⟨[], rfl, .inl rfl⟩
    | returned due => exact ⟨_, rfl, .inr ⟨due, rfl⟩⟩

/-- What is left to be delivered after a call. -/
theorem Streams.delivers (h : Streams half said result mid)
    (available : half.countdown = 0 ∨ half.countdown = 1)
    (undisturbed : Turn.Undisturbed ⟨half, said, result⟩)
    (next : half.leds.nextDirtyBank? = some turn) :
    Delivers half turn ⟨half, said, result⟩ ∧ mid.countdown = 0 ∧
      mid.leds = (half.leds.passTurn turn).clearDirty turn ∧ mid.address = half.address ∧
      ∀ bank, mid.bankFrame bank = half.bankFrame bank := by
  cases h with
  | clean none => cases next.symm.trans none
  | @sent found next' said half₁ sends =>
    obtain rfl := Option.some.inj (next.symm.trans next')
    obtain ⟨-, here, probe, sent, probed⟩ := sends.delivers available
      fun address bytes status member => undisturbed _ _ _ (List.mem_cons_of_mem _ member)
    refine ⟨⟨rfl, probe, sent, probed⟩, here, ?_, sends.moved.address_eq, fun bank => ?_⟩
    · exact congrArg (LedBuffer.clearDirty · turn) sends.moved.leds_eq
    · exact (LedBuffer.frame_clearDirty half₁.leds _ _ turn bank).trans
        (sends.moved.bankFrame_eq bank)
  | @unsent found next' _ error _ sends =>
    obtain ⟨ok, -⟩ := sends.delivers available
      fun address bytes status member => undisturbed _ _ _ (List.mem_cons_of_mem _ member)
    cases ok

/-- The induction is on the banks that are left. -/
theorem Streaming.delivered {sends : List Turn} {last : Turn}
    (h : Streaming half ((sends ++ [last]).map .inr) half')
    (each : sends.length = half.leds.dirtyQueue.length)
    (available : half.countdown = 0 ∨ half.countdown = 1)
    (undisturbed : ∀ turn ∈ sends ++ [last], turn.Undisturbed) :
    List.Forall₂ (Delivers half) half.leds.dirtyQueue sends ∧
      last.result = .ok false ∧ last.said = [] := by
  induction sends generalizing half with
  | nil =>
    have none : half.leds.dirtyQueue = [] := List.eq_nil_of_length_eq_zero each.symm
    rw [none]
    cases h with
    | call plays rest =>
      cases plays_sendNextDirtyBank plays with
      | clean => exact ⟨.nil, rfl, rfl⟩
      | sent next | unsent next =>
        rw [LedBuffer.nextDirtyBank?_eq_head?, none] at next
        cases next
  | cons first sends ih =>
    obtain ⟨turn, waiting, queued⟩ : ∃ turn waiting, half.leds.dirtyQueue = turn :: waiting := by
      refine List.exists_cons_of_length_pos ?_
      rw [← each, List.length_cons]
      omega
    have next : half.leds.nextDirtyBank? = some turn := by
      rw [LedBuffer.nextDirtyBank?_eq_head?, queued]
      rfl
    rw [queued] at each ⊢
    cases h with
    | @call _ mid _ _ _ _ plays rest =>
      obtain ⟨delivers, here, leds, address, frames⟩ := (plays_sendNextDirtyBank plays).delivers
        available (undisturbed _ List.mem_cons_self) next
      have left : mid.leds.dirtyQueue = waiting := by
        rw [leds]
        exact LedBuffer.dirtyQueue_passTurn_clearDirty queued
      obtain ⟨others, done⟩ := ih rest (by rw [left]; simpa using each) (.inl here)
        fun turn member => undisturbed turn (List.mem_cons_of_mem _ member)
      rw [left] at others
      refine ⟨.cons delivers (others.imp fun bank turn arrived => ?_), done⟩
      -- the half has been found, so it is not probed again
      obtain ⟨ok, probe, sent, probed⟩ := arrived
      rw [address, frames bank] at sent
      rcases probed with none | ⟨due, -⟩
      · exact ⟨ok, probe, sent, .inl none⟩
      · cases here.symm.trans due

/-- **No dirty bank starves**: whatever the bus answers and whatever else is painted meanwhile, each
is tried within as many calls as there are banks; and they are delivered in turn if nothing is in
the way. -/
theorem servedInTurn_of_streaming (h : Streaming half moves half') : ServedInTurn half moves where
  tried bank dirty many := by
    have waits : half.leds.queue.idxOf bank < half.leds.banks := by
      rw [← half.leds.length_queue, List.idxOf_lt_length_iff]
      exact LedBuffer.mem_queue_iff.mpr (LedBuffer.lt_banks_of_isDirty dirty)
    obtain ⟨turn, soon, tries⟩ := h.tried dirty (Nat.lt_of_lt_of_le waits many)
    exact ⟨turn, List.take_subset_take_left _ waits soon, tries⟩
  queued := ⟨half.leds.nodup_dirtyQueue, fun _ => LedBuffer.mem_dirtyQueue_iff⟩
  delivered sends last only each available undisturbed := by
    subst only
    exact h.delivered each available undisturbed

end Runs

/-! ## Runs on a given bus -/

section Partner
variable {σ : Type} (partner : Partner vocabulary σ)

/-- Call for the next dirty bank on a bus, with changes in between. -/
def stream (half : Half) (state : σ) :
    List (Option Repaint) → List (Repaint ⊕ Turn) × Half × σ
  | [] => ([], half, state)
  | some change :: rest =>
    let (moves, after) := stream (change.apply half) state rest
    (.inl change :: moves, after)
  | none :: rest =>
    let ((result, mid), said, state) := (perform sendNextDirtyBank half).transcribe partner state
    let (moves, after) := stream mid state rest
    (.inr ⟨half, said, result⟩ :: moves, after)

theorem streaming_stream (half : Half) (state : σ) (changes : List (Option Repaint)) :
    Streaming half (stream partner half state changes).1
      (stream partner half state changes).2.1 := by
  induction changes generalizing half state with
  | nil => exact .nil
  | cons change? rest ih =>
    cases change? with
    | some change => exact .repaint change (ih _ _)
    | none => exact .call (plays_transcribe partner _ _) (ih _ _)

end Partner

/-- A half with four dirty banks on both sides of the one whose turn it is. -/
def patched : Half :=
  [8, 24, 48, 64].foldl (fun half index => half.mapLeds (·.set index ⟨1, 1, 1⟩))
    ((new 0 .raise).mapLeds (·.setNextBank 5))

/-- One run where the first frame is refused and a fifth bank becomes dirty, and one where nothing
is in the way. -/
theorem servedInTurn_of_streaming_patched :
    patched.leds.dirtyQueue = [6, 8, 1, 3] ∧
    (let run := stream Script.partner patched { statuses := [.complete, .dataNack] }
      [none, some (.set 40 ⟨1, 1, 1⟩), none, none, none, none, none, none]
    Streaming patched run.1 run.2.1 ∧
      (turns run.1).map (·.result.toOption) =
        [none, some true, some true, some true, some true, some true, some false] ∧
      ServedInTurn patched run.1) ∧
    (let run := stream Script.partner patched {} [none, none, none, none, none]
    Streaming patched run.1 run.2.1 ∧
      (turns run.1).map (fun turn => (turn.result.toOption, (transactions turn.said).length)) =
        [(some true, 2), (some true, 1), (some true, 1), (some true, 1), (some false, 0)] ∧
      ServedInTurn patched run.1) := by
  have refused := streaming_stream Script.partner patched { statuses := [.complete, .dataNack] }
    [none, some (.set 40 ⟨1, 1, 1⟩), none, none, none, none, none, none]
  have smooth := streaming_stream Script.partner patched {} [none, none, none, none, none]
  refine ⟨by decide +kernel, ⟨refused, by decide +kernel, ?_⟩, ⟨smooth, by decide +kernel, ?_⟩⟩
  · exact servedInTurn_of_streaming refused
  · exact servedInTurn_of_streaming smooth

end Half
end SplitBoard

import SplitBoard.Proofs.LedHistory

/-!
# What a buffer always is

A buffer that was made for a layout and went through any steps is described completely by
the layout and the steps (`Represents`): the limits that the layout is clamped to hold at
any time, the colors and the dirty banks are what the steps left, and **no machine looks
beyond a table, cuts beyond a slice, shifts beyond a word or divides by zero for any
further step**, whatever its arguments are.

Only the numbers of places can be too large, for banks that are far behind the last one.
A machine that cuts such numbers down goes on, and one that does not stops there and at
nothing else.
-/

namespace SplitBoard

/-- Which places a step writes depends on the layout only. -/
theorem LedStep.numbered_congr {limit : Nat} {leds leds' : LedBuffer}
    (perBank : leds'.perBank = leds.perBank) (step : LedStep) :
    step.Numbered limit leds' ↔ step.Numbered limit leds := by
  cases step with
  | writeBank | assemble =>
    simp only [Numbered, LedBuffer.Numbered, LedBuffer.bankBytes, perBank]
  | _ => exact Iff.rfl

namespace LedBuffer

open Machine

variable {words : Words} {layout : LedLayout} {leds : LedBuffer} {steps : List LedStep}

/-- The places of a bank have numbers if those of the banks up to it have. -/
theorem numbered_of_mul_le {bank : Nat} (near : (bank + 1) * leds.perBank ≤ words.limit)
    (room : Nat) : leds.Numbered words.limit bank room := by
  intro place inside
  have few : place < leds.perBank := by
    rw [partsFor_three, bankBytes] at inside
    omega
  calc bank * leds.perBank + place
      < bank * leds.perBank + leds.perBank := Nat.add_lt_add_left few _
    _ = (bank + 1) * leds.perBank := (Nat.succ_mul bank leds.perBank).symm
    _ ≤ words.limit := near

/-! ## A machine on its way -/

theorem checkedRun_concat (words : Words) (layout : LedLayout) (steps : List LedStep)
    (step : LedStep) :
    checkedRun words layout (steps ++ [step]) = checkedRun words layout steps >>= fun leds =>
      Prod.snd <$> leds.checkedPerform words step := by
  simp only [checkedRun, List.foldlM_append, List.foldlM_cons, List.foldlM_nil, bind_pure,
    bind_assoc]

/-- The machine comes through the steps if places are numbered or numbers are cut down.  The
induction is on the steps, the last one first; at each the machine is where the steps before have
left the buffer. -/
theorem checkedRun_eq (wide : 0x10000 ≤ words.limit)
    (goes : (∀ step ∈ steps, step.Numbered words.limit (new layout)) ∨ words.wraps = true) :
    checkedRun words layout steps = .ok ((new layout).run steps) := by
  induction steps using List.reverseRecOn with
  | nil =>
    rw [checkedRun, checkedNew_eq wide]
    rfl
  | append_singleton steps step ih =>
    have reachable := reachable_run layout steps
    have before : (∀ earlier ∈ steps, earlier.Numbered words.limit (new layout)) ∨
        words.wraps = true :=
      goes.imp_left fun numbered earlier member =>
        numbered earlier (List.mem_append_left [step] member)
    have here : ∃ answer, ((new layout).run steps).checkedPerform words step =
        .ok (answer, (((new layout).run steps).perform step).2) := by
      rcases goes with numbered | wraps
      · have last := numbered step (List.mem_append_right steps (List.mem_singleton_self step))
        rw [← LedStep.numbered_congr reachable.layout_eq.2] at last
        exact ⟨_, checkedPerform_eq wide reachable.wellFormed reachable.nextBank_lt last⟩
      · exact exists_checkedPerform wide wraps reachable.wellFormed reachable.nextBank_lt step
    obtain ⟨answer, performs⟩ := here
    rw [checkedRun_concat, ih before, ok_bind, performs, map_ok, run_concat]

/-- Otherwise it stops, and a number is the reason. -/
theorem checkedRun_stops (wide : 0x10000 ≤ words.limit) (narrow : words.wraps = false)
    (large : ∃ step ∈ steps, ¬step.Numbered words.limit (new layout)) :
    checkedRun words layout steps = .error .overflow := by
  induction steps using List.reverseRecOn with
  | nil =>
    obtain ⟨step, none, -⟩ := large
    exact absurd none List.not_mem_nil
  | append_singleton steps last ih =>
    rw [checkedRun_concat]
    by_cases earlier : ∃ step ∈ steps, ¬step.Numbered words.limit (new layout)
    · rw [ih earlier, error_bind]
    · have numbered : ∀ step ∈ steps, step.Numbered words.limit (new layout) := by
        simpa using earlier
      have reachable := reachable_run layout steps
      have stops : ¬last.Numbered words.limit ((new layout).run steps) := by
        rw [LedStep.numbered_congr reachable.layout_eq.2]
        obtain ⟨step, member, large⟩ := large
        rcases List.mem_append.mp member with early | late
        · exact absurd (numbered step early) large
        · rwa [List.mem_singleton.mp late] at large
      rw [checkedRun_eq wide (.inl numbered), ok_bind,
        checkedPerform_stops wide narrow reachable.wellFormed stops]
      rfl

theorem checkedRun_error (wide : 0x10000 ≤ words.limit) {trap : Trap}
    (failed : checkedRun words layout steps = .error trap) :
    trap = .overflow ∧ words.wraps = false ∧
      ∃ step ∈ steps, ¬step.Numbered words.limit (new layout) := by
  have large : ¬((∀ step ∈ steps, step.Numbered words.limit (new layout)) ∨
      words.wraps = true) := by
    intro goes
    cases (checkedRun_eq wide goes).symm.trans failed
  rw [not_or, Bool.not_eq_true] at large
  obtain ⟨large, narrow⟩ := large
  have missing : ∃ step ∈ steps, ¬step.Numbered words.limit (new layout) := by
    simpa using large
  have overflow := (checkedRun_stops wide narrow missing).symm.trans failed
  exact ⟨(Except.error.inj overflow).symm, narrow, missing⟩

/-! ## All there is to a buffer -/

/-- What holds of a buffer that was made for a layout and went through some steps. -/
structure Represents (words : Words) (layout : LedLayout) (steps : List LedStep)
    (leds : LedBuffer) : Prop where
  one_le_perBank : 1 ≤ leds.perBank
  perBank_le : leds.perBank ≤ 16
  count_le : leds.count ≤ 72
  banks_le : leds.banks ≤ 16
  bankBytes_le : leds.bankBytes ≤ 48
  nextBank_lt : leds.nextBank < max 1 leds.banks
  /-- Every LED belongs to a bank. -/
  bank_lt : ∀ index < leds.count, index / leds.perBank < leds.banks
  /-- Banks that the buffer does not have are neither marked nor dirty. -/
  unmarked : ∀ bank, leds.banks ≤ bank →
    leds.dirty.getLsbD bank = false ∧ leds.isDirty bank = false
  /-- Every LED shows the color that it was given last. -/
  shown : ∀ index < leds.count, leds.get? index = some (colorGiven index steps)
  /-- A bank is dirty exactly if, since it was cleaned last, one of its LEDs got another color or
  all banks were marked. -/
  dirty_iff : ∀ bank < leds.banks, leds.isDirty bank = true ↔ Stained layout bank steps
  /-- The machine went through all steps to come here. -/
  came : (∀ step ∈ steps, step.Numbered words.limit leds) ∨ words.wraps = true →
    checkedRun words layout steps = .ok leds
  /-- If it did not, that was because of a number that it did not cut down. -/
  stopped : ∀ trap, checkedRun words layout steps = .error trap → trap = .overflow ∧
    words.wraps = false ∧ ∃ step ∈ steps, ¬step.Numbered words.limit leds
  /-- It goes through any further step whose places have numbers, and does what the step says. -/
  performs : ∀ step : LedStep, step.Numbered words.limit leds →
    leds.checkedPerform words step = .ok (leds.perform step)
  /-- If it cuts numbers down, it goes through all steps. -/
  goes_on : words.wraps = true → ∀ step, ∃ answer,
    leds.checkedPerform words step = .ok (answer, (leds.perform step).2)
  /-- If it stops, it is at a number that it does not cut down. -/
  stops : ∀ step trap, leds.checkedPerform words step = .error trap → trap = .overflow ∧
    words.wraps = false ∧ ¬step.Numbered words.limit leds
  /-- Places have numbers up to banks that are far behind the last one. -/
  numbered : ∀ bank room, (bank + 1) * leds.perBank ≤ words.limit →
    leds.Numbered words.limit bank room

/-- **Whatever a buffer went through, it is as the steps left it**, and nothing that can be asked of
it next leads beyond the limits of the machine. -/
theorem represents_run (wide : 0x10000 ≤ words.limit) (layout : LedLayout) (steps : List LedStep) :
    Represents words layout steps ((new layout).run steps) := by
  have reachable := reachable_run layout steps
  have fits := reachable.wellFormed
  have turn := reachable.nextBank_lt
  have count := reachable.layout_eq.1
  have perBank := reachable.layout_eq.2
  have banks := banks_congr count perBank
  exact {
    one_le_perBank := fits.perBank_pos
    perBank_le := fits.perBank_le
    count_le := fits.count_le
    banks_le := fits.banks_le
    bankBytes_le := Nat.mul_le_mul_left 3 fits.perBank_le
    nextBank_lt := Nat.max_comm _ _ ▸ turn
    bank_lt := fun _ => fits.div_lt_banks
    unmarked := fun bank outside => by
      rw [isDirty, reachable.unmarked outside, Bool.and_false]
      exact ⟨rfl, rfl⟩
    shown := fun index inside => get?_run steps (count ▸ inside)
    dirty_iff := fun bank inside => isDirty_run_iff steps (banks ▸ inside)
    came := fun goes => by
      simp only [LedStep.numbered_congr perBank] at goes
      exact checkedRun_eq wide goes
    stopped := fun trap failed => by
      simp only [LedStep.numbered_congr perBank]
      exact checkedRun_error wide failed
    performs := fun step => checkedPerform_eq wide fits turn
    goes_on := fun wraps => exists_checkedPerform wide wraps fits turn
    stops := fun step trap => checkedPerform_error wide fits turn
    numbered := fun bank room near => numbered_of_mul_le near room }

/-- There is room for 16 LEDs if each has a bank of its own.  Bank 15 was cleaned, and got the color
that it had; there is no LED 16 and no bank 99. -/
theorem represents_run_clamped :
    let words : Words := { limit := 0x10000, wraps := false }
    let layout : LedLayout := { count := 255, perBank := 1 }
    let steps : List LedStep := [.fill ⟨9, 9, 9⟩, .clearDirty 15, .set 15 ⟨9, 9, 9⟩,
      .set 16 ⟨1, 2, 3⟩, .setNextBank 15, .takeNextBank, .writeBank 99 [0xAA, 0xBB]]
    let leds := (new layout).run steps
    0x10000 ≤ words.limit ∧ leds.count = 16 ∧ leds.banks = 16 ∧ leds.nextBank = 0 ∧
      leds.isDirty 15 = false ∧ leds.isDirty 14 = true ∧ Represents words layout steps leds :=
  ⟨by decide, by decide +kernel, by decide +kernel, by decide +kernel, by decide +kernel,
    by decide +kernel, represents_run (by decide) _ _⟩

end LedBuffer

end SplitBoard

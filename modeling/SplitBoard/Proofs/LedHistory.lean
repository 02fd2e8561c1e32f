import SplitBoard.Proofs.LedMachine
import Mathlib.Data.List.Induction

/-!
# What has happened to a buffer

The steps that a buffer went through say all that there is to know about it: the
color of an LED is the one that it was given last, and **a bank is dirty exactly if,
since it was cleaned last, a step gave one of its LEDs another color or marked all
banks** (`isDirty_run_iff`).  Both go by induction on the steps, the last one first,
over what a single step does (`get?_perform`, `isDirty_perform_iff`).

With that and the limits of the layout, a buffer is described completely
(`Represents`), for every layout and whatever the arguments of the steps are.
-/

namespace SplitBoard

/-- The color behind a step of an LED that had a color before it. -/
def LedStep.recolor (index : Nat) (color : Color) : LedStep → Color
  | .set other new => if other = index then new else color
  | .fill new => new
  | _ => color

namespace LedBuffer

variable {leds : LedBuffer} {layout : LedLayout} {steps before : List LedStep} {step : LedStep}
  {bank index : Nat}

/-- The color that an LED was given last.  In the beginning all LEDs are dark. -/
def colorGiven (index : Nat) (steps : List LedStep) : Color :=
  steps.foldl (LedStep.recolor index) .black

/-- A step behind others marks all banks, or gives an LED of the bank another color. -/
def Stains (layout : LedLayout) (bank : Nat) (before : List LedStep) (step : LedStep) : Prop :=
  step = .markAllDirty ∨
    ∃ index, index < (new layout).count ∧ index / (new layout).perBank = bank ∧
      colorGiven index (before ++ [step]) ≠ colorGiven index before

/-- There was such a step, and the bank was not cleaned since. -/
def Stained (layout : LedLayout) (bank : Nat) (steps : List LedStep) : Prop :=
  ∃ before step after, steps = before ++ step :: after ∧ Stains layout bank before step ∧
    .clearDirty bank ∉ after

theorem colorGiven_concat (index : Nat) (steps : List LedStep) (step : LedStep) :
    colorGiven index (steps ++ [step]) = step.recolor index (colorGiven index steps) := by
  rw [colorGiven, List.foldl_concat]
  rfl

theorem not_stained_nil : ¬Stained layout bank [] := by
  rintro ⟨before, step, after, none, -⟩
  simp at none

theorem stained_concat_iff : Stained layout bank (steps ++ [step]) ↔
    Stains layout bank steps step ∨ Stained layout bank steps ∧ step ≠ .clearDirty bank := by
  constructor
  · rintro ⟨before, first, after, split, stains, kept⟩
    rcases List.eq_nil_or_concat after with rfl | ⟨between, last, rfl⟩
    · -- the step itself is the one that stains
      obtain ⟨rfl, same⟩ := List.append_inj' split rfl
      obtain rfl := List.singleton_inj.mp same
      exact .inl stains
    · rw [List.concat_eq_append, ← List.cons_append, ← List.append_assoc] at split
      obtain ⟨rfl, same⟩ := List.append_inj' split rfl
      obtain rfl := List.singleton_inj.mp same
      rw [List.concat_eq_append, List.mem_append, List.mem_singleton, not_or] at kept
      exact .inr ⟨⟨before, first, between, rfl, stains, kept.1⟩, Ne.symm kept.2⟩
  · rintro (stains | ⟨⟨before, first, after, rfl, stains, kept⟩, other⟩)
    · exact ⟨steps, step, [], rfl, stains, List.not_mem_nil⟩
    · refine ⟨before, first, after ++ [step], by simp, stains, ?_⟩
      rw [List.mem_append, List.mem_singleton, not_or]
      exact ⟨kept, Ne.symm other⟩

/-! ## One step -/

/-- Making it a bank's turn changes nothing else. -/
theorem setNextBank_eq (leds : LedBuffer) (bank : Nat) :
    leds.setNextBank bank = { leds with nextBank := (leds.setNextBank bank).nextBank } := by
  unfold LedBuffer.setNextBank
  split <;> rfl

theorem Reachable.perform (h : Reachable layout leds) (step : LedStep) :
    Reachable layout (leds.perform step).2 := by
  cases step with
  | set index color => exact h.set index color
  | fill color => exact h.fill color
  | setNextBank bank => exact h.setNextBank bank
  | takeNextBank => exact h.takeNextBank
  | markAllDirty => exact h.markAllDirty
  | clearDirty bank => exact h.clearDirty bank
  | get | isDirty | nextDirtyBank | writeBank | assemble => exact h

theorem get?_perform (h : Reachable layout leds) (inside : index < leds.count) {color : Color}
    (shows : leds.get? index = some color) (step : LedStep) :
    (leds.perform step).2.get? index = some (step.recolor index color) := by
  cases step with
  | set other new =>
    change (leds.set other new).get? index = some (if other = index then new else color)
    rw [get?_set h.wellFormed]
    by_cases same : other = index
    · rw [if_pos ⟨same.symm, inside⟩, if_pos same]
    · rw [if_neg fun both => same both.1.symm, if_neg same, shows]
  | fill new => exact get?_fill h new inside
  | setNextBank bank =>
    change (leds.setNextBank bank).get? index = some color
    rw [setNextBank_eq]
    exact shows
  | clearDirty bank => exact (get?_clearDirty leds bank index).trans shows
  | takeNextBank | markAllDirty | get | isDirty | nextDirtyBank | writeBank | assemble =>
    exact shows

theorem isDirty_set_iff (h : leds.WellFormed) (index : Nat) (color : Color) :
    (leds.set index color).isDirty bank = true ↔ leds.isDirty bank = true ∨
      index < leds.count ∧ index / leds.perBank = bank ∧ leds.get? index ≠ some color := by
  by_cases inside : index < leds.count
  · obtain ⟨old, shows⟩ := h.exists_get? inside
    by_cases same : old = color
    · have unchanged : leds.set index color = leds := by simp only [set, shows, if_pos same]
      simp [unchanged, shows, same]
    · have changed : leds.set index color = leds.recolor index color := by
        simp only [set, shows, if_neg same, recolor]
      rw [changed, isDirty_recolor h inside, Bool.or_eq_true, decide_eq_true_eq, shows]
      simpa [inside, same] using or_congr_right eq_comm
  · have unchanged : leds.set index color = leds := by
      rw [set, get?, if_neg inside]
    simp [unchanged, inside]

/-- The induction is on the LEDs that are still to be filled.  None of them comes twice, so each has
the color yet that it had. -/
theorem isDirty_foldl_set_iff (h : leds.WellFormed) (color : Color) {indices : List Nat}
    (once : indices.Nodup) :
    (indices.foldl (fun leds index => leds.set index color) leds).isDirty bank = true ↔
      leds.isDirty bank = true ∨ ∃ index ∈ indices, index < leds.count ∧
        index / leds.perBank = bank ∧ leds.get? index ≠ some color := by
  induction indices generalizing leds with
  | nil => simp
  | cons first indices ih =>
    obtain ⟨fresh, once⟩ := List.nodup_cons.mp once
    have count : (leds.set first color).count = leds.count := by rw [set_eq]
    have perBank : (leds.set first color).perBank = leds.perBank := by rw [set_eq]
    have others : ∀ index ∈ indices, (leds.set first color).get? index = leds.get? index := by
      intro index member
      have ne : index ≠ first := fun same => fresh (same ▸ member)
      exact get?_set_of_ne ne color
    rw [List.foldl_cons, ih (wellFormed_set h first color) once, isDirty_set_iff h, count, perBank,
      or_assoc]
    simp only [List.mem_cons, exists_eq_or_imp]
    refine or_congr_right (or_congr_right (exists_congr fun index => ?_))
    exact and_congr_right fun member => by rw [others index member]

theorem isDirty_fill_iff (h : leds.WellFormed) (color : Color) :
    (leds.fill color).isDirty bank = true ↔ leds.isDirty bank = true ∨
      ∃ index < leds.count, index / leds.perBank = bank ∧ leds.get? index ≠ some color := by
  rw [fill, isDirty_foldl_set_iff h color List.nodup_range]
  simp [List.mem_range]

/-- An LED is given another color by a step exactly if it shows another one before it. -/
theorem stains_iff (h : Reachable layout leds)
    (shows : ∀ index < leds.count, leds.get? index = some (colorGiven index before)) :
    Stains layout bank before step ↔ step = .markAllDirty ∨
      ∃ index < leds.count, index / leds.perBank = bank ∧
        leds.get? index ≠ some (step.recolor index (colorGiven index before)) := by
  rw [Stains, ← h.layout_eq.1, ← h.layout_eq.2]
  refine or_congr_right (exists_congr fun index => ?_)
  refine and_congr_right fun inside => and_congr_right fun _ => ?_
  rw [colorGiven_concat, shows index inside, ne_comm, ne_eq, ne_eq, Option.some_inj]

theorem stains_set_iff (h : Reachable layout leds)
    (shows : ∀ index < leds.count, leds.get? index = some (colorGiven index before))
    (color : Color) : Stains layout bank before (.set index color) ↔
      index < leds.count ∧ index / leds.perBank = bank ∧ leds.get? index ≠ some color := by
  rw [stains_iff h shows, or_iff_right (by simp)]
  constructor
  · rintro ⟨other, inside, here, differs⟩
    by_cases same : index = other
    · subst same
      rw [LedStep.recolor, if_pos rfl] at differs
      exact ⟨inside, here, differs⟩
    · rw [LedStep.recolor, if_neg same] at differs
      exact absurd (shows other inside) differs
  · rintro ⟨inside, here, differs⟩
    refine ⟨index, inside, here, ?_⟩
    rwa [LedStep.recolor, if_pos rfl]

theorem stains_fill_iff (h : Reachable layout leds)
    (shows : ∀ index < leds.count, leds.get? index = some (colorGiven index before))
    (color : Color) : Stains layout bank before (.fill color) ↔
      ∃ index < leds.count, index / leds.perBank = bank ∧ leds.get? index ≠ some color := by
  rw [stains_iff h shows, or_iff_right (by simp)]
  rfl

theorem not_stains (step : LedStep) (keeps : ∀ index color, step.recolor index color = color)
    (marks : step ≠ .markAllDirty) : ¬Stains layout bank before step := by
  rintro (same | ⟨index, -, -, differs⟩)
  · exact marks same
  · exact differs (by rw [colorGiven_concat, keeps])

/-- A step that gives no colors, marks nothing and cleans nothing. -/
theorem idle_iff {dirty : Prop} (keeps : ∀ index color, step.recolor index color = color)
    (marks : step ≠ .markAllDirty) (cleans : step ≠ .clearDirty bank) :
    dirty ↔ Stains layout bank before step ∨ dirty ∧ step ≠ .clearDirty bank := by
  rw [or_iff_right (not_stains step keeps marks), and_iff_left cleans]

/-- What becomes of a bank in one step. -/
theorem isDirty_perform_iff (h : Reachable layout leds)
    (shows : ∀ index < leds.count, leds.get? index = some (colorGiven index before))
    (inside : bank < leds.banks) (step : LedStep) :
    (leds.perform step).2.isDirty bank = true ↔
      Stains layout bank before step ∨ leds.isDirty bank = true ∧ step ≠ .clearDirty bank := by
  cases step with
  | set index color =>
    change (leds.set index color).isDirty bank = true ↔ _
    rw [stains_set_iff h shows, isDirty_set_iff h.wellFormed, or_comm]
    simp
  | fill color =>
    change (leds.fill color).isDirty bank = true ↔ _
    rw [stains_fill_iff h shows, isDirty_fill_iff h.wellFormed, or_comm]
    simp
  | markAllDirty =>
    have dirty : leds.markAllDirty.isDirty bank = true := isDirty_markAllDirty h.wellFormed inside
    exact iff_of_true dirty (.inl (.inl rfl))
  | clearDirty other =>
    change (leds.clearDirty other).isDirty bank = true ↔ _
    rw [or_iff_right (not_stains (.clearDirty other) (fun _ _ => rfl) (by simp))]
    by_cases within : other < leds.banks
    · rw [isDirty_clearDirty within, Bool.and_eq_true, decide_eq_true_eq, ne_comm]
      simp
    · have ne : other ≠ bank := fun same => within (same ▸ inside)
      simp [clearDirty, within, ne]
  | setNextBank next =>
    change (leds.setNextBank next).isDirty bank = true ↔ _
    rw [setNextBank_eq]
    exact idle_iff (fun _ _ => rfl) (by simp) (by simp)
  | takeNextBank | get | isDirty | nextDirtyBank | writeBank | assemble =>
    exact idle_iff (fun _ _ => rfl) (by simp) (by simp)

/-- A bank that the buffer does not have is never marked. -/
theorem Reachable.unmarked (h : Reachable layout leds) (outside : leds.banks ≤ bank) :
    leds.dirty.getLsbD bank = false := by
  induction h with
  | new => exact BitVec.getLsbD_zero
  | @set leds h index color ih =>
    rcases set_cases leds index color with same | ⟨inside, changed⟩
    · rw [same] at outside ⊢
      exact ih outside
    · rw [changed] at outside ⊢
      have other : bank ≠ index / leds.perBank :=
        Nat.ne_of_gt (Nat.lt_of_lt_of_le (h.wellFormed.div_lt_banks inside) outside)
      rw [recolor, BitVec.getLsbD_or, ih outside, getLsbD_mark, decide_eq_false other,
        Bool.and_false, Bool.or_false]
  | setNextBank _ next ih =>
    rw [setNextBank_eq] at outside ⊢
    exact ih outside
  | takeNextBank _ ih => exact ih outside
  | @markAllDirty leds h ih =>
    have beyond : ¬bank < leds.banks := Nat.not_lt.mpr outside
    rw [LedBuffer.markAllDirty, BitVec.getLsbD_not, BitVec.getLsbD_shiftLeft,
      BitVec.getLsbD_allOnes, decide_eq_false beyond]
    by_cases small : bank < 16
    · have near : bank - leds.banks < 16 := by omega
      simp [small, near]
    · simp [small]
  | @clearDirty leds _ cleared ih =>
    rw [banks_clearDirty] at outside
    unfold LedBuffer.clearDirty
    split
    · rw [BitVec.getLsbD_and, ih outside, Bool.false_and]
    · exact ih outside

/-! ## Any number of steps -/

theorem run_concat (leds : LedBuffer) (steps : List LedStep) (step : LedStep) :
    leds.run (steps ++ [step]) = ((leds.run steps).perform step).2 :=
  List.foldl_concat ..

theorem reachable_run (layout : LedLayout) (steps : List LedStep) :
    Reachable layout ((new layout).run steps) := by
  induction steps using List.reverseRecOn with
  | nil => exact .new
  | append_singleton steps step ih =>
    rw [run_concat]
    exact ih.perform step

/-- **An LED shows the color that it was given last.** -/
theorem get?_run (steps : List LedStep) (inside : index < (new layout).count) :
    ((new layout).run steps).get? index = some (colorGiven index steps) := by
  induction steps using List.reverseRecOn with
  | nil =>
    have fits : index < 72 := Nat.lt_of_lt_of_le inside (wellFormed_new layout).count_le
    change (new layout).get? index = some .black
    rw [get?, if_pos inside, new, Vector.getElem?_replicate, if_pos fits]
  | append_singleton steps step ih =>
    have reachable := reachable_run layout steps
    rw [← reachable.layout_eq.1] at inside
    rw [run_concat, get?_perform reachable inside ih, colorGiven_concat]

/-- **A bank is dirty exactly if something stained it since it was cleaned last.** -/
theorem isDirty_run_iff (steps : List LedStep) (inside : bank < (new layout).banks) :
    ((new layout).run steps).isDirty bank = true ↔ Stained layout bank steps := by
  induction steps using List.reverseRecOn with
  | nil =>
    change (new layout).isDirty bank = true ↔ _
    simp [isDirty, new, not_stained_nil]
  | append_singleton steps step ih =>
    have reachable := reachable_run layout steps
    have shows : ∀ index < ((new layout).run steps).count,
        ((new layout).run steps).get? index = some (colorGiven index steps) := by
      intro index within
      exact get?_run steps (reachable.layout_eq.1 ▸ within)
    have banks := banks_congr reachable.layout_eq.1 reachable.layout_eq.2
    rw [run_concat, isDirty_perform_iff reachable shows (banks ▸ inside), ih, stained_concat_iff]

end LedBuffer

end SplitBoard

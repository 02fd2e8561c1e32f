import SplitBoard.Led.Frame

/-!
# What a change of the buffer does to its banks

A bank's frame depends on the colors of its own LEDs only, and each change of the
buffer says exactly which banks became dirty or clean.  Both are stated bank by
bank, so that "clean" can be carried through any sequence of changes.

**The dirty marks are sixteen bits**, so all of this needs that there are at most
sixteen banks, which the layout of a new buffer sees to (`WellFormed`).
-/

namespace SplitBoard.LedBuffer

variable {leds : LedBuffer}

/-- The layout fits the buffer: banks hold LEDs, and the LEDs fit the colors and the dirty marks. -/
structure WellFormed (leds : LedBuffer) : Prop where
  perBank_pos : 0 < leds.perBank
  perBank_le : leds.perBank ≤ maxPerBank
  count_le : leds.count ≤ capacity
  count_le_banks : leds.count ≤ leds.perBank * maxBanks

theorem wellFormed_new (layout : LedLayout) : (new layout).WellFormed := by
  constructor <;> simp only [new, maxPerBank, maxBanks, capacity] <;> omega

/-- The layout is all that counts. -/
theorem WellFormed.of_layout {leds' : LedBuffer} (h : leds.WellFormed)
    (count : leds'.count = leds.count) (perBank : leds'.perBank = leds.perBank) :
    leds'.WellFormed := by
  constructor
  · rw [perBank]
    exact h.perBank_pos
  · rw [perBank]
    exact h.perBank_le
  · rw [count]
    exact h.count_le
  · rw [count, perBank]
    exact h.count_le_banks

theorem WellFormed.banks_le (h : leds.WellFormed) : leds.banks ≤ maxBanks := by
  have positive := h.perBank_pos
  have fits := h.count_le_banks
  rw [banks, partsFor, if_neg (by omega), Nat.div_le_iff_le_mul_add_pred positive]
  omega

/-- The banks have places for all LEDs. -/
theorem WellFormed.count_le_mul (h : leds.WellFormed) :
    leds.count ≤ leds.banks * leds.perBank := by
  have positive := h.perBank_pos
  rw [banks, partsFor, if_neg (by omega)]
  -- rounded up, the banks hold at least as many LEDs as there are
  have rounded := Nat.div_add_mod (leds.count + leds.perBank - 1) leds.perBank
  have rest := Nat.mod_lt (leds.count + leds.perBank - 1) positive
  rw [Nat.mul_comm]
  omega

/-- Every LED belongs to a bank. -/
theorem WellFormed.div_lt_banks (h : leds.WellFormed) {index : Nat} (inside : index < leds.count) :
    index / leds.perBank < leds.banks := by
  rw [Nat.div_lt_iff_lt_mul h.perBank_pos]
  exact Nat.lt_of_lt_of_le inside h.count_le_mul

/-! ## Dirty marks -/

/-- The mark of one bank. -/
theorem getLsbD_mark (marked bank : Nat) :
    (1#16 <<< marked).getLsbD bank = (decide (bank < 16) && decide (bank = marked)) := by
  rw [BitVec.getLsbD_shiftLeft, BitVec.getLsbD_one, Bool.and_assoc]
  congr 1
  rw [Bool.eq_iff_iff]
  simp only [Bool.and_eq_true, Bool.not_eq_true', decide_eq_false_iff_not, decide_eq_true_eq]
  omega

theorem isDirty_markAllDirty (h : leds.WellFormed) {bank : Nat} (inside : bank < leds.banks) :
    leds.markAllDirty.isDirty bank = true := by
  have small : bank < 16 := Nat.lt_of_lt_of_le inside h.banks_le
  have same : leds.markAllDirty.banks = leds.banks := rfl
  rw [isDirty, same, decide_eq_true inside, Bool.true_and, markAllDirty]
  simp [small, inside]

/-- Cleaning a bank changes nothing but its mark. -/
theorem clearDirty_eq (leds : LedBuffer) (bank : Nat) :
    leds.clearDirty bank = { leds with dirty := (leds.clearDirty bank).dirty } := by
  unfold clearDirty
  split <;> rfl

@[simp] theorem banks_clearDirty (leds : LedBuffer) (bank : Nat) :
    (leds.clearDirty bank).banks = leds.banks := by
  rw [clearDirty_eq]
  rfl

@[simp] theorem nextBank_clearDirty (leds : LedBuffer) (bank : Nat) :
    (leds.clearDirty bank).nextBank = leds.nextBank := by
  rw [clearDirty_eq]

theorem wellFormed_clearDirty (h : leds.WellFormed) (bank : Nat) :
    (leds.clearDirty bank).WellFormed := by
  rw [clearDirty_eq]
  exact h.of_layout rfl rfl

theorem isDirty_clearDirty {cleared : Nat} (inside : cleared < leds.banks) (bank : Nat) :
    (leds.clearDirty cleared).isDirty bank = (leds.isDirty bank && decide (bank ≠ cleared)) := by
  rw [isDirty, isDirty, banks_clearDirty, clearDirty, if_pos inside, BitVec.getLsbD_and,
    BitVec.getLsbD_not, getLsbD_mark, Bool.and_assoc]
  by_cases small : bank < 16
  · simp [small]
  · -- there is no mark for such a bank
    simp [BitVec.getLsbD_of_ge leds.dirty bank (Nat.le_of_not_lt small)]

theorem lt_banks_of_isDirty {bank : Nat} (h : leds.isDirty bank = true) : bank < leds.banks := by
  rw [isDirty, Bool.and_eq_true, decide_eq_true_eq] at h
  exact h.1

/-- The buffer once an LED has another color than before. -/
def recolor (leds : LedBuffer) (index : Nat) (color : Color) : LedBuffer :=
  { leds with
    colors := leds.colors.setIfInBounds index color
    dirty := leds.dirty ||| (1#16 <<< (index / leds.perBank)) }

/-- An LED that the buffer does not have shows no color. -/
theorem lt_count_of_get? {index : Nat} {color : Color} (h : leds.get? index = some color) :
    index < leds.count := by
  refine Decidable.byContradiction fun outside => ?_
  rw [get?, if_neg outside] at h
  cases h

/-- Giving an LED a color changes nothing, or it changes an LED that the buffer has. -/
theorem set_cases (leds : LedBuffer) (index : Nat) (color : Color) :
    leds.set index color = leds ∨
      index < leds.count ∧ leds.set index color = leds.recolor index color := by
  rcases color? : leds.get? index with _ | old
  · left
    simp only [set, color?]
  · by_cases same : old = color
    · left
      simp only [set, color?, if_pos same]
    · right
      exact ⟨lt_count_of_get? color?, by simp only [set, color?, if_neg same, recolor]⟩

/-- Giving an LED a color changes neither the layout nor whose turn it is. -/
theorem set_eq (leds : LedBuffer) (index : Nat) (color : Color) :
    leds.set index color = { leds with
      colors := (leds.set index color).colors
      dirty := (leds.set index color).dirty } := by
  rcases set_cases leds index color with same | ⟨-, changed⟩
  · rw [same]
  · rw [changed]
    rfl

/-- Every LED shows a color. -/
theorem WellFormed.exists_get? (h : leds.WellFormed) {index : Nat} (inside : index < leds.count) :
    ∃ color, leds.get? index = some color := by
  have fits : index < 72 := Nat.lt_of_lt_of_le inside h.count_le
  exact ⟨leds.colors[index], by rw [get?, if_pos inside, Vector.getElem?_eq_getElem fits]⟩

/-- An LED that the buffer has shows the color it was given. -/
theorem get?_set_self (h : leds.WellFormed) {index : Nat} (inside : index < leds.count)
    (color : Color) : (leds.set index color).get? index = some color := by
  have fits : index < 72 := Nat.lt_of_lt_of_le inside h.count_le
  have color? : leds.get? index = some leds.colors[index] := by
    rw [get?, if_pos inside, Vector.getElem?_eq_getElem fits]
  by_cases same : leds.colors[index] = color
  · simp only [set, color?, if_pos same]
    rw [same]
  · simp only [set, color?, if_neg same]
    rw [get?, if_pos inside, Vector.getElem?_setIfInBounds_self_of_lt fits]

theorem banks_recolor (leds : LedBuffer) (index : Nat) (color : Color) :
    (leds.recolor index color).banks = leds.banks := rfl

theorem isDirty_recolor (h : leds.WellFormed) {index : Nat} (inside : index < leds.count)
    (color : Color) (bank : Nat) :
    (leds.recolor index color).isDirty bank =
      (leds.isDirty bank || decide (bank = index / leds.perBank)) := by
  have marked := h.div_lt_banks inside
  have few := h.banks_le
  rw [isDirty, isDirty, banks_recolor, recolor, BitVec.getLsbD_or, getLsbD_mark]
  by_cases here : bank < leds.banks
  · have small : bank < 16 := Nat.lt_of_lt_of_le here few
    simp [here, small]
  · have other : bank ≠ index / leds.perBank := by omega
    simp [here, other]

theorem wellFormed_set (h : leds.WellFormed) (index : Nat) (color : Color) :
    (leds.set index color).WellFormed := by
  rw [set_eq]
  exact h.of_layout rfl rfl

/-! ## Frames -/

theorem get?_recolor_of_ne {index other : Nat} (ne : other ≠ index) (color : Color) :
    (leds.recolor index color).get? other = leds.get? other := by
  rw [get?, get?, recolor]
  by_cases inside : other < leds.count
  · rw [if_pos inside, if_pos inside, Vector.getElem?_setIfInBounds_ne ne.symm]
  · rw [if_neg inside, if_neg inside]

theorem get?_set_of_ne {index other : Nat} (ne : other ≠ index) (color : Color) :
    (leds.set index color).get? other = leds.get? other := by
  rcases set_cases leds index color with same | ⟨-, changed⟩
  · rw [same]
  · rw [changed, get?_recolor_of_ne ne]

@[simp] theorem count_set (leds : LedBuffer) (index : Nat) (color : Color) :
    (leds.set index color).count = leds.count := by
  rw [set_eq]

/-- One LED that the buffer has shows the color, and the others show what they showed. -/
theorem get?_set (h : leds.WellFormed) (index : Nat) (color : Color) (other : Nat) :
    (leds.set index color).get? other =
      if other = index ∧ other < leds.count then some color else leds.get? other := by
  by_cases here : other = index ∧ other < leds.count
  · rw [if_pos here, here.1]
    exact get?_set_self h (here.1 ▸ here.2) color
  rw [if_neg here]
  by_cases same : other = index
  · have outside : ¬other < leds.count := fun inside => here ⟨same, inside⟩
    rw [get?, get?, count_set, if_neg outside, if_neg outside]
  · exact get?_set_of_ne same color

/-- Cleaning a bank changes no color. -/
@[simp] theorem get?_clearDirty (leds : LedBuffer) (bank index : Nat) :
    (leds.clearDirty bank).get? index = leds.get? index := by
  rw [clearDirty_eq]
  rfl

/-- The frame of a bank depends on the colors of its own LEDs only. -/
theorem frame_recolor_of_ne (h : leds.WellFormed) {index bank : Nat}
    (ne : bank ≠ index / leds.perBank) (color : Color) (profile : Profile) (dimming : UInt8) :
    (leds.recolor index color).frame profile dimming bank = leds.frame profile dimming bank := by
  have colors : (leds.recolor index color).bankColors bank = leds.bankColors bank := by
    unfold bankColors
    refine List.map_congr_left fun place member => ?_
    have inBank : place < leds.perBank := List.mem_range.mp member
    congr 1
    -- were it the recolored LED, its bank would be this one
    refine get?_recolor_of_ne (fun here => ne ?_) color
    rw [← here]
    change bank = (bank * leds.perBank + place) / leds.perBank
    rw [Nat.mul_comm, Nat.mul_add_div h.perBank_pos, Nat.div_eq_of_lt inBank, Nat.add_zero]
  rw [frame, frame, bankChannels, bankChannels, colors]

/-- Cleaning a bank changes no frame. -/
theorem frame_clearDirty (leds : LedBuffer) (profile : Profile) (dimming : UInt8)
    (cleared bank : Nat) :
    (leds.clearDirty cleared).frame profile dimming bank = leds.frame profile dimming bank := by
  rw [clearDirty_eq]
  rfl

theorem length_frame (leds : LedBuffer) (profile : Profile) (dimming : UInt8) (bank : Nat) :
    (leds.frame profile dimming bank).length = 1 + 3 * leds.perBank := by
  have three : ∀ color : Color, color.channels.length = 3 := fun _ => rfl
  rw [frame, List.length_cons, encodeChannels, List.length_mapIdx, bankChannels,
    List.length_flatMap, List.map_congr_left fun color _ => three color, List.map_const',
    List.sum_replicate_nat, bankColors, List.length_map, List.length_range]
  omega

/-- Sixteen numbers from the first one on do not wrap. -/
theorem toNat_bankCommand_add {bank : Nat} (small : bank < maxBanks) :
    (bankCommand + UInt8.ofNat bank).toNat = 0x80 + bank := by
  simp only [maxBanks] at small
  simp only [UInt8.toNat_add, UInt8.toNat_ofNat', show bankCommand.toNat = 128 from rfl]
  omega

/-- The frames of two banks begin differently. -/
theorem bankCommand_add_inj {bank other : Nat} (small : bank < maxBanks) (small' : other < maxBanks)
    (h : bankCommand + UInt8.ofNat bank = bankCommand + UInt8.ofNat other) : bank = other := by
  have numbers := congrArg UInt8.toNat h
  rw [toNat_bankCommand_add small, toNat_bankCommand_add small'] at numbers
  omega

/-! ## Turns -/

theorem isDirty_of_nextDirtyBank? {bank : Nat} (h : leds.nextDirtyBank? = some bank) :
    leds.isDirty bank = true :=
  List.find?_some h

/-- Making it a bank's turn and taking that turn. -/
theorem takeNextBank_setNextBank {bank : Nat} (inside : bank < leds.banks) :
    (leds.setNextBank bank).takeNextBank =
      (bank, { leds with nextBank := (bank + 1) % max leds.banks 1 }) := by
  rw [setNextBank, if_pos inside]
  rfl

end SplitBoard.LedBuffer

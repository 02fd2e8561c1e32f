import SplitBoard.Proofs.LedBuffer
import Mathlib.Data.List.Basic

/-!
# What the frames of all banks say

The banks are windows of one size over the LEDs of a half, and the last window may
reach beyond them.  **Put together they show every LED once, in order, and then
darkness** (`flatMap_bankColors`), whatever layout the buffer was made for.

What is sent for a color is said in plain numbers here (`Profile.colorSent`), and
the frames are compared with those that are built over older ones in one place
(`LedBuffer.frame_of_assemble`).
-/

namespace SplitBoard

/-! ## Levels in plain numbers -/

/-- What is sent for a level of one of the three channels. -/
def Profile.levelSent (profile : Profile) (dimming : UInt8) (channel : Nat) (level : UInt8) : Nat :=
  have inside : level.toNat - dimming.toNat < 256 :=
    Nat.lt_of_le_of_lt (Nat.sub_le _ _) level.toNat_lt
  let corrected := (profile.gamma.get ⟨level.toNat - dimming.toNat, inside⟩).toNat
  if channel = profile.redChannel.toNat ∧ profile.redCompensation.toNat ≤ corrected then
    corrected - profile.redCompensation.toNat
  else corrected

/-- What is sent for a color. -/
def Profile.colorSent (profile : Profile) (dimming : UInt8) (color : Color) : List Nat :=
  [profile.levelSent dimming 0 color.red, profile.levelSent dimming 1 color.green,
    profile.levelSent dimming 2 color.blue]

theorem toNat_sub_min (level dimming : UInt8) :
    (level - min level dimming).toNat = level.toNat - dimming.toNat := by
  have below : min level dimming ≤ level := by
    change (if level ≤ dimming then level else dimming) ≤ level
    split
    · exact UInt8.le_refl level
    · next less => exact UInt8.le_of_lt (UInt8.not_le.mp less)
  rw [UInt8.toNat_sub_of_le _ _ below]
  change level.toNat - (if level ≤ dimming then level else dimming).toNat = _
  split
  · next le =>
    have := UInt8.le_iff_toNat_le.mp le
    omega
  · rfl

theorem Profile.toNat_encodeLevel (profile : Profile) (dimming : UInt8) (channel : Nat)
    (level : UInt8) :
    (profile.encodeLevel dimming (channel = profile.redChannel.toNat) level).toNat =
      profile.levelSent dimming channel level := by
  have corrected : profile.gamma.apply (level - min level dimming) =
      profile.gamma.get ⟨level.toNat - dimming.toNat,
        Nat.lt_of_le_of_lt (Nat.sub_le _ _) level.toNat_lt⟩ := by
    unfold Gamma.apply
    congr 2
    exact toNat_sub_min level dimming
  unfold encodeLevel levelSent
  rw [corrected]
  simp only [decide_eq_true_eq, UInt8.le_iff_toNat_le]
  split
  · next both => exact UInt8.toNat_sub_of_le _ _ (UInt8.le_iff_toNat_le.mpr both.2)
  · rfl

namespace LedBuffer

variable {leds : LedBuffer} {layout : LedLayout}

/-- Three bytes are sent for each color.  The induction is on the colors; the channels repeat after
every color, so the next one begins with its first channel again. -/
theorem toNat_encodeChannels (profile : Profile) (dimming : UInt8) (colors : List Color) :
    (encodeChannels profile dimming (colors.flatMap Color.channels)).map UInt8.toNat =
      colors.flatMap (profile.colorSent dimming) := by
  have shifted : ∀ levels : List UInt8,
      levels.mapIdx (fun i level =>
        profile.encodeLevel dimming ((i + 1 + 1 + 1) % 3 = profile.redChannel.toNat) level) =
      encodeChannels profile dimming levels := by
    intro levels
    simp only [Nat.add_assoc, Nat.reduceAdd, Nat.add_mod_right]
    rfl
  induction colors with
  | nil => rfl
  | cons color colors ih =>
    rw [List.flatMap_cons, List.flatMap_cons, ← ih]
    change ((color.red :: color.green :: color.blue ::
      colors.flatMap Color.channels).mapIdx _).map UInt8.toNat = _
    rw [List.mapIdx_cons, List.mapIdx_cons, List.mapIdx_cons, shifted]
    simp only [List.map_cons, Profile.toNat_encodeLevel, Nat.zero_mod, Nat.reduceAdd, Nat.reduceMod]
    rfl

/-! ## The places of all banks -/

/-- The colors of the places of all banks: those of the LEDs, and then darkness. -/
def slots (leds : LedBuffer) : List Color :=
  leds.colors.toList.take leds.count ++
    List.replicate (leds.banks * leds.perBank - leds.count) .black

/-- Windows of one size lie next to each other. -/
theorem flatMap_windows {α : Type} (f : Nat → α) (windows size : Nat) :
    (List.range windows).flatMap (fun window =>
      (List.range size).map fun place => f (window * size + place)) =
      (List.range (windows * size)).map f := by
  induction windows with
  | zero => simp
  | succ windows ih =>
    rw [List.range_succ, List.flatMap_append, ih, Nat.succ_mul, List.range_add, List.map_append,
      List.map_map, List.flatMap_singleton]
    rfl

/-- **The banks show every LED once, in order, and then darkness.** -/
theorem flatMap_bankColors (h : leds.WellFormed) :
    (List.range leds.banks).flatMap leds.bankColors = leds.slots := by
  have windows := flatMap_windows (fun i => (leds.get? i).getD .black) leds.banks leds.perBank
  refine windows.trans ?_
  obtain ⟨more, places⟩ := Nat.exists_eq_add_of_le h.count_le_mul
  have lit : (List.range leds.count).map (fun i => (leds.get? i).getD .black) =
      leds.colors.toList.take leds.count := by
    refine List.ext_getElem ?_ fun i inside _ => ?_
    · have fits : leds.count ≤ 72 := h.count_le
      simp [fits]
    · have within : i < leds.count := by simpa using inside
      have fits : i < 72 := Nat.lt_of_lt_of_le within h.count_le
      simp [get?, within, fits]
  have dark : (List.range more).map (fun i => (leds.get? (leds.count + i)).getD .black) =
      List.replicate more .black := by
    refine List.ext_getElem (by simp) fun i _ _ => ?_
    have beyond : ¬leds.count + i < leds.count := by omega
    rw [List.getElem_map, List.getElem_range, get?, if_neg beyond, List.getElem_replicate]
    rfl
  rw [slots, places, Nat.add_sub_cancel_left, List.range_add, List.map_append, List.map_map, lit,
    ← dark]
  rfl

/-- The frames of all banks, less the bytes that name the banks. -/
theorem flatMap_tail_frame (h : leds.WellFormed) (profile : Profile) (dimming : UInt8) :
    ((List.range leds.banks).flatMap fun bank =>
      (leds.frame profile dimming bank).tail.map UInt8.toNat) =
      leds.slots.flatMap (profile.colorSent dimming) := by
  rw [← flatMap_bankColors h, List.flatMap_assoc]
  exact List.flatMap_congr fun bank _ => toNat_encodeChannels profile dimming (leds.bankColors bank)

/-! ## Frames that are built over older ones -/

theorem length_bankChannels (leds : LedBuffer) (bank : Nat) :
    (leds.bankChannels bank).length = leds.bankBytes := by
  have whole := leds.length_frame .raise 0 bank
  rw [frame, List.length_cons, length_encodeChannels] at whole
  rw [bankBytes]
  omega

theorem bytes_assemble (leds : LedBuffer) (profile : Profile) (dimming : UInt8) (bank : Nat)
    (buffer : FrameBuffer) :
    let written := leds.writeBank bank (buffer.bytes.drop 1)
    (leds.assemble profile dimming bank buffer).2.bytes = (bankCommand + UInt8.ofNat bank) ::
      (encodeChannels profile dimming (written.2.take written.1) ++ written.2.drop written.1) := rfl

/-- **Nothing of an older frame is left in the one that is sent**, neither if it is cut off where
its colors end nor if it is cut off where a frame of the bank would end. -/
theorem frame_of_assemble (h : leds.WellFormed) (profile : Profile) (dimming : UInt8) (bank : Nat)
    (buffer : FrameBuffer) :
    let built := leds.assemble profile dimming bank buffer
    built.2.bytes.take (1 + built.1) = leds.frame profile dimming bank ∧
      built.2.bytes.take (1 + leds.bankBytes) = leds.frame profile dimming bank := by
  have colors := leds.length_bankChannels bank
  have fits : (leds.bankChannels bank).take (buffer.bytes.drop 1).length =
      leds.bankChannels bank := by
    refine List.take_of_length_le ?_
    have few := h.perBank_le
    have bytes : leds.bankBytes = 3 * leds.perBank := rfl
    rw [List.length_drop, buffer.length_eq, colors]
    omega
  have written : leds.writeBank bank (buffer.bytes.drop 1) = (leds.bankBytes,
      leds.bankChannels bank ++ (buffer.bytes.drop 1).drop leds.bankBytes) := by
    simp only [writeBank, fits, colors]
  have encoded : (encodeChannels profile dimming (leds.bankChannels bank)).length =
      leds.bankBytes := by
    rw [length_encodeChannels, colors]
  have taken : (leds.assemble profile dimming bank buffer).2.bytes.take (1 + leds.bankBytes) =
      leds.frame profile dimming bank := by
    rw [bytes_assemble, written, List.take_left' colors, Nat.add_comm, List.take_succ_cons,
      List.take_left' encoded]
    rfl
  have counted : (leds.assemble profile dimming bank buffer).1 = leds.bankBytes :=
    congrArg Prod.fst written
  exact ⟨by rw [counted]; exact taken, taken⟩

/-! ## Buffers of a layout -/

/-- The buffers that come of a layout. -/
inductive Reachable (layout : LedLayout) : LedBuffer → Prop where
  | new : Reachable layout (.new layout)
  | set {leds : LedBuffer} (reachable : Reachable layout leds) (index : Nat) (color : Color) :
      Reachable layout (leds.set index color)
  | setNextBank {leds : LedBuffer} (reachable : Reachable layout leds) (bank : Nat) :
      Reachable layout (leds.setNextBank bank)
  | takeNextBank {leds : LedBuffer} (reachable : Reachable layout leds) :
      Reachable layout leds.takeNextBank.2
  | markAllDirty {leds : LedBuffer} (reachable : Reachable layout leds) :
      Reachable layout leds.markAllDirty
  | clearDirty {leds : LedBuffer} (reachable : Reachable layout leds) (bank : Nat) :
      Reachable layout (leds.clearDirty bank)

/-- The layout is never changed. -/
theorem Reachable.layout_eq (h : Reachable layout leds) :
    leds.count = (LedBuffer.new layout).count ∧ leds.perBank = (LedBuffer.new layout).perBank := by
  induction h with
  | new => exact ⟨rfl, rfl⟩
  | set _ index color ih =>
    rw [set_eq]
    exact ih
  | setNextBank _ bank ih =>
    unfold LedBuffer.setNextBank
    split <;> exact ih
  | takeNextBank _ ih => exact ih
  | markAllDirty _ ih => exact ih
  | clearDirty _ bank ih =>
    rw [clearDirty_eq]
    exact ih

theorem Reachable.wellFormed (h : Reachable layout leds) : leds.WellFormed :=
  (wellFormed_new layout).of_layout h.layout_eq.1 h.layout_eq.2

theorem banks_congr {leds' : LedBuffer} (count : leds'.count = leds.count)
    (perBank : leds'.perBank = leds.perBank) : leds'.banks = leds.banks := by
  rw [banks, banks, count, perBank]

/-- It is always the turn of one of the banks, if there are any. -/
theorem Reachable.nextBank_lt (h : Reachable layout leds) : leds.nextBank < max leds.banks 1 := by
  induction h with
  | new => exact Nat.lt_of_lt_of_le Nat.zero_lt_one (Nat.le_max_right _ _)
  | set _ index color ih =>
    rw [set_eq]
    exact ih
  | @setNextBank leds _ bank ih =>
    unfold LedBuffer.setNextBank
    split
    · next inside => exact Nat.lt_of_lt_of_le inside (Nat.le_max_left _ _)
    · exact ih
  | takeNextBank => exact Nat.mod_lt _ (Nat.lt_of_lt_of_le Nat.zero_lt_one (Nat.le_max_right _ _))
  | markAllDirty _ ih => exact ih
  | clearDirty _ bank ih =>
    rw [clearDirty_eq]
    exact ih

/-! ## Buffers of one color -/

theorem Reachable.fill (h : Reachable layout leds) (color : Color) :
    Reachable layout (leds.fill color) := by
  unfold LedBuffer.fill
  generalize List.range leds.count = indices
  induction indices generalizing leds with
  | nil => exact h
  | cons index indices ih => exact ih (h.set index color)

/-- Every LED shows the color that the buffer is filled with.  The induction is on the LEDs that are
still to be filled; one that was filled before keeps its color. -/
theorem get?_fill (h : Reachable layout leds) (color : Color) {index : Nat}
    (inside : index < leds.count) : (leds.fill color).get? index = some color := by
  have filled : ∀ (indices : List Nat) (leds : LedBuffer), Reachable layout leds →
      index < leds.count → index ∈ indices ∨ leds.get? index = some color →
      (indices.foldl (fun leds index => leds.set index color) leds).get? index = some color := by
    intro indices
    induction indices with
    | nil => exact fun leds _ _ shows => shows.resolve_left List.not_mem_nil
    | cons first indices ih =>
      intro leds h inside shows
      have set := h.set first color
      have within : index < (leds.set first color).count := by
        rw [set.layout_eq.1, ← h.layout_eq.1]
        exact inside
      refine ih _ set within ?_
      by_cases same : index = first
      · subst same
        exact .inr (get?_set_self h.wellFormed inside color)
      · rw [get?_set_of_ne same]
        exact shows.imp_left fun member => (List.mem_cons.mp member).resolve_left same
  exact filled _ leds h inside (.inl (List.mem_range.mpr inside))

/-- Nothing of the buffer but its colors shows in the frames. -/
theorem frame_congr {leds' : LedBuffer} (perBank : leds'.perBank = leds.perBank)
    (colors : ∀ index, leds'.get? index = leds.get? index) (profile : Profile) (dimming : UInt8)
    (bank : Nat) : leds'.frame profile dimming bank = leds.frame profile dimming bank := by
  have same : leds'.bankColors bank = leds.bankColors bank := by
    simp only [bankColors, perBank, colors]
  rw [frame, frame, bankChannels, bankChannels, same]

end LedBuffer

end SplitBoard

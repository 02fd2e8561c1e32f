import SplitBoard.Firmware.Image

/-!
# What validation promises

An image that passes `Image.validate` is longer than its reset vector, its pages are whole numbers
of frames, every page has an address, and the check value has one too.

**Only the last page is measured against the end of the flash.**  That is enough for a contiguous
image, whose pages ascend, and says nothing about the pages before the last one of an image with
explicit addresses.
-/

namespace SplitBoard.Firmware

variable {image : Image} {format : FlashFormat}

theorem address?_eq_some_iff {n : Nat} {address : UInt16} :
    address? n = some address ↔ address.toNat = n := by
  unfold address?
  have bound := address.toNat_lt
  split
  case isTrue small =>
    rw [Option.some_inj]
    constructor
    · rintro rfl
      exact UInt16.toNat_ofNat_of_lt' small
    · rintro rfl
      exact UInt16.ofNat_toNat
  case isFalse large =>
    refine ⟨nofun, fun here => ?_⟩
    exact absurd (here ▸ bound) large

namespace Image

/-- The four things that validation looks at. -/
theorem validate_ok_iff :
    image.validate format = .ok () ↔
      framesFit format ∧ image.lengthFits ∧ image.pagesFit format.pageSize ∧
        image.crcOffset?.isSome := by
  have flashable : image.isFlashable format = true ↔
      framesFit format ∧ image.lengthFits ∧ image.pagesFit format.pageSize ∧
        image.crcOffset?.isSome := by
    simp [isFlashable]
  rw [← flashable, validate]
  cases image.isFlashable format <;> simp

theorem validate_error {failure : Failure} (h : image.validate format = .error failure) :
    failure = .invalidImage := by
  unfold validate at h
  split at h
  · cases h
  · exact (Except.error.inj h).symm

section Validated
variable (valid : image.validate format = .ok ())
include valid

theorem pageSize_pos : 0 < format.pageSize.toNat := by
  obtain ⟨frames, -⟩ := validate_ok_iff.mp valid
  simp only [framesFit, decide_eq_true_eq] at frames
  exact UInt16.pos_iff_ne_zero.mpr frames.1

/-- A page is as many frames as it says. -/
theorem framesPerPage_mul_frameSize :
    format.framesPerPage * format.frameSize.toNat = format.pageSize.toNat := by
  obtain ⟨frames, -⟩ := validate_ok_iff.mp valid
  simp only [framesFit, decide_eq_true_eq] at frames
  exact Nat.div_mul_cancel (Nat.dvd_of_mod_eq_zero frames.2.2.2)

theorem resetVectorLength_lt_size : resetVectorLength < image.size := by
  obtain ⟨-, length, -⟩ := validate_ok_iff.mp valid
  simp only [lengthFits, decide_eq_true_eq] at length
  exact length.1

/-- The length that the check value covers is a word as it stands. -/
theorem toNat_crcLength : image.crcLength.toNat = image.size - resetVectorLength := by
  obtain ⟨-, length, -⟩ := validate_ok_iff.mp valid
  simp only [lengthFits, decide_eq_true_eq] at length
  exact UInt16.toNat_ofNat_of_lt' length.2

theorem exists_crcOffset : ∃ offset, image.crcOffset? = some offset := by
  obtain ⟨-, -, -, offset⟩ := validate_ok_iff.mp valid
  exact Option.isSome_iff_exists.mp offset

theorem exists_pageOffset {page : Nat} (inRange : page < image.pageCount format.pageSize) :
    ∃ offset, image.pageOffset? page format.pageSize = some offset := by
  obtain ⟨-, -, pages, -⟩ := validate_ok_iff.mp valid
  simp only [pagesFit, decide_eq_true_eq, List.all_map, List.all_eq_true, List.mem_range,
    Function.comp_apply] at pages
  exact Option.isSome_iff_exists.mp (pages.1 page inRange)

/-- The number of pages is rounded up. -/
theorem pageCount_eq : image.pageCount format.pageSize =
    (image.size + format.pageSize.toNat - 1) / format.pageSize.toNat := by
  have positive := pageSize_pos valid
  rw [pageCount, partsFor, if_neg (by omega)]

/-- The pages hold the whole image. -/
theorem size_le_pages : image.size ≤ image.pageCount format.pageSize * format.pageSize.toNat := by
  have positive := pageSize_pos valid
  have rounded := Nat.div_add_mod (image.size + format.pageSize.toNat - 1) format.pageSize.toNat
  have rest := Nat.mod_lt (image.size + format.pageSize.toNat - 1) positive
  rw [pageCount_eq valid, Nat.mul_comm]
  omega

theorem pageCount_pos : 0 < image.pageCount format.pageSize := by
  have longer := resetVectorLength_lt_size valid
  have whole := size_le_pages valid
  refine Nat.pos_of_ne_zero fun none => ?_
  rw [none, Nat.zero_mul] at whole
  omega

end Validated

/-! ## Contiguous images -/

section Contiguous
variable {base : UInt16} (contiguous : image.placement = .contiguous base)
include contiguous

theorem toNat_pageOffset {pageSize offset : UInt16} {page : Nat}
    (h : image.pageOffset? page pageSize = some offset) :
    offset.toNat = base.toNat + page * pageSize.toNat := by
  simp only [pageOffset?, contiguous] at h
  exact address?_eq_some_iff.mp h

theorem toNat_crcOffset {offset : UInt16} (h : image.crcOffset? = some offset) :
    offset.toNat = base.toNat + resetVectorLength := by
  obtain ⟨first, hfirst, h⟩ := Option.bind_eq_some_iff.mp h
  have first_eq := toNat_pageOffset contiguous hfirst
  rw [Nat.zero_mul, Nat.add_zero] at first_eq
  rw [address?_eq_some_iff.mp h, first_eq]

/-- The last page of a contiguous image ends inside the flash, and so do all of them. -/
theorem pages_le_addressSpace (valid : image.validate format = .ok ()) :
    base.toNat + image.pageCount format.pageSize * format.pageSize.toNat ≤ addressSpace := by
  obtain ⟨last, hlast⟩ : ∃ last, image.pageCount format.pageSize = last + 1 :=
    Nat.exists_eq_add_one.mpr (pageCount_pos valid)
  obtain ⟨offset, address⟩ :=
    exists_pageOffset valid (show last < image.pageCount format.pageSize by omega)
  obtain ⟨-, -, pages, -⟩ := validate_ok_iff.mp valid
  simp only [pagesFit, decide_eq_true_eq, hlast, List.range_succ, List.map_append, List.map_cons,
    List.map_nil, List.getLast?_append, List.getLast?_singleton, Option.some_or, address,
    Option.join_some, Option.getD_some] at pages
  rw [hlast, Nat.succ_mul, ← Nat.add_assoc, ← toNat_pageOffset contiguous address]
  exact pages.2

/-- There are no more frames than addresses. -/
theorem frames_le_addressSpace (valid : image.validate format = .ok ()) :
    image.pageCount format.pageSize * format.framesPerPage ≤ addressSpace := by
  have frames : format.framesPerPage ≤ format.pageSize.toNat := Nat.div_le_self _ _
  have pages := pages_le_addressSpace contiguous valid
  calc image.pageCount format.pageSize * format.framesPerPage
      ≤ image.pageCount format.pageSize * format.pageSize.toNat := Nat.mul_le_mul_left _ frames
    _ ≤ addressSpace := Nat.le_trans (Nat.le_add_left _ _) pages

end Contiguous
end Image
end SplitBoard.Firmware

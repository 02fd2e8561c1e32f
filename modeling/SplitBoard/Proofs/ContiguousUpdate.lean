import SplitBoard.Proofs.Flashing

/-!
# A contiguous image ends up in the flash

The pages of a contiguous image follow one another, so storing them in turn is
storing one run of bytes from the base on (`storePages_contiguous`): the image,
and the blank up to the end of the last page.  What the flash holds after an
update follows position by position, and with it that the device computes the
check value which the updater expects.

**No alignment of the base is assumed, and the image may end anywhere in its last
page.**
-/

namespace SplitBoard.Firmware

/-- A flash that holds an image from a base address on, blank to the end of the last page, and
nothing else. -/
structure Holds (flash : Vector UInt8 0x10000) (image : Image) (base : UInt16)
    (format : FlashFormat) : Prop where
  content : ∀ i (h : i < image.data.size), flash[base.toNat + i]? = some image.data[i]
  padding : ∀ a, base.toNat + image.size ≤ a →
    a < base.toNat + image.pageCount format.pageSize * format.pageSize.toNat →
    flash[a]? = some format.blank
  before : ∀ a, a < base.toNat → flash[a]? = some 0xFF
  behind : ∀ a, base.toNat + image.pageCount format.pageSize * format.pageSize.toNat ≤ a →
    a < addressSpace → flash[a]? = some 0xFF

namespace Bootloader

variable {image : Image} {format : FlashFormat} {base : UInt16}

/-- Pages that follow one another are stored as one run of bytes. -/
theorem storePages_contiguous (format : FlashFormat) (contiguous : image.placement = .contiguous base)
    (flash : Vector UInt8 0x10000) {n : Nat}
    (addressed : ∀ page < n, ∃ offset, image.pageOffset? page format.pageSize = some offset) :
    storePages format image flash (List.range n) =
      store flash base.toNat (image.chunk format.blank 0 (n * format.pageSize.toNat)) := by
  induction n with
  | zero =>
    rw [Nat.zero_mul]
    rfl
  | succ n ih =>
    obtain ⟨offset, address⟩ := addressed n n.lt_succ_self
    have next := store_append flash base.toNat
      (image.chunk format.blank 0 (n * format.pageSize.toNat))
      (image.chunk format.blank (0 + n * format.pageSize.toNat) format.pageSize.toNat)
    rw [Image.length_chunk, ← Image.chunk_add, ← Nat.succ_mul, Nat.zero_add] at next
    have before := ih fun page inRange => addressed page (Nat.lt_succ_of_lt inRange)
    rw [List.range_succ, storePages, List.foldl_append]
    rw [storePages] at before
    rw [before, List.foldl_cons, List.foldl_nil, address, Option.getD_some,
      Image.toNat_pageOffset contiguous address, next]

theorem pagesInside_contiguous (valid : image.validate format = .ok ())
    (contiguous : image.placement = .contiguous base) :
    PagesInside format image (List.range (image.pageCount format.pageSize)) := by
  intro page member
  have inRange := List.mem_range.mp member
  obtain ⟨offset, address⟩ := Image.exists_pageOffset valid inRange
  refine ⟨offset, address, ?_⟩
  have last := Image.pages_le_addressSpace contiguous valid
  -- the page ends no later than the last one
  have upTo := Nat.mul_le_mul_right format.pageSize.toNat (Nat.succ_le_of_lt inRange)
  rw [Image.toNat_pageOffset contiguous address]
  rw [Nat.succ_mul] at upTo
  omega

/-- The flash after an update, position by position. -/
theorem getElem?_writtenFlash (valid : image.validate format = .ok ())
    (contiguous : image.placement = .contiguous base) {a : Nat} (inFlash : a < addressSpace) :
    (writtenFlash format image)[a]? =
      if base.toNat ≤ a ∧
          a < base.toNat + image.pageCount format.pageSize * format.pageSize.toNat then
        some (image.data.getD (a - base.toNat) format.blank)
      else some 0xFF := by
  have stored := storePages_contiguous format contiguous (Vector.replicate 0x10000 0xFF)
    fun page inRange => Image.exists_pageOffset valid inRange
  rw [writtenFlash, stored, getElem?_store, Image.length_chunk]
  by_cases inside : base.toNat ≤ a ∧
      a < base.toNat + image.pageCount format.pageSize * format.pageSize.toNat
  · rw [if_pos inside, if_pos ⟨inside.1, inside.2, inFlash⟩,
      Image.getElem?_chunk image format.blank 0 (by omega), Nat.zero_add]
  · rw [if_neg inside, if_neg fun h => inside ⟨h.1, h.2.1⟩]
    exact Vector.getElem?_replicate_of_lt inFlash

theorem holds_writtenFlash (valid : image.validate format = .ok ())
    (contiguous : image.placement = .contiguous base) :
    Holds (writtenFlash format image) image base format := by
  have whole := Image.size_le_pages valid
  have last := Image.pages_le_addressSpace contiguous valid
  have size : image.size = image.data.size := rfl
  constructor
  case content =>
    intro i h
    rw [getElem?_writtenFlash valid contiguous (by omega), if_pos (by omega),
      Nat.add_sub_cancel_left, Array.getD_eq_getD_getElem?, Array.getElem?_eq_getElem h,
      Option.getD_some]
  case padding =>
    intro a behind inside
    rw [getElem?_writtenFlash valid contiguous (by omega), if_pos (by omega),
      Array.getD_eq_getD_getElem?, Array.getElem?_eq_none (by omega), Option.getD_none]
  case before =>
    intro a before
    rw [getElem?_writtenFlash valid contiguous (by omega), if_neg (by omega)]
  case behind =>
    intro a behind inFlash
    rw [getElem?_writtenFlash valid contiguous inFlash, if_neg (by omega)]

/-- The check value of a range depends only on what the range holds. -/
theorem ofRange_congr {bytes bytes' : Array UInt8} {first first' length : Nat}
    (inside : first + length ≤ bytes.size) (inside' : first' + length ≤ bytes'.size)
    (same : ∀ i < length, bytes[first + i]? = bytes'[first' + i]?) :
    Crc16.ofRange bytes first (first + length) = Crc16.ofRange bytes' first' (first' + length) := by
  have slices : bytes.extract first (first + length) = bytes'.extract first' (first' + length) := by
    apply Array.ext
    · rw [Array.size_extract_of_le inside, Array.size_extract_of_le inside']
      omega
    · intro i h h'
      rw [Array.size_extract_of_le inside] at h
      have here := same i (by omega)
      rw [Array.getElem?_eq_getElem (by omega), Array.getElem?_eq_getElem (by omega)] at here
      rw [Array.getElem_extract, Array.getElem_extract]
      exact Option.some.inj here
  unfold Crc16.ofRange
  rw [Array.foldl_eq_foldl_extract, slices, ← Array.foldl_eq_foldl_extract]

/-- A flash with the bytes of an image in a row has the check value that the updater expects. -/
theorem rangeCrc_of_content (valid : image.validate format = .ok ())
    {flash : Vector UInt8 0x10000} {first : Nat} (inside : first + image.size ≤ addressSpace)
    (content : ∀ i (h : i < image.data.size), flash[first + i]? = some image.data[i]) :
    rangeCrc flash (first + resetVectorLength) image.crcLength.toNat = image.expectedCrc := by
  have longer := Image.resetVectorLength_lt_size valid
  have size : image.size = image.data.size := rfl
  have behind : resetVectorLength + (image.size - resetVectorLength) = image.size := by omega
  rw [rangeCrc, Image.toNat_crcLength valid, Nat.min_eq_left (by omega), Image.expectedCrc]
  -- both sides are now ranges of one length
  conv_rhs => rw [← behind]
  apply ofRange_congr
  · rw [flash.size_toArray]
    change _ ≤ addressSpace
    omega
  · omega
  · intro i inRange
    rw [Vector.getElem?_toArray, Nat.add_assoc, content _ (by omega),
      Array.getElem?_eq_getElem (by omega)]

/-- The device computes the check value that the updater expects. -/
theorem rangeCrc_of_holds (valid : image.validate format = .ok ())
    (contiguous : image.placement = .contiguous base) {offset : UInt16}
    (first : image.crcOffset? = some offset) {flash : Vector UInt8 0x10000}
    (holds : Holds flash image base format) :
    rangeCrc flash offset.toNat image.crcLength.toNat = image.expectedCrc := by
  have whole := Image.size_le_pages valid
  have last := Image.pages_le_addressSpace contiguous valid
  rw [Image.toNat_crcOffset contiguous first]
  exact rangeCrc_of_content valid (by omega) holds.content

end Bootloader

section Update
open Bootloader

/-- **A contiguous image that validation accepts gets into a sound device**: the update succeeds,
reports what the device said before the erase, and leaves the image in the flash with the program
started.

The device may hold anything and may have an answer waiting that nobody read.  It must have a
program and a check value to report, and may be busy after the erase for fewer requests than the
updater makes. -/
theorem update_contiguous {half : Half} {phase : Phase} {b : Bootloader} {image : Image}
    {base : UInt16} (contiguous : image.placement = .contiguous base)
    (valid : image.validate half.profile.flasher = .ok ())
    (address : b.address = half.bootloaderAddress) (format : b.format = half.profile.flasher)
    (sound : b.Sound) (idle : b.busy = 0)
    (patient : b.busyAfterErase < half.profile.flasher.reverifyAttempts)
    (program : b.version ≠ 0xFF)
    (checked : Crc16.ofRange b.flash.toArray (base.toNat + resetVectorLength)
      (base.toNat + image.size) ≠ 0xFFFF) :
    ∃ device, ((update image).run ⟨half, phase⟩).run partner b =
        ((.ok {
            previousVersion := b.version
            previousCrc := Crc16.ofRange b.flash.toArray (base.toNat + resetVectorLength)
              (base.toNat + image.size)
            crc := image.expectedCrc
            pages := (image.size + half.profile.flasher.pageSize.toNat - 1) /
              half.profile.flasher.pageSize.toNat
            bytes := image.size }, ⟨half.markUnavailable, .done⟩), device) ∧
      Holds device.flash image base half.profile.flasher ∧
      device.eraseCount = b.eraseCount + 1 ∧
      (device.framesWritten - b.framesWritten).toNat =
        image.pageCount half.profile.flasher.pageSize * half.profile.flasher.framesPerPage ∧
      device.executed = true := by
  have serves : b.Serves half := ⟨sound, address, format⟩
  rw [← format] at valid patient ⊢
  obtain ⟨offset, first⟩ := Image.exists_crcOffset valid
  have longer := Image.resetVectorLength_lt_size valid
  have whole := Image.size_le_pages valid
  have last := Image.pages_le_addressSpace contiguous valid
  -- nothing is cut off: the image lies inside the flash
  have before : rangeCrc b.flash offset.toNat image.crcLength.toNat =
      Crc16.ofRange b.flash.toArray (base.toNat + resetVectorLength) (base.toNat + image.size) := by
    rw [rangeCrc, Image.toNat_crcOffset contiguous first, Image.toNat_crcLength valid,
      Nat.min_eq_left (by omega)]
    congr 1
    omega
  have holds := holds_writtenFlash valid contiguous
  obtain ⟨log, page, frameInPage, written⟩ :=
    run_writeImage ⟨half, phase⟩ serves valid first
      ⟨idle, program, by rw [before]; exact checked, UInt16.lt_iff_toNat_lt.mp patient⟩
      (pagesInside_contiguous valid contiguous) (rangeCrc_of_holds valid contiguous first holds)
  have updated := run_update_of_writeImage serves valid written
  refine ⟨?device, ?run, ?_⟩
  case run =>
    rw [← before, ← Image.pageCount_eq valid]
    exact updated
  refine ⟨holds, rfl, toNat_count_sub ?_, rfl⟩
  exact Nat.lt_of_le_of_lt (Image.frames_le_addressSpace contiguous valid) (by decide)

/-- Five bytes at the start of a fresh device: one page of four frames. -/
theorem update_contiguous_five_bytes :
    ∃ device, ((update ⟨#[1, 2, 3, 4, 5], .contiguous 0⟩).run ⟨Half.new 0 .raise, .idle⟩).run partner
        { address := 0x50, format := Profile.raise.flasher } =
        ((.ok { previousVersion := 1, previousCrc := 0x00FF, crc := 0x437F, pages := 1, bytes := 5 },
          ⟨(Half.new 0 .raise).markUnavailable, .done⟩), device) ∧
      Holds device.flash ⟨#[1, 2, 3, 4, 5], .contiguous 0⟩ 0 Profile.raise.flasher ∧
      device.eraseCount = 1 ∧ device.framesWritten = 4 ∧ device.executed = true := by
  have blank : Crc16.ofRange (Vector.replicate 0x10000 (0xFF : UInt8)).toArray 4 5 = 0x00FF := by
    rw [Crc16.ofRange, Array.foldl_eq_foldl_extract, Vector.toArray_replicate,
      Array.extract_replicate]
    decide +kernel
  have fresh : Crc16.ofRange (Vector.replicate 0x10000 (0xFF : UInt8)).toArray 4 5 ≠ 0xFFFF := by
    rw [blank]
    decide
  have image : Image.expectedCrc ⟨#[1, 2, 3, 4, 5], .contiguous 0⟩ = 0x437F := by decide +kernel
  obtain ⟨device, run, holds, erased, frames, started⟩ :=
    @update_contiguous (Half.new 0 .raise) .idle
      { address := 0x50, format := Profile.raise.flasher } ⟨#[1, 2, 3, 4, 5], .contiguous 0⟩ 0 rfl
      (by decide +kernel) (by decide +kernel) rfl ⟨by decide +kernel, rfl, rfl, rfl⟩ rfl
      (by decide +kernel) (by decide) fresh
  have four : device.framesWritten.toNat = 4 := by
    rw [← UInt32.sub_zero device.framesWritten]
    exact frames.trans (by decide +kernel)
  refine ⟨device, run.trans ?_, holds, erased, UInt32.toNat_inj.mp four, started⟩
  rw [image]
  exact congrArg (fun crc => ((Except.ok (Report.mk 1 crc 0x437F 1 5),
    Session.mk (Half.new 0 .raise).markUnavailable .done), device)) blank

end Update
end SplitBoard.Firmware

import SplitBoard.Proofs.ContiguousUpdate

/-!
# Pages with addresses of their own

The pages of an image need not follow one another.  As long as no two of them
share an address, storing one leaves the others alone, so after an update every
page is found at its own address and the rest of the flash is erased
(`holdsPages_writtenFlash`), in whatever order the pages lie.

The check at the end does not go by the pages.  The device is asked for the check
value of as many bytes as the image has, in one run from the first page on, while
the updater computes the check value of the image.  **An update succeeds exactly
if the two agree** (`update_scattered`): they do if the pages follow one another,
and if they do not, a program that was written byte for byte is given up as
damaged (`update_scattered_refused`).
-/

namespace SplitBoard.Firmware

namespace Image
variable (image : Image) (pageSize : UInt16)

/-- The page has an address, and the given one lies on it. -/
def OnPage (page a : Nat) : Prop :=
  ∃ offset, image.pageOffset? page pageSize = some offset ∧
    offset.toNat ≤ a ∧ a < offset.toNat + pageSize.toNat

/-- No address lies on two pages. -/
def PagesApart : Prop :=
  (List.range (image.pageCount pageSize)).Pairwise fun page other =>
    ∀ a, image.OnPage pageSize page a → ¬image.OnPage pageSize other a

/-- Each page lies where it would if it followed the one before it. -/
def PagesInRow : Prop :=
  ∀ page < image.pageCount pageSize, (image.pageOffset? page pageSize).map UInt16.toNat =
    (image.pageOffset? 0 pageSize).map fun first => first.toNat + page * pageSize.toNat

instance : Decidable (image.PagesInRow pageSize) :=
  inferInstanceAs (Decidable (∀ page < image.pageCount pageSize,
    (image.pageOffset? page pageSize).map UInt16.toNat =
      (image.pageOffset? 0 pageSize).map fun first => first.toNat + page * pageSize.toNat))

variable {image pageSize} {page a : Nat} {offset : UInt16}

theorem onPage_iff (address : image.pageOffset? page pageSize = some offset) :
    image.OnPage pageSize page a ↔ offset.toNat ≤ a ∧ a < offset.toNat + pageSize.toNat := by
  constructor
  · rintro ⟨other, address', inside⟩
    obtain rfl := Option.some.inj (address.symm.trans address')
    exact inside
  · exact fun inside => ⟨offset, address, inside⟩

theorem PagesInRow.toNat_eq {first : UInt16} (row : image.PagesInRow pageSize)
    (inRange : page < image.pageCount pageSize) (begins : image.pageOffset? 0 pageSize = some first)
    (address : image.pageOffset? page pageSize = some offset) :
    offset.toNat = first.toNat + page * pageSize.toNat := by
  have here := row page inRange
  rw [address, begins] at here
  exact Option.some.inj here

/-- Two pages lie apart if one begins where the other one ends, or later. -/
theorem pagesApart_pair {data : Array UInt8} {first second : UInt16}
    (two : pageCount ⟨data, .explicit #[first, second]⟩ pageSize = 2)
    (behind : first.toNat + pageSize.toNat ≤ second.toNat) :
    PagesApart ⟨data, .explicit #[first, second]⟩ pageSize := by
  rw [PagesApart, two]
  refine List.pairwise_pair.mpr fun a onFirst onSecond => ?_
  have inFirst := (onPage_iff (show pageOffset? _ 0 pageSize = some first from rfl)).mp onFirst
  have inSecond := (onPage_iff (show pageOffset? _ 1 pageSize = some second from rfl)).mp onSecond
  omega

/-- Where the check begins: behind the reset vector of the first page. -/
theorem exists_firstOffset (pageSize : UInt16) (first : image.crcOffset? = some offset) :
    ∃ start, image.pageOffset? 0 pageSize = some start ∧
      offset.toNat = start.toNat + resetVectorLength := by
  obtain ⟨start, address, behind⟩ := Option.bind_eq_some_iff.mp first
  refine ⟨start, ?_, address?_eq_some_iff.mp behind⟩
  -- the size of the pages does not matter for the first one
  rw [← address, pageOffset?, pageOffset?]
  cases image.placement with
  | contiguous base => simp only [Nat.zero_mul]
  | explicit offsets => rfl

end Image

/-- A flash that holds every page of an image at its own address, the last one filled up with the
blank, and nothing else. -/
structure HoldsPages (flash : Vector UInt8 0x10000) (image : Image) (format : FlashFormat) :
    Prop where
  pages : ∀ page < image.pageCount format.pageSize, ∀ offset,
    image.pageOffset? page format.pageSize = some offset → ∀ i < format.pageSize.toNat,
      flash[offset.toNat + i]? =
        some (image.data.getD (page * format.pageSize.toNat + i) format.blank)
  elsewhere : ∀ a < addressSpace,
    (∀ page < image.pageCount format.pageSize, ¬image.OnPage format.pageSize page a) →
      flash[a]? = some 0xFF

namespace Bootloader

variable {b : Bootloader} {image : Image} {format : FlashFormat} {pages : List Nat}

/-! ## Storing pages -/

/-- Storing pages leaves alone what lies on none of them. -/
theorem getElem?_storePages_elsewhere {flash : Vector UInt8 0x10000} {a : Nat}
    (inside : PagesInside format image pages)
    (elsewhere : ∀ page ∈ pages, ¬image.OnPage format.pageSize page a) :
    (storePages format image flash pages)[a]? = flash[a]? := by
  induction pages generalizing flash with
  | nil => rfl
  | cons first rest ih =>
    obtain ⟨offset, address, -⟩ := inside first List.mem_cons_self
    have beside := elsewhere first List.mem_cons_self
    rw [Image.onPage_iff address] at beside
    rw [storePages, List.foldl_cons, ← storePages,
      ih (fun page member => inside page (List.mem_cons_of_mem _ member))
        (fun page member => elsewhere page (List.mem_cons_of_mem _ member)),
      address, Option.getD_some, getElem?_store, Image.length_chunk,
      if_neg fun here => beside ⟨here.1, here.2.1⟩]

/-- Pages that lie apart are all there once they are stored. -/
theorem getElem?_storePages {flash : Vector UInt8 0x10000} {page : Nat} {offset : UInt16} {i : Nat}
    (inside : PagesInside format image pages)
    (apart : pages.Pairwise fun page other =>
      ∀ a, image.OnPage format.pageSize page a → ¬image.OnPage format.pageSize other a)
    (member : page ∈ pages) (address : image.pageOffset? page format.pageSize = some offset)
    (inPage : i < format.pageSize.toNat) :
    (storePages format image flash pages)[offset.toNat + i]? =
      some (image.data.getD (page * format.pageSize.toNat + i) format.blank) := by
  induction pages generalizing flash with
  | nil => cases member
  | cons first rest ih =>
    obtain ⟨fromFirst, amongRest⟩ := List.pairwise_cons.mp apart
    have insideRest : PagesInside format image rest :=
      fun page member => inside page (List.mem_cons_of_mem _ member)
    rw [storePages, List.foldl_cons, ← storePages]
    rcases List.mem_cons.mp member with rfl | later
    · -- what is stored after the page lies elsewhere
      have here : image.OnPage format.pageSize page (offset.toNat + i) :=
        (Image.onPage_iff address).mpr ⟨by omega, by omega⟩
      rw [getElem?_storePages_elsewhere insideRest
        fun other member => fromFirst other member _ here]
      obtain ⟨_, address', ends⟩ := inside page List.mem_cons_self
      obtain rfl := Option.some.inj (address.symm.trans address')
      have inFlash : offset.toNat + i < 0x10000 :=
        Nat.lt_of_lt_of_le (Nat.add_lt_add_left inPage _) ends
      rw [address, Option.getD_some, getElem?_store, Image.length_chunk,
        if_pos ⟨by omega, by omega, inFlash⟩, Nat.add_sub_cancel_left,
        Image.getElem?_chunk _ _ _ inPage]
    · exact ih insideRest amongRest later

theorem holdsPages_writtenFlash
    (inside : PagesInside format image (List.range (image.pageCount format.pageSize)))
    (apart : image.PagesApart format.pageSize) :
    HoldsPages (writtenFlash format image) image format := by
  constructor
  case pages =>
    intro page inRange offset address i inPage
    exact getElem?_storePages inside apart (List.mem_range.mpr inRange) address inPage
  case elsewhere =>
    intro a inFlash beside
    rw [writtenFlash, getElem?_storePages_elsewhere inside
      fun page member => beside page (List.mem_range.mp member)]
    exact Vector.getElem?_replicate_of_lt inFlash

/-- Pages of a valid image have addresses, so it remains to say that they end inside the flash. -/
theorem pagesInside_of_valid (valid : image.validate format = .ok ())
    (inside : ∀ page < image.pageCount format.pageSize, ∀ offset,
      image.pageOffset? page format.pageSize = some offset →
        offset.toNat + format.pageSize.toNat ≤ addressSpace) :
    PagesInside format image (List.range (image.pageCount format.pageSize)) := by
  intro page member
  have inRange := List.mem_range.mp member
  obtain ⟨offset, address⟩ := Image.exists_pageOffset valid inRange
  exact ⟨offset, address, inside page inRange offset address⟩

/-! ## The check -/

/-- Pages in a row are one run of bytes, which has the check value of the image. -/
theorem rangeCrc_of_pagesInRow {flash : Vector UInt8 0x10000} {offset : UInt16}
    (valid : image.validate format = .ok ()) (first : image.crcOffset? = some offset)
    (inside : PagesInside format image (List.range (image.pageCount format.pageSize)))
    (row : image.PagesInRow format.pageSize) (holds : HoldsPages flash image format) :
    rangeCrc flash offset.toNat image.crcLength.toNat = image.expectedCrc := by
  obtain ⟨start, begins, behind⟩ := Image.exists_firstOffset format.pageSize first
  have positive := Image.pageSize_pos valid
  have whole := Image.size_le_pages valid
  have size : image.size = image.data.size := rfl
  rw [behind]
  apply rangeCrc_of_content valid
  · -- the last page ends inside the flash, and the image no later
    obtain ⟨last, count⟩ := Nat.exists_eq_add_one.mpr (Image.pageCount_pos valid)
    obtain ⟨there, address, ends⟩ := inside last (List.mem_range.mpr (by omega))
    rw [row.toNat_eq (by omega) begins address] at ends
    rw [count, Nat.succ_mul] at whole
    omega
  · intro i inImage
    have inRange : i / format.pageSize.toNat < image.pageCount format.pageSize :=
      Nat.div_lt_of_lt_mul (by rw [Nat.mul_comm]; omega)
    obtain ⟨there, address⟩ := Image.exists_pageOffset valid inRange
    have held := holds.pages _ inRange there address _ (Nat.mod_lt i positive)
    have together := Nat.div_add_mod' i format.pageSize.toNat
    rw [row.toNat_eq inRange begins address, Nat.add_assoc, together] at held
    rw [held, Array.getD_eq_getD_getElem?, Array.getElem?_eq_getElem inImage, Option.getD_some]

end Bootloader

section Update
open Bootloader

/-- **An image whose pages lie apart gets into a sound device page for page, and is started exactly
if the bytes from its first page on, as many as it has, have its check value.**  They have if the
pages lie in a row; otherwise the update may fail although all is in place. -/
theorem update_scattered {half : Half} {phase : Phase} {b : Bootloader} {image : Image}
    {first : UInt16} (valid : image.validate half.profile.flasher = .ok ())
    (begins : image.pageOffset? 0 half.profile.flasher.pageSize = some first)
    (inside : ∀ page < image.pageCount half.profile.flasher.pageSize, ∀ offset,
      image.pageOffset? page half.profile.flasher.pageSize = some offset →
        offset.toNat + half.profile.flasher.pageSize.toNat ≤ addressSpace)
    (apart : image.PagesApart half.profile.flasher.pageSize)
    (address : b.address = half.bootloaderAddress) (format : b.format = half.profile.flasher)
    (sound : b.Sound) (idle : b.busy = 0)
    (patient : b.busyAfterErase < half.profile.flasher.reverifyAttempts)
    (program : b.version ≠ 0xFF)
    (checked : rangeCrc b.flash (first.toNat + resetVectorLength)
      (image.size - resetVectorLength) ≠ 0xFFFF) :
    ∃ device found, HoldsPages device.flash image half.profile.flasher ∧
      found = rangeCrc device.flash (first.toNat + resetVectorLength)
        (image.size - resetVectorLength) ∧
      (image.PagesInRow half.profile.flasher.pageSize → found = image.expectedCrc) ∧
      (found = image.expectedCrc →
        ((update image).run ⟨half, phase⟩).run partner b =
          ((.ok {
              previousVersion := b.version
              previousCrc := rangeCrc b.flash (first.toNat + resetVectorLength)
                (image.size - resetVectorLength)
              crc := image.expectedCrc
              pages := image.pageCount half.profile.flasher.pageSize
              bytes := image.size }, ⟨half.markUnavailable, .done⟩), device) ∧
        device.executed = true) ∧
      (found ≠ image.expectedCrc →
        ((update image).run ⟨half, phase⟩).run partner b =
          ((.error (.mismatch image.expectedCrc found),
            ⟨half.recordCrcError.markUnavailable, .failed⟩), device) ∧
        device.executed = b.executed) := by
  have serves : b.Serves half := ⟨sound, address, format⟩
  rw [← format] at valid begins inside apart patient ⊢
  obtain ⟨offset, firstCheck⟩ := Image.exists_crcOffset valid
  obtain ⟨_, begins', behind⟩ := Image.exists_firstOffset b.format.pageSize firstCheck
  obtain rfl := Option.some.inj (begins.symm.trans begins')
  have length := Image.toNat_crcLength valid
  have insideFlash := pagesInside_of_valid valid inside
  have holds := holdsPages_writtenFlash insideFlash apart
  have inRow := fun row => rangeCrc_of_pagesInRow valid firstCheck insideFlash row holds
  rw [← behind, ← length] at checked ⊢
  obtain ⟨log, page, frameInPage, run⟩ := run_update_of_updatable ⟨half, phase⟩ serves valid
    firstCheck ⟨idle, program, checked, UInt16.lt_iff_toNat_lt.mp patient⟩ insideFlash
  by_cases same : rangeCrc (writtenFlash b.format image) offset.toNat image.crcLength.toNat =
      image.expectedCrc
  · rw [if_pos same] at run
    exact ⟨{ b.afterCheck image log page frameInPage with executed := true }, _, holds, rfl, inRow,
      fun _ => ⟨run, rfl⟩, fun differs => absurd same differs⟩
  · rw [if_neg same] at run
    exact ⟨b.afterCheck image log page frameInPage, _, holds, rfl, inRow,
      fun agrees => absurd agrees same, fun _ => ⟨run, rfl⟩⟩

/-- Zeros for two pages of the reference halves, one byte of them on the second. -/
def zeros (first second : UInt16) : Image :=
  ⟨Array.replicate 65 0, .explicit #[first, second]⟩

theorem offset_zeros {first second offset : UInt16} {page : Nat}
    (inRange : page < (zeros first second).pageCount 64)
    (address : (zeros first second).pageOffset? page 64 = some offset) :
    offset = first ∨ offset = second := by
  have two : (zeros first second).pageCount 64 = 2 := by
    simp [zeros, Image.pageCount, Image.size, partsFor]
  rw [two] at inRange
  rcases (by omega : page = 0 ∨ page = 1) with rfl | rfl
  · exact .inl (Option.some.inj address).symm
  · exact .inr (Option.some.inj address).symm

theorem inside_zeros {first second : UInt16} (firstInside : first.toNat + 64 ≤ addressSpace)
    (secondInside : second.toNat + 64 ≤ addressSpace) :
    ∀ page < (zeros first second).pageCount 64, ∀ offset,
      (zeros first second).pageOffset? page 64 = some offset → offset.toNat + 64 ≤ addressSpace := by
  intro page inRange offset address
  rcases offset_zeros inRange address with rfl | rfl
  · exact firstInside
  · exact secondInside

/-- Two pages in a row, somewhere in the flash of a new device. -/
theorem update_scattered_in_row :
    ∃ device, HoldsPages device.flash (zeros 0x80 0xC0) Profile.raise.flasher ∧
      ((update (zeros 0x80 0xC0)).run ⟨Half.new 0 .raise, .idle⟩).run partner newDevice =
        ((.ok {
            previousVersion := 1
            previousCrc := Crc16.ofList (List.replicate 61 0xFF)
            crc := Crc16.ofList (List.replicate 61 0)
            pages := 2
            bytes := 65 }, ⟨(Half.new 0 .raise).markUnavailable, .done⟩), device) ∧
      device.executed = true := by
  have old : rangeCrc newDevice.flash (0x80 + 4) 61 = Crc16.ofList (List.replicate 61 0xFF) :=
    rangeCrc_newDevice (by decide)
  have new : (zeros 0x80 0xC0).expectedCrc = Crc16.ofList (List.replicate 61 0) := by
    decide +kernel
  obtain ⟨device, found, holds, -, row, started, -⟩ :=
    @update_scattered (Half.new 0 .raise) .idle newDevice (zeros 0x80 0xC0) 0x80
      (by decide +kernel) rfl (inside_zeros (by decide) (by decide))
      (Image.pagesApart_pair rfl (by decide)) (by decide +kernel) rfl sound_newDevice rfl (by decide +kernel)
      (by decide +kernel) (fun none => absurd (old.symm.trans none) (by decide +kernel))
  obtain ⟨run, executed⟩ := started (row (by decide +kernel))
  refine ⟨device, holds, ?_, executed⟩
  rw [← old, ← new]
  exact run

/-- With a gap between the pages, the last byte that the check covers is an erased one. -/
theorem rangeCrc_zeros : rangeCrc (writtenFlash Profile.raise.flasher (zeros 0 0x80)) 4 61 =
    Crc16.ofRange ((Array.replicate 64 0).push 0xFF) 4 65 := by
  have valid : (zeros 0 0x80).validate Profile.raise.flasher = .ok () := by decide +kernel
  have holds := holdsPages_writtenFlash
    (pagesInside_of_valid valid (inside_zeros (by decide) (by decide)))
    (Image.pagesApart_pair rfl (by decide))
  refine ofRange_congr (by rw [Vector.size_toArray]; decide) (by decide) fun i inRange => ?_
  rw [Vector.getElem?_toArray]
  rcases Nat.lt_or_ge i 60 with onFirst | last
  · have held := holds.pages 0 (by decide) 0 rfl (4 + i) (by change 4 + i < 64; omega)
    rw [UInt16.toNat_zero, Nat.zero_add, Nat.zero_mul, Nat.zero_add, zeros,
      Array.getD_eq_getD_getElem?, Array.getElem?_replicate, if_pos (by omega)] at held
    refine held.trans ?_
    rw [Array.getElem?_push, Array.size_replicate, if_neg (by omega), Array.getElem?_replicate,
      if_pos (by omega)]
    rfl
  · obtain rfl : i = 60 := by omega
    refine (holds.elsewhere 64 (by decide) fun page inRange onPage => ?_).trans rfl
    obtain ⟨offset, address, here⟩ := onPage
    rcases offset_zeros inRange address with rfl | rfl
    · exact absurd here (by decide)
    · exact absurd here (by decide)

/-- Two pages with a gap between them: all is written, and the update fails. -/
theorem update_scattered_refused :
    ¬∀ (half : Half) (phase : Phase) (b : Bootloader) (image : Image) (offsets : Array UInt16)
      (first : UInt16), image.placement = .explicit offsets →
      image.validate half.profile.flasher = .ok () →
      image.pageOffset? 0 half.profile.flasher.pageSize = some first →
      (∀ page < image.pageCount half.profile.flasher.pageSize, ∀ offset,
        image.pageOffset? page half.profile.flasher.pageSize = some offset →
          offset.toNat + half.profile.flasher.pageSize.toNat ≤ addressSpace) →
      image.PagesApart half.profile.flasher.pageSize →
      b.address = half.bootloaderAddress → b.format = half.profile.flasher → b.Sound → b.busy = 0 →
      b.busyAfterErase < half.profile.flasher.reverifyAttempts → b.version ≠ 0xFF →
      rangeCrc b.flash (first.toNat + resetVectorLength) (image.size - resetVectorLength) ≠ 0xFFFF →
      ∃ report session device,
        ((update image).run ⟨half, phase⟩).run partner b = ((.ok report, session), device) ∧
          HoldsPages device.flash image half.profile.flasher := by
  intro h
  have valid : (zeros 0 0x80).validate Profile.raise.flasher = .ok () := by decide +kernel
  have old : rangeCrc newDevice.flash 4 61 ≠ 0xFFFF := by
    rw [rangeCrc_newDevice (by decide)]
    decide +kernel
  obtain ⟨log, page, frameInPage, failed⟩ := run_update_of_updatable (b := newDevice)
    ⟨Half.new 0 .raise, .idle⟩ ⟨sound_newDevice, by decide +kernel, rfl⟩ valid
    (show (zeros 0 0x80).crcOffset? = some 4 from rfl)
    ⟨rfl, by decide +kernel, old, by decide +kernel⟩
    (pagesInside_of_valid valid (inside_zeros (by decide) (by decide)))
  -- the bytes on the second page are zeros like those on the first, the gap is not
  have differs : ¬rangeCrc (writtenFlash newDevice.format (zeros 0 0x80)) (UInt16.toNat 4)
      (zeros 0 0x80).crcLength.toNat = (zeros 0 0x80).expectedCrc :=
    fun same => absurd (rangeCrc_zeros.symm.trans same) (by decide +kernel)
  rw [if_neg differs] at failed
  obtain ⟨report, session, device, run, -⟩ := h (Half.new 0 .raise) .idle newDevice (zeros 0 0x80)
    #[0, 0x80] 0 rfl valid rfl (inside_zeros (by decide) (by decide))
    (Image.pagesApart_pair rfl (by decide)) (by decide +kernel) rfl sound_newDevice rfl
    (by decide +kernel) (by decide +kernel) old
  rw [failed] at run
  cases run

end Update
end SplitBoard.Firmware

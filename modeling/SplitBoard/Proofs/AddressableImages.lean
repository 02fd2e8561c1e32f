import SplitBoard.Proofs.PageProgress

/-!
# Images that fit the flash

The flash of a half has 64 KiB, and an image is written to it in whole pages.
Validation finds out whether every page has an address, but **only the page at the
end of the image is measured against the end of the flash**
(`validate_eq_ok_iff_addressed`).  That covers an image none of whose pages starts
behind that one, as those of a contiguous image never do; one whose pages have
addresses of their own may still reach over the end.

Where all pages end inside the flash, so does all that an update writes
(`stretches_inside`).
-/

namespace SplitBoard.Firmware

open Dialogue

/-! ## Addresses of pages -/

namespace Image

section Statement
variable (image : Image) (format : FlashFormat)

/-- Where a page starts, whether there is flash or not. -/
def pageStart? (page : Nat) : Option Nat :=
  match image.placement with
  | .contiguous base => some (base.toNat + page * format.pageSize.toNat)
  | .explicit offsets => offsets[page]?.map UInt16.toNat

/-- The image has bytes in this page. -/
def HasPage (page : Nat) : Prop :=
  page * format.pageSize.toNat < image.size

instance (page : Nat) : Decidable (image.HasPage format page) :=
  inferInstanceAs (Decidable (_ < _))

/-- The image has bytes in this page, and none behind it. -/
def IsLastPage (page : Nat) : Prop :=
  image.HasPage format page ∧ ¬image.HasPage format (page + 1)

/-- The page ends at the end of the flash or before. -/
def EndsInside (page : Nat) : Prop :=
  ∀ start, image.pageStart? format page = some start → start + format.pageSize.toNat ≤ 0x10000

/-- The image can be sent, and each of its pages and its check value have an address. -/
structure Addressed : Prop where
  pageSize_pos : 0 < format.pageSize.toNat
  frameSize_pos : 0 < format.frameSize.toNat
  frameSize_le : format.frameSize.toNat ≤ 64
  frames : format.frameSize.toNat ∣ format.pageSize.toNat
  longer : 4 < image.size
  length_le : image.size - 4 ≤ 65535
  starts : ∀ page, image.HasPage format page →
    ∃ start, image.pageStart? format page = some start ∧ start < 0x10000
  checked : ∃ start, image.pageStart? format 0 = some start ∧ start + 4 < 0x10000

/-- And each of its pages ends inside the flash. -/
structure Addressable : Prop extends Addressed image format where
  inside : ∀ page, image.HasPage format page → image.EndsInside format page

/-- No page starts behind the last one. -/
def EndsLast : Prop :=
  ∀ page last start, image.HasPage format page → image.IsLastPage format last →
    image.pageStart? format page = some start →
      ∃ start', image.pageStart? format last = some start' ∧ start ≤ start'

end Statement

section Validation
variable {image : Image} {format : FlashFormat} {page : Nat}

theorem pageOffset?_eq_some_iff {offset : UInt16} :
    image.pageOffset? page format.pageSize = some offset ↔
      image.pageStart? format page = some offset.toNat := by
  unfold pageOffset? pageStart?
  rcases image.placement with base | offsets
  · rw [address?_eq_some_iff, Option.some_inj, eq_comm]
  · rw [Option.map_eq_some_iff]
    constructor
    · exact fun address => ⟨offset, address, rfl⟩
    · rintro ⟨offset', address, same⟩
      obtain rfl := UInt16.toNat_inj.mp same
      exact address

theorem exists_pageOffset_iff :
    (∃ offset, image.pageOffset? page format.pageSize = some offset) ↔
      ∃ start, image.pageStart? format page = some start ∧ start < 0x10000 := by
  constructor
  · rintro ⟨offset, address⟩
    exact ⟨offset.toNat, pageOffset?_eq_some_iff.mp address, offset.toNat_lt⟩
  · rintro ⟨start, address, small⟩
    refine ⟨UInt16.ofNat start, pageOffset?_eq_some_iff.mpr ?_⟩
    rw [address, UInt16.toNat_ofNat_of_lt' small]

/-- The pages that the image has bytes in are those counted. -/
theorem hasPage_iff (positive : 0 < format.pageSize.toNat) :
    image.HasPage format page ↔ page < image.pageCount format.pageSize := by
  rw [HasPage, pageCount, partsFor, if_neg (Nat.ne_of_gt positive),
    Nat.lt_div_iff_mul_lt positive]
  have same : image.size + format.pageSize.toNat - 1 - (format.pageSize.toNat - 1) = image.size := by
    omega
  rw [same]

theorem isLastPage_iff (positive : 0 < format.pageSize.toNat) :
    image.IsLastPage format page ↔ image.pageCount format.pageSize = page + 1 := by
  rw [IsLastPage, hasPage_iff positive, hasPage_iff positive]
  omega

theorem endsInside_iff {offset : UInt16}
    (address : image.pageOffset? page format.pageSize = some offset) :
    image.EndsInside format page ↔ offset.toNat + format.pageSize.toNat ≤ addressSpace := by
  rw [EndsInside, pageOffset?_eq_some_iff.mp address]
  constructor
  · exact fun inside => inside offset.toNat rfl
  · rintro inside _ ⟨⟩
    exact inside

theorem framesFit_iff : framesFit format = true ↔
    0 < format.pageSize.toNat ∧ 0 < format.frameSize.toNat ∧ format.frameSize.toNat ≤ 64 ∧
      format.frameSize.toNat ∣ format.pageSize.toNat := by
  have positive (n : UInt16) : n ≠ 0 ↔ 0 < n.toNat := UInt16.pos_iff_ne_zero.symm
  rw [framesFit, decide_eq_true_eq, positive, positive, Nat.dvd_iff_mod_eq_zero]
  rfl

/-- Of the pages that have an address only the last one is measured. -/
theorem pagesFit_iff (positive : 0 < format.pageSize.toNat) (longer : 0 < image.size) :
    image.pagesFit format.pageSize = true ↔
      (∀ page, image.HasPage format page →
        ∃ start, image.pageStart? format page = some start ∧ start < 0x10000) ∧
      ∀ page, image.IsLastPage format page → image.EndsInside format page := by
  have nonempty : 0 < image.pageCount format.pageSize := by
    rw [← hasPage_iff positive, HasPage, Nat.zero_mul]
    exact longer
  obtain ⟨last, count⟩ := Nat.exists_eq_add_one.mpr nonempty
  have addressed : ((List.range (last + 1)).map (image.pageOffset? · format.pageSize)).all
      Option.isSome = true ↔ ∀ page, image.HasPage format page →
        ∃ start, image.pageStart? format page = some start ∧ start < 0x10000 := by
    rw [List.all_map, List.all_eq_true]
    refine forall_congr' fun page => ?_
    rw [← exists_pageOffset_iff, hasPage_iff positive, count, List.mem_range,
      Function.comp_apply, Option.isSome_iff_exists]
  have measured : (((List.range (last + 1)).map (image.pageOffset? · format.pageSize)).getLast?.join)
      = image.pageOffset? last format.pageSize := by
    rw [List.range_succ, List.map_append, List.map_singleton, List.getLast?_concat, Option.join_some]
  rw [pagesFit, decide_eq_true_eq, count, addressed, measured]
  refine and_congr_right fun starts => ?_
  obtain ⟨offset, address⟩ := exists_pageOffset_iff.mpr
    (starts last ((hasPage_iff positive).mpr (by omega)))
  rw [address, Option.getD_some, ← endsInside_iff address]
  constructor
  · intro inside page isLast
    obtain rfl : page = last := by
      rw [isLastPage_iff positive] at isLast
      omega
    exact inside
  · exact fun inside => inside last ((isLastPage_iff positive).mpr count)

/-- The check value begins behind the reset vector at the start of the first page. -/
theorem isSome_crcOffset?_iff (image : Image) (format : FlashFormat) : image.crcOffset?.isSome = true ↔
    ∃ start, image.pageStart? format 0 = some start ∧ start + 4 < 0x10000 := by
  have first (offset : UInt16) :
      image.pageOffset? 0 0 = some offset ↔ image.pageStart? format 0 = some offset.toNat := by
    rw [← pageOffset?_eq_some_iff]
    unfold pageOffset?
    simp only [Nat.zero_mul]
  rw [Option.isSome_iff_exists, crcOffset?]
  simp only [Option.bind_eq_some_iff, address?_eq_some_iff, first]
  constructor
  · rintro ⟨behind, offset, address, same⟩
    refine ⟨offset.toNat, address, ?_⟩
    have bound := behind.toNat_lt
    rw [same] at bound
    exact bound
  · rintro ⟨start, address, small⟩
    have fits : start < 0x10000 := by omega
    refine ⟨UInt16.ofNat (start + 4), UInt16.ofNat start, ?_, ?_⟩
    · rw [address, UInt16.toNat_ofNat_of_lt' fits]
    · rw [UInt16.toNat_ofNat_of_lt' small, UInt16.toNat_ofNat_of_lt' fits]
      rfl

theorem validate_eq_ok_iff_addressed : image.validate format = .ok () ↔
    image.Addressed format ∧ ∀ page, image.IsLastPage format page → image.EndsInside format page := by
  rw [validate_ok_iff, framesFit_iff, isSome_crcOffset?_iff image format]
  have length : image.lengthFits = true ↔ 4 < image.size ∧ image.size - 4 ≤ 65535 := by
    rw [lengthFits, decide_eq_true_eq]
    exact and_congr_right fun _ => Nat.lt_succ_iff
  rw [length]
  constructor
  · rintro ⟨⟨pageSize_pos, frameSize_pos, frameSize_le, frames⟩, ⟨longer, length_le⟩, pages, checked⟩
    obtain ⟨starts, last⟩ := (pagesFit_iff pageSize_pos (by omega)).mp pages
    exact ⟨⟨pageSize_pos, frameSize_pos, frameSize_le, frames, longer, length_le, starts, checked⟩,
      last⟩
  · rintro ⟨h, last⟩
    have pages := (pagesFit_iff h.pageSize_pos (by have := h.longer; omega)).mpr ⟨h.starts, last⟩
    exact ⟨⟨h.pageSize_pos, h.frameSize_pos, h.frameSize_le, h.frames⟩, ⟨h.longer, h.length_le⟩,
      pages, h.checked⟩

/-- A contiguous image ends with its last page. -/
theorem endsLast_of_contiguous {base : UInt16} (contiguous : image.placement = .contiguous base) :
    image.EndsLast format := by
  intro page last start has isLast address
  simp only [pageStart?, contiguous, Option.some_inj] at address ⊢
  refine ⟨_, rfl, ?_⟩
  have upTo : page ≤ last := by
    by_contra behind
    have further : (last + 1) * format.pageSize.toNat ≤ page * format.pageSize.toNat :=
      Nat.mul_le_mul_right _ (by omega)
    exact isLast.2 (Nat.lt_of_le_of_lt further has)
  have before := Nat.mul_le_mul_right format.pageSize.toNat upTo
  omega

/-- Where no page starts behind the last one, it ends last. -/
theorem validate_eq_ok_iff_addressable (endsLast : image.EndsLast format) :
    image.validate format = .ok () ↔ image.Addressable format := by
  rw [validate_eq_ok_iff_addressed]
  constructor
  · rintro ⟨addressed, last⟩
    refine ⟨addressed, fun page has start address => ?_⟩
    have positive := addressed.pageSize_pos
    have some := (hasPage_iff positive).mp has
    obtain ⟨end', count⟩ := Nat.exists_eq_add_one.mpr (Nat.zero_lt_of_lt some)
    have isLast := (isLastPage_iff positive).mpr count
    obtain ⟨start', address', le⟩ := endsLast page end' start has isLast address
    have inside := last end' isLast start' address'
    omega
  · exact fun h => ⟨h.toAddressed, fun page isLast => h.inside page isLast.1⟩

end Validation
end Image

/-! ## Flash written by an update -/

/-- The address that a write names for the frames behind it.  Frames are longer. -/
def pageAddress? : Bus.Request → Option UInt16
  | .write _ [_, low, high] => some (wordOfBytes low high)
  | _ => none

/-- The stretches of flash that writes are for, each with where it starts and how long it is: a frame
goes behind the one before it, and the first frame of a page goes to the address of the page. -/
def stretches (format : FlashFormat) : Nat → List Bus.Request → List (Nat × Nat)
  | _, [] => []
  | start, request :: rest =>
    match pageAddress? request with
    | some offset => stretches format offset.toNat rest
    | none => (start, format.frameSize.toNat) :: stretches format (start + format.frameSize.toNat) rest

section Stretches
variable {format : FlashFormat} {image : Image} {half : Half} {start page : Nat}
  {stretch : Nat × Nat} {request : Bus.Request} {sent more rest : List Bus.Request}

theorem stretches_cons_some {offset : UInt16} (address : pageAddress? request = some offset) :
    stretches format start (request :: rest) = stretches format offset.toNat rest := by
  rw [stretches, address]

theorem stretches_cons_none (frame : pageAddress? request = none) :
    stretches format start (request :: rest) =
      (start, format.frameSize.toNat) :: stretches format (start + format.frameSize.toNat) rest := by
  rw [stretches, frame]

/-- What was sent is for no other flash when more is sent. -/
theorem stretches_append_left (start : Nat) (sent more : List Bus.Request) :
    stretches format start sent <+: stretches format start (sent ++ more) := by
  induction sent generalizing start with
  | nil => exact List.nil_prefix
  | cons request sent ih =>
    rw [List.cons_append]
    rcases address : pageAddress? request with _ | offset
    · rw [stretches_cons_none address, stretches_cons_none address]
      exact (List.prefix_cons_inj _).mpr (ih _)
    · rw [stretches_cons_some address, stretches_cons_some address]
      exact ih _

/-- Frames fill the flash from where they start, without a gap. -/
theorem mem_stretches_frames {frames : List Bus.Request}
    (none : ∀ request ∈ frames, pageAddress? request = none)
    (member : stretch ∈ stretches format start (frames ++ rest)) :
    stretch.1 + stretch.2 ≤ start + frames.length * format.frameSize.toNat ∨
      stretch ∈ stretches format (start + frames.length * format.frameSize.toNat) rest := by
  induction frames generalizing start with
  | nil =>
    rw [List.length_nil, Nat.zero_mul, Nat.add_zero]
    exact .inr member
  | cons frame frames ih =>
    obtain ⟨here, none⟩ := List.forall_mem_cons.mp none
    rw [List.cons_append, stretches_cons_none here] at member
    rw [List.length_cons, Nat.succ_mul, Nat.add_comm (frames.length * _), ← Nat.add_assoc]
    rcases List.mem_cons.mp member with rfl | later
    · exact .inl (Nat.le_add_right _ _)
    · exact ih none later

theorem pageAddress?_address (address command : UInt8) (offset : UInt16) :
    pageAddress? (.write address (command :: wordBytes offset)) = some offset :=
  congrArg some (wordOfBytes_wordBytes offset)

/-- A frame is longer than an address, whatever it carries. -/
theorem pageAddress?_frame (address command : UInt8) (data : List UInt8) (crc : UInt16) :
    pageAddress? (.write address (command :: data ++ wordBytes crc ++ [0])) = none := by
  rcases data with _ | ⟨_, _ | ⟨_, _ | ⟨_, data⟩⟩⟩ <;> rfl

/-- The frames of a page are for the page. -/
theorem mem_stretches_pagePlan {offset : UInt16}
    (valid : image.validate half.profile.flasher = .ok ())
    (address : image.pageOffset? page half.profile.flasher.pageSize = some offset)
    (member : stretch ∈ stretches half.profile.flasher start (pagePlan image half page ++ rest)) :
    stretch.1 + stretch.2 ≤ offset.toNat + half.profile.flasher.pageSize.toNat ∨
      ∃ start', stretch ∈ stretches half.profile.flasher start' rest := by
  rw [pagePlan, address, Option.getD_some, List.cons_append,
    stretches_cons_some (pageAddress?_address ..)] at member
  have frames : ∀ request ∈ (List.range half.profile.flasher.framesPerPage).map (fun frame =>
      Bus.Request.write half.bootloaderAddress (half.profile.flasher.commands.continuePage ::
        image.piece half.profile.flasher page frame ++
        wordBytes (Crc16.ofList (image.piece half.profile.flasher page frame)) ++ [0])),
      pageAddress? request = none := by
    intro request among
    obtain ⟨frame, -, rfl⟩ := List.mem_map.mp among
    exact pageAddress?_frame ..
  rcases mem_stretches_frames frames member with here | later
  · rw [List.length_map, List.length_range, Image.framesPerPage_mul_frameSize valid] at here
    exact .inl here
  · exact .inr ⟨_, later⟩

/-- The induction is on the pages; where a page starts does not depend on those before it. -/
theorem inside_of_mem_stretches {pages : List Nat}
    (valid : image.validate half.profile.flasher = .ok ())
    (inside : ∀ page ∈ pages, ∃ offset,
      image.pageOffset? page half.profile.flasher.pageSize = some offset ∧
      offset.toNat + half.profile.flasher.pageSize.toNat ≤ 0x10000)
    (member : stretch ∈ stretches half.profile.flasher start (pages.flatMap (pagePlan image half))) :
    stretch.1 + stretch.2 ≤ 0x10000 := by
  induction pages generalizing start with
  | nil => cases member
  | cons page pages ih =>
    obtain ⟨⟨offset, address, ends⟩, others⟩ := List.forall_mem_cons.mp inside
    rw [List.flatMap_cons] at member
    rcases mem_stretches_pagePlan valid address member with here | ⟨start', later⟩
    · exact Nat.le_trans here ends
    · exact ih others later

end Stretches

/-! ## Validation -/

section Result
variable {image : Image} {half : Half} {phase : Phase} {said : Bus.Talk}
  {result : Except Failure Report} {session : Session}

/-- An update of an image that fits writes no flash behind the end, whatever the bus answers. -/
theorem stretches_inside (fits : image.Addressable half.profile.flasher)
    (plays : Plays ((update image).run ⟨half, phase⟩) said (result, session)) :
    ∀ stretch ∈ stretches half.profile.flasher 0 ((sentIn .writing said).map (·.request)),
      stretch.1 + stretch.2 ≤ 0x10000 := by
  intro stretch member
  have positive := fits.pageSize_pos
  have valid : image.validate half.profile.flasher = .ok () :=
    Image.validate_eq_ok_iff_addressed.mpr
      ⟨fits.toAddressed, fun page isLast => fits.inside page isLast.1⟩
  obtain ⟨done, progress⟩ := exists_pagesSent valid plays
  obtain ⟨more, planned⟩ := progress.planned
  have inPlan := (stretches_append_left 0 _ more).subset member
  rw [planned, plan] at inPlan
  refine inside_of_mem_stretches valid (fun page inRange => ?_) inPlan
  have has := (Image.hasPage_iff positive).mpr (List.mem_range.mp inRange)
  obtain ⟨offset, address⟩ := Image.exists_pageOffset_iff.mpr (fits.starts page has)
  exact ⟨offset, address, (Image.endsInside_iff address).mp (fits.inside page has)⟩

/-- **Validation accepts an image exactly if it can be sent, each of its pages has an address, and the
last one ends inside the flash.**  If no page starts behind the last one, as in a contiguous image,
then it accepts exactly the images that fit the flash.  An update of an image that fits writes
nothing behind the end of the flash. -/
theorem validate_addressed (image : Image) (format : FlashFormat) :
    (image.validate format = .ok () ∨ image.validate format = .error .invalidImage) ∧
    (image.validate format = .ok () ↔ image.Addressed format ∧
      ∀ page, image.IsLastPage format page → image.EndsInside format page) ∧
    ((∃ base, image.placement = .contiguous base) ∨ image.EndsLast format →
      (image.validate format = .ok () ↔ image.Addressable format)) ∧
    (image.Addressable format →
      ∀ (half : Half) (phase : Phase) (said : Bus.Talk) (result : Except Failure Report)
        (session : Session), half.profile.flasher = format →
        Plays ((update image).run ⟨half, phase⟩) said (result, session) →
        ∀ stretch ∈ stretches format 0 ((sentIn .writing said).map (·.request)),
          stretch.1 + stretch.2 ≤ 0x10000) := by
  refine ⟨?_, Image.validate_eq_ok_iff_addressed, ?_, ?_⟩
  · rcases outcome : image.validate format with failure | _
    · exact .inr (congrArg Except.error (Image.validate_error outcome))
    · exact .inl rfl
  · rintro (⟨base, contiguous⟩ | endsLast)
    · exact Image.validate_eq_ok_iff_addressable (Image.endsLast_of_contiguous contiguous)
    · exact Image.validate_eq_ok_iff_addressable endsLast
  · rintro fits half phase said result session rfl plays
    exact stretches_inside fits plays

/-- Two pages, of which the first one reaches over the end of the flash and the second one does not:
the image passes, and an update writes behind the end. -/
theorem validate_spilling_page :
    let half := Half.new 0 .raise
    let image : Image := ⟨Array.replicate 65 0, .explicit #[65500, 0]⟩
    let played := ((update image).run ⟨half, .idle⟩).transcribe Bus.Script.partner
      { statuses := [.complete, .complete, .complete, .dataNack, .dataNack, .dataNack, .dataNack]
        replies := [[], [1, 0xFF, 0]] }
    image.validate half.profile.flasher = .ok () ∧ ¬image.Addressable half.profile.flasher ∧
      ∃ stretch ∈ stretches half.profile.flasher 0 ((sentIn .writing played.2.1).map (·.request)),
        0x10000 < stretch.1 + stretch.2 := by
  intro half image played
  refine ⟨by decide +kernel, fun fits => ?_, by decide +kernel⟩
  have first : image.HasPage half.profile.flasher 0 := by decide +kernel
  have ends := fits.inside 0 first 65500 (by decide +kernel)
  exact absurd ends (by decide +kernel)

end Result

end SplitBoard.Firmware

import SplitBoard.Proofs.Device
import SplitBoard.Proofs.UpdateOrder

/-!
# The plan of an update

An image fixes what is sent to write it: page after page, an address and then
frames.  `plan` says so without the updater, cutting the frames out of the image
filled up to whole pages (`Image.padded`), and **the frames of the plan carry
these bytes, one after the other** (`carried_plan`).  The writes of an update are
those of the plan (`plan_eq`).
-/

namespace SplitBoard.Firmware

/-- The bytes of an image, filled up with the blank to a whole number of pages. -/
def Image.padded (image : Image) (format : FlashFormat) : List UInt8 :=
  image.data.toList ++ List.replicate
    (image.pageCount format.pageSize * format.pageSize.toNat - image.size) format.blank

/-- The bytes of them that are for one frame of a page. -/
def Image.piece (image : Image) (format : FlashFormat) (page frame : Nat) : List UInt8 :=
  ((image.padded format).drop
    (page * format.pageSize.toNat + frame * format.frameSize.toNat)).take format.frameSize.toNat

section Plan
variable (image : Image) (half : Half)

/-- A page as requests: its address, then its frames, each of them a command, its bytes, their check
value with the low byte first, and a zero. -/
def pagePlan (page : Nat) : List Bus.Request :=
  .write half.bootloaderAddress (half.profile.flasher.commands.pageAddress ::
      wordBytes ((image.pageOffset? page half.profile.flasher.pageSize).getD 0)) ::
    (List.range half.profile.flasher.framesPerPage).map fun frame =>
      .write half.bootloaderAddress (half.profile.flasher.commands.continuePage ::
        image.piece half.profile.flasher page frame ++
        wordBytes (Crc16.ofList (image.piece half.profile.flasher page frame)) ++ [0])

/-- All pages as requests, one after the other. -/
def plan : List Bus.Request :=
  (List.range (image.pageCount half.profile.flasher.pageSize)).flatMap (pagePlan image half)

/-- A write as a request. -/
def PageWrite.request (write : PageWrite) : Bus.Request :=
  .write half.bootloaderAddress (write.bytes half.profile.flasher.commands)

end Plan

/-- The bytes that a frame carries.  Nothing else that is written is as long as a frame. -/
def payload? (format : FlashFormat) : Bus.Request → Option (List UInt8)
  | .write _ bytes =>
    if bytes.length = format.frameSize.toNat + 4 then
      some ((bytes.drop 1).take format.frameSize.toNat)
    else none
  | _ => none

/-- The bytes that the frames among some requests carry, one frame after the other. -/
def carried (format : FlashFormat) (requests : List Bus.Request) : List UInt8 :=
  (requests.filterMap (payload? format)).flatten

section Padding
variable {image : Image} {half : Half} {format : FlashFormat} {page frame : Nat}

/-- The image and its padding are one chunk. -/
theorem padded_eq (valid : image.validate format = .ok ()) :
    image.padded format =
      image.chunk format.blank 0 (image.pageCount format.pageSize * format.pageSize.toNat) := by
  have whole := Image.size_le_pages valid
  have size : image.size = image.data.toList.length := rfl
  apply List.ext_getElem?
  intro i
  rcases Nat.lt_or_ge i (image.pageCount format.pageSize * format.pageSize.toNat) with inside | outside
  · rw [Image.getElem?_chunk _ _ _ inside, Image.padded, Nat.zero_add,
      Array.getD_eq_getD_getElem?]
    rcases Nat.lt_or_ge i image.size with inImage | behind
    · rw [List.getElem?_append_left (size ▸ inImage), Array.getElem?_toList,
        Array.getElem?_eq_getElem inImage, Option.getD_some]
    · rw [List.getElem?_append_right (size ▸ behind), List.getElem?_replicate,
        if_pos (by omega), Array.getElem?_eq_none behind, Option.getD_none]
  · rw [List.getElem?_eq_none, List.getElem?_eq_none]
    · rw [Image.length_chunk]
      exact outside
    · rw [Image.padded, List.length_append, List.length_replicate]
      omega

/-- A chunk out of the middle of a chunk. -/
theorem take_drop_chunk {blank : UInt8} {start length whole : Nat} (h : start + length ≤ whole) :
    ((image.chunk blank 0 whole).drop start).take length = image.chunk blank start length := by
  obtain ⟨rest, rfl⟩ := Nat.exists_eq_add_of_le h
  rw [Image.chunk_add, Image.chunk_add, Nat.zero_add, List.append_assoc,
    List.drop_left' (Image.length_chunk ..), List.take_left' (Image.length_chunk ..)]

/-- Frames of a page lie inside the page, and pages inside the padded image. -/
theorem piece_eq (valid : image.validate format = .ok ())
    (inRange : page < image.pageCount format.pageSize) (inPage : frame < format.framesPerPage) :
    image.piece format page frame =
      image.frameData format (page * format.pageSize.toNat + frame * format.frameSize.toNat) := by
  rw [Image.piece, padded_eq valid, Image.frameData_eq_chunk, take_drop_chunk]
  have frames := Image.framesPerPage_mul_frameSize valid
  have inside : (frame + 1) * format.frameSize.toNat ≤ format.pageSize.toNat :=
    frames ▸ Nat.mul_le_mul_right _ inPage
  have last : (page + 1) * format.pageSize.toNat ≤
      image.pageCount format.pageSize * format.pageSize.toNat := Nat.mul_le_mul_right _ inRange
  rw [Nat.succ_mul] at inside last
  omega

theorem pagePlan_eq (valid : image.validate half.profile.flasher = .ok ())
    (inRange : page < image.pageCount half.profile.flasher.pageSize) :
    pagePlan image half page =
      (pageWrites half.profile.flasher image page).map (PageWrite.request half) := by
  rw [pagePlan, pageWrites, List.map_cons, List.map_map]
  congr 1
  refine List.map_congr_left fun frame member => ?_
  rw [piece_eq valid inRange (List.mem_range.mp member)]
  rfl

theorem plan_eq (valid : image.validate half.profile.flasher = .ok ()) :
    plan image half = (imageWrites half.profile.flasher image).map (PageWrite.request half) := by
  rw [plan, imageWrites, List.map_flatMap]
  exact List.flatMap_congr fun page member => pagePlan_eq valid (List.mem_range.mp member)

theorem carried_append (first second : List Bus.Request) :
    carried format (first ++ second) = carried format first ++ carried format second := by
  rw [carried, List.filterMap_append, List.flatten_append]
  rfl

/-- What a frame is made of besides its bytes takes four more. -/
theorem payload?_frame (address : UInt8) (commands : BootloaderCommands) {data : List UInt8}
    (length : data.length = format.frameSize.toNat) :
    payload? format (.write address (frameBytes commands data)) = some data := by
  have long : (frameBytes commands data).length = format.frameSize.toNat + 4 := by
    simp [frameBytes, wordBytes, length]
  rw [payload?, if_pos long, frameBytes, List.append_assoc, List.cons_append, List.drop_succ_cons,
    List.drop_zero, List.take_left' length]

/-- So many frames of a page carry the bytes at the beginning of the page. -/
theorem carried_frames (image : Image) (half : Half) (page count : Nat) :
    carried half.profile.flasher (((List.range count).map
        (frameWrite half.profile.flasher image page)).map (PageWrite.request half)) =
      image.chunk half.profile.flasher.blank (page * half.profile.flasher.pageSize.toNat)
        (count * half.profile.flasher.frameSize.toNat) := by
  induction count with
  | zero =>
    rw [Nat.zero_mul]
    rfl
  | succ count ih =>
    have last : payload? half.profile.flasher
        (PageWrite.request half (frameWrite half.profile.flasher image page count)) =
        some (image.frameData half.profile.flasher (page * half.profile.flasher.pageSize.toNat +
          count * half.profile.flasher.frameSize.toNat)) :=
      payload?_frame _ _ (Image.length_chunk ..)
    rw [List.range_succ, List.map_append, List.map_append, carried_append, ih, List.map_singleton,
      List.map_singleton, carried, List.filterMap_cons_some last, List.filterMap_nil,
      List.flatten_singleton, Nat.succ_mul, Image.chunk_add, Image.frameData_eq_chunk]

/-- The address of a page carries nothing, and its frames carry the bytes of the page. -/
theorem carried_pageWrites (valid : image.validate half.profile.flasher = .ok ()) (page : Nat) :
    carried half.profile.flasher
        ((pageWrites half.profile.flasher image page).map (PageWrite.request half)) =
      image.chunk half.profile.flasher.blank (page * half.profile.flasher.pageSize.toNat)
        half.profile.flasher.pageSize.toNat := by
  have short : payload? half.profile.flasher (PageWrite.request half
      (.address ((image.pageOffset? page half.profile.flasher.pageSize).getD 0))) = none := by
    simp [payload?, PageWrite.request, PageWrite.bytes, wordBytes]
  rw [pageWrites, List.map_cons, carried, List.filterMap_cons_none short, ← carried,
    carried_frames, Image.framesPerPage_mul_frameSize valid]

theorem carried_pages (valid : image.validate half.profile.flasher = .ok ()) (count : Nat) :
    carried half.profile.flasher (((List.range count).flatMap
        (pageWrites half.profile.flasher image)).map (PageWrite.request half)) =
      image.chunk half.profile.flasher.blank 0 (count * half.profile.flasher.pageSize.toNat) := by
  induction count with
  | zero =>
    rw [Nat.zero_mul]
    rfl
  | succ count ih =>
    rw [List.range_succ, List.flatMap_append, List.map_append, carried_append, ih,
      List.flatMap_singleton, carried_pageWrites valid, Nat.succ_mul, Image.chunk_add, Nat.zero_add]

/-- All frames together carry the padded image. -/
theorem carried_plan (valid : image.validate half.profile.flasher = .ok ()) :
    carried half.profile.flasher (plan image half) = image.padded half.profile.flasher := by
  rw [plan_eq valid, imageWrites, carried_pages valid, padded_eq valid]

end Padding

end SplitBoard.Firmware

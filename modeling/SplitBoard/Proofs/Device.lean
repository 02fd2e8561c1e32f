import SplitBoard.Firmware.Bootloader
import SplitBoard.Firmware.Update
import Mathlib.Data.Nat.Bitwise

/-!
# A bootloader in working order

What the simulated bootloader does with each command of an update when nothing
is wrong with it: its command codes differ, an accepted frame shows as a data
NACK, and neither fault injection is on (`Bootloader.Sound`).  Each lemma gives
the whole state after one command, so the lemmas compose.

The flash is described by chunks: `Image.chunk` is a run of bytes of an image,
continued by the blank behind its end.  Frames are chunks, pages are the chunks
of their frames put together (`chunk_add`, `store_append`), and the whole of a
contiguous image is one chunk again.
-/

namespace SplitBoard.Firmware

/-! ## Words and their bytes -/

theorem wordOfBytes_wordBytes (w : UInt16) :
    w.toUInt8.toUInt16 ||| ((w >>> 8).toUInt8.toUInt16 <<< 8) = w := by
  apply UInt16.toNat.inj
  have bound := w.toNat_lt
  simp only [UInt16.toNat_or, UInt8.toNat_toUInt16, UInt16.toNat_toUInt8, UInt16.toNat_shiftLeft,
    UInt16.toNat_shiftRight]
  change w.toNat % 256 ||| (w.toNat >>> 8 % 256) <<< 8 % 65536 = w.toNat
  have high : (w.toNat >>> 8 % 256) <<< 8 % 65536 = (w.toNat / 256) <<< 8 := by
    rw [Nat.shiftRight_eq_div_pow, Nat.shiftLeft_eq, Nat.shiftLeft_eq]
    omega
  rw [high, Nat.or_comm, ← Nat.shiftLeft_add_eq_or_of_lt (by omega), Nat.shiftLeft_eq]
  omega

theorem toNat_wordBytes (w : UInt16) :
    w.toUInt8.toNat + 256 * (w >>> 8).toUInt8.toNat = w.toNat := by
  have bound := w.toNat_lt
  simp only [UInt16.toNat_toUInt8, UInt16.toNat_shiftRight]
  change w.toNat % 256 + 256 * (w.toNat >>> 8 % 256) = w.toNat
  rw [Nat.shiftRight_eq_div_pow]
  omega

/-! ## Chunks of an image -/

/-- So many bytes of an image from a position on, with the blank behind its end. -/
def Image.chunk (image : Image) (blank : UInt8) (start length : Nat) : List UInt8 :=
  (List.range length).map fun i => image.data.getD (start + i) blank

namespace Image
variable (image : Image) (blank : UInt8) (start : Nat)

@[simp] theorem length_chunk (length : Nat) : (image.chunk blank start length).length = length := by
  simp [chunk]

theorem getElem?_chunk {length i : Nat} (h : i < length) :
    (image.chunk blank start length)[i]? = some (image.data.getD (start + i) blank) := by
  simp [chunk, h]

/-- A chunk in two parts. -/
theorem chunk_add (a b : Nat) :
    image.chunk blank start (a + b) = image.chunk blank start a ++ image.chunk blank (start + a) b := by
  simp [chunk, List.range_add, Nat.add_assoc]

theorem frameData_eq_chunk (format : FlashFormat) :
    image.frameData format start = image.chunk format.blank start format.frameSize.toNat := rfl

end Image

/-! ## The flash -/

theorem overwrite_append (memory : Array UInt8) (start : Nat) (first second : List UInt8) :
    overwrite (overwrite memory start first) (start + first.length) second =
      overwrite memory start (first ++ second) := by
  induction first generalizing memory start with
  | nil => rfl
  | cons byte rest ih =>
    rw [List.cons_append, overwrite, overwrite, ← ih]
    rw [List.length_cons, Nat.add_assoc, Nat.add_comm 1]

namespace Bootloader

/-- Storing on where the first bytes end is storing both at once. -/
theorem store_append (flash : Vector UInt8 0x10000) (start : Nat) (first second : List UInt8) :
    store (store flash start first) (start + first.length) second =
      store flash start (first ++ second) :=
  Vector.toArray_inj.mp (overwrite_append flash.toArray start first second)

theorem store_nil (flash : Vector UInt8 0x10000) (start : Nat) : store flash start [] = flash := rfl

/-- What a flash holds after bytes were stored in it. -/
theorem getElem?_store (flash : Vector UInt8 0x10000) (start : Nat) (bytes : List UInt8) (i : Nat) :
    (store flash start bytes)[i]? =
      if start ≤ i ∧ i < start + bytes.length ∧ i < 0x10000 then bytes[i - start]? else flash[i]? := by
  have h := getElem?_overwrite flash.toArray start bytes i
  rw [flash.size_toArray] at h
  simpa only [store, Vector.getElem?_mk, Vector.getElem?_toArray] using h

/-! ## Commands -/

/-- The codes of a bootloader's commands differ, so it takes each command for what it is. -/
def CodesDiffer (commands : BootloaderCommands) : Prop :=
  [commands.getVersionAndCrc, commands.eraseProgram, commands.pageAddress, commands.continuePage,
    commands.execute].Nodup

instance (commands : BootloaderCommands) : Decidable (CodesDiffer commands) :=
  inferInstanceAs (Decidable (List.Nodup _))

/-- **A bootloader in working order**: its commands differ, its accepted frames show as a data
NACK, it rejects no frame by order, and it stores what it is given. -/
structure Sound (b : Bootloader) : Prop where
  commands : CodesDiffer b.format.commands
  frameAck : b.format.frameAck = Transmission.dataNack.code
  accepts : b.rejectFrame = none
  stores : b.corruptWrites = false

variable {b : Bootloader}

/-- A device as it comes, with nothing in its flash. -/
def newDevice : Bootloader :=
  { address := 0x50, format := Profile.raise.flasher }

theorem sound_newDevice : newDevice.Sound :=
  ⟨by decide +kernel, rfl, rfl, rfl⟩

/-- A new device has the check values of an erased flash. -/
theorem rangeCrc_newDevice {offset length : Nat} (inside : offset + length ≤ addressSpace) :
    rangeCrc newDevice.flash offset length = Crc16.ofList (List.replicate length 0xFF) := by
  have range : min (offset + length) 0x10000 - offset = length := by
    unfold addressSpace at inside
    omega
  rw [rangeCrc, Nat.min_eq_left inside, Crc16.ofRange, Array.foldl_eq_foldl_extract, newDevice,
    Vector.toArray_replicate, Array.extract_replicate, range, ← Array.foldl_toList,
    Array.toList_replicate, Crc16.ofList]

/-- Working order is not lost by what the device is told. -/
theorem Sound.later {b' : Bootloader} (sound : b.Sound) (format : b'.format = b.format)
    (rejects : b'.rejectFrame = b.rejectFrame) (corrupts : b'.corruptWrites = b.corruptWrites) :
    b'.Sound := by
  constructor
  · rw [format]
    exact sound.commands
  · rw [format]
    exact sound.frameAck
  · rw [rejects]
    exact sound.accepts
  · rw [corrupts]
    exact sound.stores

theorem take_erase (h : b.Sound) : b.take [b.format.commands.eraseProgram] = b.takeErase := by
  have differ := h.commands
  simp only [CodesDiffer, List.nodup_cons, List.mem_cons, not_or] at differ
  have notReport : b.format.commands.eraseProgram ≠ b.format.commands.getVersionAndCrc :=
    fun he => differ.1.1 he.symm
  simp only [take, if_neg notReport, if_true]

theorem take_execute (h : b.Sound) :
    b.take [b.format.commands.execute, 0] = (.complete, { b with executed := true }) := by
  have differ := h.commands
  simp only [CodesDiffer, List.nodup_cons, List.mem_cons, not_or] at differ
  obtain ⟨⟨-, -, -, h₁, -⟩, ⟨-, -, h₂, -⟩, ⟨-, h₃, -⟩, ⟨h₄, -⟩, -⟩ := differ
  simp only [take, if_neg (Ne.symm h₁), if_neg (Ne.symm h₂), if_neg (Ne.symm h₃),
    if_neg (Ne.symm h₄), if_true]

/-- The address of a page starts it from its first frame. -/
theorem take_pageAddress (h : b.Sound) (offset : UInt16) :
    b.take (b.format.commands.pageAddress :: wordBytes offset) =
      (.complete, { b with page := offset, frameInPage := 0 }) := by
  have differ := h.commands
  simp only [CodesDiffer, List.nodup_cons, List.mem_cons, not_or] at differ
  obtain ⟨⟨-, h₁, -⟩, ⟨h₂, -⟩, -⟩ := differ
  simp only [take, if_neg (Ne.symm h₁), if_neg (Ne.symm h₂), if_true, wordBytes, takePageAddress,
    wordOfBytes_wordBytes]

theorem frameData?_frame (size : Nat) (data : List UInt8) (h : data.length = size) :
    frameData? size (data ++ wordBytes (Crc16.ofList data) ++ [0]) = some data := by
  have length : (data ++ wordBytes (Crc16.ofList data) ++ [0]).length = size + 3 := by
    simp [wordBytes, h]
  have front : (data ++ wordBytes (Crc16.ofList data) ++ [0]).take size = data := by
    rw [List.append_assoc, List.take_append_of_le_length (by omega), List.take_of_length_le (by omega)]
  have back : (data ++ wordBytes (Crc16.ofList data) ++ [0]).drop size =
      wordBytes (Crc16.ofList data) ++ [0] := by
    rw [List.append_assoc, List.drop_append_of_le_length (by omega), List.drop_of_length_le (by omega),
      List.nil_append]
  rw [frameData?, if_pos length, front, back]
  simp only [wordBytes, List.cons_append, wordOfBytes_wordBytes, if_true]

/-- The command that a frame begins with is taken for what it is. -/
theorem take_continuePage (differ : CodesDiffer b.format.commands) (arguments : List UInt8) :
    b.take (b.format.commands.continuePage :: arguments) = b.takeFrame arguments := by
  simp only [CodesDiffer, List.nodup_cons, List.mem_cons, not_or] at differ
  obtain ⟨⟨-, -, h₁, -⟩, ⟨-, h₂, -⟩, ⟨h₃, -⟩, -⟩ := differ
  simp only [take, if_neg (Ne.symm h₁), if_neg (Ne.symm h₂), if_neg (Ne.symm h₃), if_true]

/-- A frame with a right check value that lies inside the flash is stored. -/
theorem take_frame (h : b.Sound) {data : List UInt8}
    (length : data.length = b.format.frameSize.toNat)
    (inside : b.page.toNat + b.frameInPage * b.format.frameSize.toNat + b.format.frameSize.toNat ≤
      addressSpace) :
    b.take (frameBytes b.format.commands data) =
      (.dataNack, { b with
        flash := store b.flash (b.page.toNat + b.frameInPage * b.format.frameSize.toNat) data
        frameInPage := b.frameInPage + 1
        framesWritten := b.framesWritten + 1
        framesSeen := b.framesSeen + 1 }) := by
  rw [frameBytes, List.cons_append, List.cons_append, take_continuePage h.commands]
  simp only [takeFrame, h.accepts, reduceCtorEq, if_false, frameData?_frame _ data length,
    if_pos inside, storeFrame, h.stores, Bool.false_eq_true]

theorem take_report (request : List UInt8) (offset length : UInt16)
    (hrequest : request = b.format.commands.getVersionAndCrc :: wordBytes offset ++ wordBytes length) :
    b.take request =
      if b.busy ≠ 0 then (.addressNack, { b with busy := b.busy - 1 })
      else
        let crc := rangeCrc b.flash offset.toNat length.toNat
        (.complete, { b with pending := some (b.version, crc.toUInt8, (crc >>> 8).toUInt8) }) := by
  subst hrequest
  simp only [take, wordBytes, List.cons_append, List.nil_append, if_true, takeReportRequest,
    toNat_wordBytes]

end Bootloader
end SplitBoard.Firmware

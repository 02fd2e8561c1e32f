import SplitBoard.Proofs.Device
import SplitBoard.Proofs.Remainder

/-!
# Damaged frames

A bootloader stores the data of a frame only if they are followed by their check
value (`frameData?_eq_some`), and such data leave the register of `Crc16` empty.
So flipped bits that leave something in the register by themselves cannot be
followed by a store.  **A frame damaged by a burst of up to sixteen bits, or in an
odd number of bits, changes nothing on the device** but its count of frames and
its log (`answerWrite_damagedFrame`).

The damage may lie across bytes and across the border between the data and the
check value.
-/

namespace SplitBoard.Firmware

open Crc16 (bits Burst)

/-- The two bytes of a word put together from two bytes. -/
theorem wordBytes_word (low high : UInt8) :
    wordBytes (low.toUInt16 ||| (high.toUInt16 <<< 8)) = [low, high] := by
  have lowByte : (low.toUInt16 ||| (high.toUInt16 <<< 8)).toUInt8 = low := by
    refine UInt8.toBitVec_inj.mp (BitVec.eq_of_getLsbD_eq fun i inside => ?_)
    simp [UInt16.toBitVec_shiftLeft, inside]
  have highByte : ((low.toUInt16 ||| (high.toUInt16 <<< 8)) >>> 8).toUInt8 = high := by
    refine UInt8.toBitVec_inj.mp (BitVec.eq_of_getLsbD_eq fun i inside => ?_)
    have within : 8 + i < 16 := by omega
    simp [UInt16.toBitVec_shiftLeft, UInt16.toBitVec_shiftRight, inside, within]
  rw [wordBytes, lowByte, highByte]

/-- A frame with a right check value that was damaged on the way: in its data and check value the
bits set in the errors are flipped. -/
def damagedFrame (commands : BootloaderCommands) (data errors : List UInt8) (last : UInt8) :
    List UInt8 :=
  commands.continuePage ::
    List.zipWith (· ^^^ ·) (data ++ wordBytes (Crc16.ofList data)) errors ++ [last]

namespace Bootloader

/-- Data are taken from a frame only if their check value follows. -/
theorem frameData?_eq_some {size : Nat} {arguments data : List UInt8}
    (h : frameData? size arguments = some data) :
    ∃ last, arguments = data ++ wordBytes (Crc16.ofList data) ++ [last] := by
  unfold frameData? at h
  split at h
  · next length =>
    have behind : (arguments.drop size).length = 3 := by
      rw [List.length_drop]
      omega
    split at h
    · next low high rest parts =>
      dsimp only at h
      split at h
      · next value =>
        obtain rfl := Option.some.inj h
        rw [parts] at behind
        obtain ⟨last, rfl⟩ := List.length_eq_one_iff.mp (Nat.succ.inj (Nat.succ.inj behind))
        refine ⟨last, ?_⟩
        rw [value, wordBytes_word, List.append_assoc, List.cons_append, List.cons_append,
          List.nil_append, ← parts, List.take_append_drop]
      · cases h
    · cases h
  · cases h

theorem frameData?_damaged (size : Nat) {data errors : List UInt8} (last : UInt8)
    (pattern : errors.length = data.length + 2) (flipped : ∃ error ∈ errors, error ≠ 0)
    (slight : Burst (bits errors) ∨ Odd ((bits errors).count true)) :
    frameData? size
      (List.zipWith (· ^^^ ·) (data ++ wordBytes (Crc16.ofList data)) errors ++ [last]) = none := by
  by_contra taken
  obtain ⟨stored, taken⟩ := Option.ne_none_iff_exists'.mp taken
  obtain ⟨last', frame⟩ := frameData?_eq_some taken
  have carried := (List.append_inj' frame rfl).1
  have whole (data : List UInt8) :
      (data ++ wordBytes (Crc16.ofList data)).foldl Crc16.update Crc16.start = 0 := by
    rw [List.foldl_append]
    exact Crc16.foldl_update_word _
  have unseen : (bits errors).foldl Crc16.feed 0 = 0 := by
    refine Crc16.foldl_feed_of_unseen ?_ (whole data) ?_
    · rw [pattern, List.length_append]
      rfl
    · rw [carried]
      exact whole stored
  rcases slight with burst | odd
  · obtain ⟨error, member, nonzero⟩ := flipped
    refine nonzero (Crc16.eq_zero_of_byteBits fun b set => ?_)
    exact burst.eq_false unseen b (List.mem_flatMap.mpr ⟨error, member, set⟩)
  · exact Crc16.not_odd_of_foldl_feed_eq_zero unseen odd

variable {b : Bootloader}

/-- A frame that no data can be taken from is only counted. -/
theorem takeFrame_of_none {arguments : List UInt8}
    (h : frameData? b.format.frameSize.toNat arguments = none) :
    b.takeFrame arguments = (.fault, { b with framesSeen := b.framesSeen + 1 }) := by
  unfold takeFrame
  simp only [h]
  split <;> rfl

/-- **A frame damaged by a burst or in an odd number of bits is refused**, and leaves the flash, the
count of frames written and the place in the page as they were. -/
theorem answerWrite_damagedFrame (differ : CodesDiffer b.format.commands) {data errors : List UInt8}
    (last : UInt8) (pattern : errors.length = data.length + 2)
    (flipped : ∃ error ∈ errors, error ≠ 0)
    (slight : Burst (bits errors) ∨ Odd ((bits errors).count true)) :
    b.answerWrite b.address (damagedFrame b.format.commands data errors last) =
      (.fault, { b with
        framesSeen := b.framesSeen + 1
        log := b.log.push
          (.write b.address (damagedFrame b.format.commands data errors last) .fault) }) := by
  have refused := takeFrame_of_none (b := b)
    (frameData?_damaged b.format.frameSize.toNat last pattern flipped slight)
  have taken : b.take (damagedFrame b.format.commands data errors last) = _ :=
    (take_continuePage differ _).trans refused
  rw [answerWrite, if_pos rfl, taken]

/-- A full frame, and sixteen flipped bits across the border between its data and its check
value. -/
theorem answerWrite_damagedFrame_across :
    let b : Bootloader := { address := 0x50, format := Profile.raise.flasher }
    let frame := damagedFrame b.format.commands (List.replicate 16 0xAB)
      (List.replicate 15 0 ++ [0xF0, 0xFF, 0x0F]) 0
    (bits (List.replicate 15 0 ++ [0xF0, 0xFF, 0x0F])).count true = 16 ∧
      b.answerWrite 0x50 frame =
        (.fault, { b with framesSeen := 1, log := #[.write 0x50 frame .fault] }) := by
  have burst : Burst (bits (List.replicate 15 0 ++ [0xF0, 0xFF, 0x0F])) := by
    refine ⟨124, fun i set => ?_⟩
    have inside : i < 144 := (List.getElem?_eq_some_iff.mp set).1
    exact (by decide +kernel : ∀ i < 144,
      (bits (List.replicate 15 0 ++ [0xF0, 0xFF, 0x0F]))[i]? = some true →
        124 ≤ i ∧ i < 124 + 16) i inside set
  exact ⟨by decide +kernel, answerWrite_damagedFrame
    (b := { address := 0x50, format := Profile.raise.flasher }) (by decide +kernel) 0
    (by decide) ⟨0xF0, by decide, by decide⟩ (.inl burst)⟩

end Bootloader
end SplitBoard.Firmware

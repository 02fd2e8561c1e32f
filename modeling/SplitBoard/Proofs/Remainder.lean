import SplitBoard.Crc16
import Mathlib.Algebra.Ring.Parity

/-!
# What a check value catches

The register of `Crc16` is linear: messages may be added up, bit by bit, before
they are taken in, or their registers afterwards (`foldl_feed_xor`).  So whether
damage to a message shows does not depend on the message, only on the bits that
were flipped: **damage goes unseen exactly if the flipped bits alone, taken in
from an empty register, leave it empty**.

Two kinds of damage never do.  A register that sixteen bits bring to zero held
just these bits (`bit_of_foldl_feed_eq_zero`), so a burst within sixteen bits
leaves something (`Burst.eq_false`).  The generator has an even number of terms,
so a shift keeps the parity of the register and an odd number of flipped bits
leaves something too (`not_odd_of_foldl_feed_eq_zero`).

Bits count in the order in which they are taken in, the least significant of a
byte first, wherever the bytes begin and end.
-/

namespace SplitBoard.Crc16

/-! ## The register -/

/-- The bit at one place of the register. -/
def bit (crc : UInt16) (i : Nat) : Bool :=
  crc.toBitVec.getLsbD i

theorem ext_bit {a b : UInt16} (h : ∀ i < 16, bit a i = bit b i) : a = b :=
  UInt16.toBitVec_inj.mp (BitVec.eq_of_getLsbD_eq h)

@[simp] theorem bit_zero (i : Nat) : bit 0 i = false := by
  simp [bit]

@[simp] theorem bit_xor (a b : UInt16) (i : Nat) : bit (a ^^^ b) i = (bit a i ^^ bit b i) := by
  simp [bit]

theorem bit_of_ge (crc : UInt16) {i : Nat} (h : 16 ≤ i) : bit crc i = false :=
  BitVec.getLsbD_of_ge _ _ h

theorem bit_half (crc : UInt16) (i : Nat) : bit (crc >>> 1) i = bit crc (i + 1) := by
  simp [bit, UInt16.toBitVec_shiftRight, Nat.add_comm]

theorem bit_toUInt16_zero (b : Bool) : bit b.toUInt16 0 = b := by
  cases b <;> rfl

theorem bit_toUInt16_succ (b : Bool) (i : Nat) : bit b.toUInt16 (i + 1) = false := by
  cases b <;> simp [bit]

theorem low_eq_zero_iff (crc : UInt16) : crc &&& 1 = 0 ↔ bit crc 0 = false := by
  rw [← UInt16.toBitVec_inj, UInt16.toBitVec_and]
  change crc.toBitVec &&& 1#16 = 0#16 ↔ _
  rw [BitVec.and_one_eq_setWidth_ofBool_getLsbD]
  cases h : bit crc 0 <;> simp_all [bit]

/-- A shift moves every bit one place down, and adds the generator where a one falls out. -/
theorem bit_shift (crc : UInt16) (i : Nat) :
    bit (shift crc) i = (bit crc (i + 1) ^^ (bit crc 0 && bit generator i)) := by
  unfold shift
  split
  · next even =>
    rw [bit_half, (low_eq_zero_iff crc).mp even, Bool.false_and, Bool.xor_false]
  · next odd =>
    rw [bit_xor, bit_half, (Bool.not_eq_false _).mp (mt (low_eq_zero_iff crc).mpr odd),
      Bool.true_and]

theorem shift_xor (a b : UInt16) : shift (a ^^^ b) = shift a ^^^ shift b := by
  refine ext_bit fun i _ => ?_
  simp only [bit_xor, bit_shift]
  cases bit a (i + 1) <;> cases bit b (i + 1) <;> cases bit a 0 <;> cases bit b 0 <;> simp

/-- The generator has the topmost place, which so tells which bit fell out. -/
theorem bit_shift_top (crc : UInt16) : bit (shift crc) 15 = bit crc 0 := by
  rw [bit_shift, bit_of_ge crc (Nat.le_refl 16), show bit generator 15 = true by decide]
  simp

theorem shifts_xor (n : Nat) (a b : UInt16) : shifts n (a ^^^ b) = shifts n a ^^^ shifts n b := by
  induction n generalizing a b with
  | zero => rfl
  | succ n ih => rw [shifts, shift_xor, ih, shifts, shifts]

/-! ## Bits -/

/-- Take in one bit. -/
def feed (crc : UInt16) (b : Bool) : UInt16 :=
  shift (crc ^^^ b.toUInt16)

theorem feed_false (crc : UInt16) : feed crc false = shift crc :=
  congrArg shift UInt16.xor_zero

theorem feed_xor (a b : UInt16) (x y : Bool) : feed (a ^^^ b) (x ^^ y) = feed a x ^^^ feed b y := by
  have bitwise : (x ^^ y).toUInt16 = x.toUInt16 ^^^ y.toUInt16 := by
    cases x <;> cases y <;> rfl
  have both : a ^^^ b ^^^ (x ^^ y).toUInt16 = a ^^^ x.toUInt16 ^^^ (b ^^^ y.toUInt16) := by
    rw [bitwise]
    ac_rfl
  rw [feed, feed, feed, ← shift_xor, both]

/-- Registers and bits may be added up before the bits are taken in or afterwards. -/
theorem foldl_feed_xor {a b : UInt16} {xs ys : List Bool} (same : xs.length = ys.length) :
    (List.zipWith (· ^^ ·) xs ys).foldl feed (a ^^^ b) = xs.foldl feed a ^^^ ys.foldl feed b := by
  induction xs generalizing a b ys with
  | nil =>
    obtain rfl := List.length_eq_zero_iff.mp same.symm
    rfl
  | cons x xs ih =>
    cases ys with
    | nil => cases same
    | cons y ys =>
      rw [List.zipWith_cons_cons, List.foldl_cons, feed_xor, ih (Nat.succ.inj same)]
      rfl

/-- What the register held before is shifted on, whatever the bits are. -/
theorem foldl_feed (crc : UInt16) (bs : List Bool) :
    bs.foldl feed crc = shifts bs.length crc ^^^ bs.foldl feed 0 := by
  induction bs generalizing crc with
  | nil => exact UInt16.xor_zero.symm
  | cons b rest ih =>
    have first : feed crc b = shift crc ^^^ feed 0 b := by
      have apart := feed_xor crc 0 false b
      rwa [UInt16.xor_zero, Bool.false_xor, feed_false] at apart
    rw [List.foldl_cons, List.foldl_cons, ih, ih (feed 0 b), first, shifts_xor, List.length_cons,
      shifts, UInt16.xor_assoc]

/-- The bits of a byte in the order in which they are taken in. -/
def byteBits (byte : UInt8) : List Bool :=
  (List.range 8).map byte.toBitVec.getLsbD

/-- The bits of bytes in the order in which they are taken in. -/
def bits (bytes : List UInt8) : List Bool :=
  bytes.flatMap byteBits

theorem length_byteBits (byte : UInt8) : (byteBits byte).length = 8 := by
  simp [byteBits]

theorem length_bits (bytes : List UInt8) : (bits bytes).length = bytes.length * 8 := by
  induction bytes with
  | nil => rfl
  | cons byte rest ih =>
    rw [bits] at ih ⊢
    rw [List.flatMap_cons, List.length_append, length_byteBits, ih, List.length_cons, Nat.succ_mul,
      Nat.add_comm]

theorem byteBits_xor (a b : UInt8) :
    byteBits (a ^^^ b) = List.zipWith (· ^^ ·) (byteBits a) (byteBits b) := by
  simp [byteBits]

theorem bits_zipWith_xor {a b : List UInt8} (same : a.length = b.length) :
    bits (List.zipWith (· ^^^ ·) a b) = List.zipWith (· ^^ ·) (bits a) (bits b) := by
  induction a generalizing b with
  | nil => rfl
  | cons x a ih =>
    cases b with
    | nil => cases same
    | cons y b =>
      have rest := ih (Nat.succ.inj same)
      simp only [bits, List.flatMap_cons, List.zipWith_cons_cons] at rest ⊢
      rw [List.zipWith_append (by rw [length_byteBits, length_byteBits]), rest, byteBits_xor]

/-- Only the byte of zeros has no bit set. -/
theorem eq_zero_of_byteBits {byte : UInt8} (h : ∀ b ∈ byteBits byte, b = false) : byte = 0 := by
  refine UInt8.toBitVec_inj.mp (BitVec.eq_of_getLsbD_eq fun i inside => ?_)
  rw [h _ (List.mem_map.mpr ⟨i, List.mem_range.mpr inside, rfl⟩)]
  simp

theorem foldl_feed_byteBits (byte : UInt8) :
    (byteBits byte).foldl feed 0 = shifts 8 byte.toUInt16 :=
  (by decide +kernel : ∀ n : Fin 256,
    (byteBits (.ofFin n)).foldl feed 0 = shifts 8 (UInt8.ofFin n).toUInt16) byte.toFin

/-- A byte is taken in as its bits are, one after the other. -/
theorem update_eq (crc : UInt16) (byte : UInt8) :
    update crc byte = (byteBits byte).foldl feed crc := by
  rw [foldl_feed, foldl_feed_byteBits, update, shifts_xor, length_byteBits]

theorem foldl_update (crc : UInt16) (bytes : List UInt8) :
    bytes.foldl update crc = (bits bytes).foldl feed crc := by
  induction bytes generalizing crc with
  | nil => rfl
  | cons byte rest ih =>
    rw [List.foldl_cons, update_eq, ih, bits, bits, List.flatMap_cons, List.foldl_append]

/-- **Damage that goes unseen leaves nothing by itself**: if a message and what became of it both
bring the register to zero, so do the flipped bits alone. -/
theorem foldl_feed_of_unseen {message errors : List UInt8} (same : errors.length = message.length)
    (whole : message.foldl update start = 0)
    (damaged : (List.zipWith (· ^^^ ·) message errors).foldl update start = 0) :
    (bits errors).foldl feed 0 = 0 := by
  have length : (bits message).length = (bits errors).length := by
    rw [length_bits, length_bits, same]
  have apart := @foldl_feed_xor start 0 (bits message) (bits errors) length
  rw [UInt16.xor_zero, ← bits_zipWith_xor same.symm, ← foldl_update, ← foldl_update, whole, damaged,
    UInt16.zero_xor] at apart
  exact apart.symm

/-! ## Bursts -/

/-- A register that bits bring to zero held just these bits, if none behind the sixteenth is set. -/
theorem bit_of_foldl_feed_eq_zero {crc : UInt16} {bs : List Bool}
    (short : ∀ i, 16 ≤ i → bs.getD i false = false) (h : bs.foldl feed crc = 0) (i : Nat) :
    bit crc i = bs.getD i false := by
  induction bs generalizing crc i with
  | nil =>
    obtain rfl : crc = 0 := h
    rw [bit_zero, List.getD_nil]
  | cons b rest ih =>
    have later := ih (fun i far => short (i + 1) (Nat.le_succ_of_le far)) h
    -- the shift leaves the topmost place empty, so no one fell out
    have empty : bit (crc ^^^ b.toUInt16) 0 = false := by
      rw [← bit_shift_top, ← feed, later 15]
      exact short 16 (Nat.le_refl 16)
    cases i with
    | zero =>
      rw [bit_xor, bit_toUInt16_zero] at empty
      rw [List.getD_cons_zero]
      exact bne_eq_false_iff_eq.mp empty
    | succ i =>
      have here := later i
      rw [feed, bit_shift, empty, Bool.false_and, Bool.xor_false, bit_xor, bit_toUInt16_succ,
        Bool.xor_false] at here
      rw [here, List.getD_cons_succ]

/-- All bits that are set lie among sixteen that follow one another. -/
def Burst (errors : List Bool) : Prop :=
  ∃ first, ∀ i, errors[i]? = some true → first ≤ i ∧ i < first + 16

/-- **A burst that leaves the register empty flips no bit.** -/
theorem Burst.eq_false {errors : List Bool} (burst : Burst errors)
    (h : errors.foldl feed 0 = 0) : ∀ b ∈ errors, b = false := by
  obtain ⟨first, within⟩ := burst
  induction errors generalizing first with
  | nil => nofun
  | cons b rest ih =>
    cases first with
    | zero =>
      have short : ∀ i, 16 ≤ i → (b :: rest).getD i false = false := by
        intro i far
        rw [List.getD_eq_getElem?_getD]
        rcases here : (b :: rest)[i]? with _ | _ | _
        · rfl
        · rfl
        · have := within i here
          omega
      -- the register was empty, and held the errors
      have held := bit_of_foldl_feed_eq_zero short h
      intro e member
      obtain ⟨i, here⟩ := List.mem_iff_getElem?.mp member
      have place := held i
      rw [bit_zero, List.getD_eq_getElem?_getD, here] at place
      exact place.symm
    | succ first =>
      -- a zero in front leaves the register empty
      obtain rfl : b = false := by
        cases b
        · rfl
        · have := within 0 rfl
          omega
      refine List.forall_mem_cons.mpr ⟨rfl, ih h first fun i here => ?_⟩
      have := within (i + 1) here
      omega

/-! ## Odd errors -/

/-- Whether an odd number of bits is set. -/
def odd (bs : List Bool) : Bool :=
  bs.foldr (· ^^ ·) false

theorem odd_iff (bs : List Bool) : odd bs = true ↔ Odd (bs.count true) := by
  induction bs with
  | nil => simp [odd]
  | cons b rest ih =>
    cases b with
    | false =>
      rw [List.count_cons_of_ne Bool.false_ne_true, ← ih]
      simp [odd]
    | true =>
      rw [List.count_cons_self, Nat.odd_add_one, ← ih]
      simp [odd]

theorem odd_append (as bs : List Bool) : odd (as ++ bs) = (odd as ^^ odd bs) := by
  induction as with
  | nil => simp [odd]
  | cons a as ih =>
    change (a ^^ odd (as ++ bs)) = (a ^^ odd as ^^ odd bs)
    rw [ih, Bool.xor_assoc]

theorem odd_map_xor {α : Type} (f g : α → Bool) (l : List α) :
    odd (l.map fun a => f a ^^ g a) = (odd (l.map f) ^^ odd (l.map g)) := by
  induction l with
  | nil => rfl
  | cons a l ih =>
    change (f a ^^ g a ^^ odd (l.map fun a => f a ^^ g a)) =
      (f a ^^ odd (l.map f) ^^ (g a ^^ odd (l.map g)))
    rw [ih, Bool.xor_assoc, Bool.xor_assoc, Bool.xor_left_comm (g a)]

/-- Whether an odd number of places of the register is set. -/
def parity (crc : UInt16) : Bool :=
  odd ((List.range 16).map (bit crc))

theorem parity_xor (a b : UInt16) : parity (a ^^^ b) = (parity a ^^ parity b) := by
  have bitwise : bit (a ^^^ b) = fun i => bit a i ^^ bit b i := funext fun i => bit_xor a b i
  rw [parity, bitwise, odd_map_xor]
  rfl

/-- A shift keeps the parity: the generator has an odd number of places, and is added where a one
falls out. -/
theorem parity_shift (crc : UInt16) : parity (shift crc) = parity crc := by
  have bitwise : bit (shift crc) =
      fun i => bit crc (i + 1) ^^ (bit crc 0 && bit generator i) :=
    funext fun i => bit_shift crc i
  have above : (bit crc 0 ^^ odd ((List.range 16).map fun i => bit crc (i + 1))) = parity crc := by
    -- both sides are the parity of seventeen places, of which the topmost is empty
    have places : odd ((List.range 17).map (bit crc)) = parity crc := by
      rw [List.range_succ, List.map_append, odd_append, List.map_cons,
        bit_of_ge crc (Nat.le_refl 16)]
      exact Bool.xor_false _
    rw [← places, List.range_succ_eq_map, List.map_cons, List.map_map]
    rfl
  have fallen : odd ((List.range 16).map fun i => bit crc 0 && bit generator i) = bit crc 0 := by
    cases bit crc 0 <;> decide
  rw [← above, parity, bitwise, odd_map_xor, fallen, Bool.xor_comm]

theorem parity_foldl_feed (crc : UInt16) (bs : List Bool) :
    parity (bs.foldl feed crc) = (parity crc ^^ odd bs) := by
  induction bs generalizing crc with
  | nil => exact (Bool.xor_false _).symm
  | cons b rest ih =>
    have one : parity b.toUInt16 = b := by cases b <;> decide
    rw [List.foldl_cons, ih, feed, parity_shift, parity_xor, one, Bool.xor_assoc]
    rfl

/-- **An odd number of errors does not leave the register empty.** -/
theorem not_odd_of_foldl_feed_eq_zero {errors : List Bool} (h : errors.foldl feed 0 = 0) :
    ¬Odd (errors.count true) := by
  have even := parity_foldl_feed 0 errors
  rw [h, show parity 0 = false by decide, Bool.false_xor] at even
  rw [← odd_iff, ← even]
  exact Bool.false_ne_true

/-! ## Check values -/

/-- A register that takes in its own bits runs empty. -/
theorem bit_foldl_feed_self (crc : UInt16) (n i : Nat) :
    bit (((List.range n).map (bit crc)).foldl feed crc) i = bit crc (i + n) := by
  induction n generalizing i with
  | zero => rfl
  | succ n ih =>
    rw [List.range_succ, List.map_append, List.foldl_append, List.map_cons, List.map_nil,
      List.foldl_cons, List.foldl_nil, feed, bit_shift, bit_xor, bit_xor, ih, ih, Nat.zero_add,
      bit_toUInt16_succ, bit_toUInt16_zero, Bool.xor_self, Bool.false_and, Bool.xor_false,
      Bool.xor_false, Nat.add_right_comm]
    rfl

/-- The two bytes of a word, the low one first, have its bits in order. -/
theorem bits_word (crc : UInt16) :
    bits [crc.toUInt8, (crc >>> 8).toUInt8] = (List.range 16).map (bit crc) := by
  have low : byteBits crc.toUInt8 = (List.range 8).map (bit crc) := by
    refine List.map_congr_left fun i inside => ?_
    have := List.mem_range.mp inside
    simp [bit, this]
  have high : byteBits (crc >>> 8).toUInt8 = (List.range 8).map fun i => bit crc (8 + i) := by
    refine List.map_congr_left fun i inside => ?_
    have := List.mem_range.mp inside
    simp [bit, this, UInt16.toBitVec_shiftRight]
  rw [show (16 : Nat) = 8 + 8 by rfl, List.range_add, List.map_append, List.map_map]
  simp [bits, low, high]

/-- **A check value taken in behind its message, the low byte first, leaves the register empty.** -/
theorem foldl_update_word (crc : UInt16) :
    [crc.toUInt8, (crc >>> 8).toUInt8].foldl update crc = 0 := by
  rw [foldl_update, bits_word]
  refine ext_bit fun i _ => ?_
  rw [bit_foldl_feed_self, bit_of_ge crc (Nat.le_add_left 16 i), bit_zero]

end SplitBoard.Crc16

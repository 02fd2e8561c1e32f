import SplitBoard.Led.Machine
import SplitBoard.Proofs.BankBytes

/-!
# Within the limits of the machine

A machine stops where a table, a slice, a shift or a division has its limits.  On a
buffer whose layout fits, **it goes through every operation and does what the
operation says**, whatever the arguments are (`checkedPerform_eq`).

There is one thing that it may stop at: the places of a bank are numbered before it is
looked whether there are LEDs at them, and the numbers of a bank far away need not fit
a word (`checkedPerform_stops`).  A machine that cuts such numbers down does not stop
at them either (`exists_checkedPerform`).
-/

namespace SplitBoard

open Machine

section Slices

variable {α : Type}

theorem inThrees_of_ne_nil {items : List α} (filled : items ≠ []) :
    inThrees items = items.take 3 :: inThrees (items.drop 3) := by
  match items, filled with
  | [_], _ | [_, _], _ | _ :: _ :: _ :: _, _ => rfl

theorem partsFor_three (n : Nat) : partsFor n 3 = (n + 2) / 3 := by
  simp [partsFor]

/-- The number of slices of three. -/
theorem length_inThrees (items : List α) :
    (inThrees items).length = partsFor items.length 3 := by
  rw [partsFor_three]
  induction items using inThrees.induct with
  | case1 | case2 | case3 => simp [inThrees]
  | case4 a b c rest ih =>
    simp only [inThrees, List.length_cons]
    omega

/-- Nothing is lost. -/
theorem flatten_inThrees (items : List α) : (inThrees items).flatten = items := by
  induction items using inThrees.induct with
  | case1 | case2 | case3 => rfl
  | case4 a b c rest ih => rw [inThrees, List.flatten_cons, ih]; rfl

theorem length_le_of_mem_inThrees (items : List α) :
    ∀ slice ∈ inThrees items, slice.length ≤ 3 := by
  induction items using inThrees.induct with
  | case1 | case2 | case3 => simp [inThrees]
  | case4 a b c rest ih => exact List.forall_mem_cons.mpr ⟨Nat.le_refl 3, ih⟩

end Slices

namespace LedBuffer

variable {words : Words} {leds : LedBuffer}

theorem checkedNew_eq (wide : 0x10000 ≤ words.limit) (layout : LedLayout) :
    checkedNew words layout = .ok (new layout) := by
  have fits := wellFormed_new layout
  have perBank := fits.perBank_le
  have count := fits.count_le
  simp only [maxPerBank] at perBank
  simp only [capacity] at count
  have places : (new layout).perBank * maxBanks < words.limit := by
    simp only [maxBanks]
    omega
  have perBankByte : (UInt8.ofNat (new layout).perBank).toNat = (new layout).perBank :=
    UInt8.toNat_ofNat_of_lt' (show _ < 256 by omega)
  have countByte : (UInt8.ofNat (new layout).count).toNat = (new layout).count :=
    UInt8.toNat_ofNat_of_lt' (show _ < 256 by omega)
  change (word words ((new layout).perBank * maxBanks) >>= fun places => _) = _
  rw [word_ok places, ok_bind]
  change Except.ok { (new layout) with
    count := (UInt8.ofNat (new layout).count).toNat
    perBank := (UInt8.ofNat (new layout).perBank).toNat } = _
  rw [perBankByte, countByte]

/-! ## Colors -/

/-- No LED is looked up that is not there, whatever the number is. -/
theorem checkedGet_eq (h : leds.WellFormed) (index : Nat) :
    leds.checkedGet index = .ok (leds.get? index) := by
  unfold checkedGet get?
  split
  · next inside =>
    have fits : index < 72 := Nat.lt_of_lt_of_le inside h.count_le
    rw [entry_ok fits, map_ok, Vector.getElem?_eq_getElem fits]
  · rfl

theorem checkedSet_eq (h : leds.WellFormed) (index : Nat) (color : Color) :
    leds.checkedSet index color = .ok (leds.set index color) := by
  unfold checkedSet
  split
  · next outside =>
    rw [set, get?, if_neg (Nat.not_lt.mpr outside)]
    rfl
  · next within =>
    have inside : index < leds.count := Nat.lt_of_not_le within
    have fits : index < 72 := Nat.lt_of_lt_of_le inside h.count_le
    have marked : index / leds.perBank < 16 :=
      Nat.lt_of_lt_of_le (h.div_lt_banks inside) h.banks_le
    rw [set, get?, if_pos inside, Vector.getElem?_eq_getElem fits, entry_ok fits, ok_bind]
    by_cases same : leds.colors[index] = color
    · simp only [if_pos same]
      rfl
    · simp only [if_neg same, store_ok fits, quotient_ok h.perBank_pos, bit_ok marked, ok_bind]
      rfl

/-- The induction is on the LEDs that are still to be filled. -/
theorem checkedFill_eq (h : leds.WellFormed) (color : Color) :
    leds.checkedFill color = .ok (leds.fill color) := by
  unfold checkedFill fill
  generalize List.range leds.count = indices
  induction indices generalizing leds with
  | nil => rfl
  | cons index indices ih =>
    rw [List.foldlM_cons, checkedSet_eq h, ok_bind, ih (wellFormed_set h index color),
      List.foldl_cons]

/-! ## Turns -/

theorem checkedTakeNextBank_eq (wide : 0x10000 ≤ words.limit) (h : leds.WellFormed)
    (turn : leds.nextBank < max leds.banks 1) :
    leds.checkedTakeNextBank words = .ok leds.takeNextBank := by
  have few := h.banks_le
  simp only [maxBanks] at few
  have next : leds.nextBank + 1 < words.limit := by omega
  have some : 0 < max leds.banks 1 := by omega
  rw [checkedTakeNextBank, word_ok next, ok_bind, remainder_ok some]
  rfl

/-! ## Dirty marks -/

/-- All marks, computed in a word that is wider than they are. -/
theorem allMarks_eq {banks : Nat} (few : banks ≤ 16) :
    1#32 ≤ 1#32 <<< banks ∧
      (1#32 <<< banks - 1#32).setWidth 16 = ~~~(BitVec.allOnes 16 <<< banks) :=
  (by decide : ∀ n : Fin 17, 1#32 ≤ 1#32 <<< n.val ∧
    (1#32 <<< n.val - 1#32).setWidth 16 = ~~~(BitVec.allOnes 16 <<< n.val))
    ⟨banks, Nat.lt_succ_of_le few⟩

theorem checkedMarkAllDirty_eq (h : leds.WellFormed) :
    leds.checkedMarkAllDirty = .ok leds.markAllDirty := by
  have few : leds.banks ≤ 16 := h.banks_le
  obtain ⟨below, marks⟩ := allMarks_eq few
  rw [checkedMarkAllDirty, bit_ok (by omega), ok_bind, difference_ok below, ok_bind, markAllDirty,
    ← marks]
  rfl

/-- A mark is there if it is left when all others are masked out. -/
theorem and_mark_ne_zero (marks : BitVec 16) {bank : Nat} (small : bank < 16) :
    decide (marks &&& 1#16 <<< bank ≠ 0) = marks.getLsbD bank := by
  have only : 1#16 <<< bank = BitVec.twoPow 16 bank := rfl
  rw [only, BitVec.and_twoPow]
  cases here : marks.getLsbD bank with
  | false => simp
  | true =>
    -- the mark itself is not zero
    have self : (BitVec.twoPow 16 bank).getLsbD bank = true := by simp [small]
    have filled : BitVec.twoPow 16 bank ≠ 0#16 := fun zero => by simp [zero] at self
    simp [filled]

theorem checkedIsDirty_eq (h : leds.WellFormed) (bank : Nat) :
    leds.checkedIsDirty bank = .ok (leds.isDirty bank) := by
  unfold checkedIsDirty isDirty
  split
  · next inside =>
    have small : bank < 16 := Nat.lt_of_lt_of_le inside h.banks_le
    rw [bit_ok small, ok_bind, decide_eq_true inside, Bool.true_and, ← and_mark_ne_zero _ small]
    rfl
  · next outside =>
    rw [decide_eq_false outside]
    rfl

theorem checkedClearDirty_eq (h : leds.WellFormed) (bank : Nat) :
    leds.checkedClearDirty bank = .ok (leds.clearDirty bank) := by
  unfold checkedClearDirty clearDirty
  split
  · next inside =>
    have small : bank < 16 := Nat.lt_of_lt_of_le inside h.banks_le
    rw [bit_ok small]
    rfl
  · rfl

/-- The induction is on the banks that are still to be asked. -/
theorem checkedFirstDirty_eq (wide : 0x10000 ≤ words.limit) (h : leds.WellFormed)
    (turn : leds.nextBank < max leds.banks 1) {turns : List Nat}
    (inside : ∀ n ∈ turns, n < leds.banks) :
    leds.checkedFirstDirty words turns =
      .ok ((turns.map fun n => (leds.nextBank + n) % leds.banks).find? leds.isDirty) := by
  have few := h.banks_le
  simp only [maxBanks] at few
  induction turns with
  | nil => rfl
  | cons n turns ih =>
    obtain ⟨here, others⟩ := List.forall_mem_cons.mp inside
    have sum : leds.nextBank + n < words.limit := by omega
    rw [checkedFirstDirty, word_ok sum, ok_bind, remainder_ok (by omega), ok_bind,
      checkedIsDirty_eq h, ok_bind, ih others, List.map_cons, List.find?_cons]
    cases leds.isDirty ((leds.nextBank + n) % leds.banks) <;> rfl

/-! ## Bytes -/

/-- The bytes for a place of a bank; places behind the last LED are dark. -/
def channelsAt (leds : LedBuffer) (bank place : Nat) : List UInt8 :=
  ((leds.get? (bank * leds.perBank + place)).getD .black).channels

theorem length_channelsAt (leds : LedBuffer) (bank place : Nat) :
    (leds.channelsAt bank place).length = 3 := rfl

theorem bankChannels_eq (leds : LedBuffer) (bank : Nat) :
    leds.bankChannels bank = (List.range' 0 leds.perBank).flatMap (leds.channelsAt bank) := by
  rw [bankChannels, bankColors, List.flatMap_map, List.range_eq_range']
  rfl

section Write

variable {bank place : Nat} {slice : List UInt8} {slices : List (List UInt8)}

theorem checkedWrite_cons (h : leds.WellFormed) (short : slice.length ≤ 3)
    (fits : bank * leds.perBank + place < words.limit) :
    leds.checkedWrite words bank place (slice :: slices) =
      leds.checkedWrite words bank (place + 1) slices >>= fun rest =>
        .ok ((leds.channelsAt bank place).take slice.length ++ rest) := by
  have first : bank * leds.perBank < words.limit := by omega
  have room : slice.length ≤ (leds.channelsAt bank place).length := short
  have same : slice.length = ((leds.channelsAt bank place).take slice.length).length := by
    rw [List.length_take, Nat.min_eq_left room]
  rw [checkedWrite, word_ok first, ok_bind, word_ok fits, ok_bind, checkedGet_eq h, ok_bind]
  change (upTo (leds.channelsAt bank place) slice.length >>= fun channels => _) = _
  rw [upTo_ok room, ok_bind, copyOver_ok same, ok_bind]
  rfl

theorem checkedWrite_overflow (narrow : words.wraps = false)
    (large : words.limit ≤ bank * leds.perBank + place) :
    leds.checkedWrite words bank place (slice :: slices) = .error .overflow := by
  rw [checkedWrite]
  by_cases first : bank * leds.perBank < words.limit
  · rw [word_ok first, ok_bind, word_overflow narrow large, error_bind]
  · rw [word_overflow narrow (Nat.le_of_not_lt first), error_bind]

/-- The machine stops at the first place that has no number.  The induction is on the slices. -/
theorem checkedWrite_stops (narrow : words.wraps = false) (h : leds.WellFormed)
    (short : ∀ slice ∈ slices, slice.length ≤ 3)
    (stops : ∃ k < slices.length, words.limit ≤ bank * leds.perBank + (place + k)) :
    leds.checkedWrite words bank place slices = .error .overflow := by
  induction slices generalizing place with
  | nil =>
    obtain ⟨k, none, -⟩ := stops
    exact absurd none (Nat.not_lt_zero k)
  | cons slice slices ih =>
    obtain ⟨here, others⟩ := List.forall_mem_cons.mp short
    by_cases fits : bank * leds.perBank + place < words.limit
    · obtain ⟨k, inside, large⟩ := stops
      have later : ∃ k < slices.length, words.limit ≤ bank * leds.perBank + (place + 1 + k) := by
        rcases k with _ | k
        · omega
        · exact ⟨k, Nat.lt_of_succ_lt_succ inside, by omega⟩
      rw [checkedWrite_cons h here fits, ih others later, error_bind]
    · exact checkedWrite_overflow narrow (Nat.le_of_not_lt fits)

/-- If numbers are cut down, there is an LED or darkness for each of them, and the slices keep their
lengths.  The induction is on the slices. -/
theorem exists_checkedWrite (wraps : words.wraps = true) (h : leds.WellFormed)
    (short : ∀ slice ∈ slices, slice.length ≤ 3) (place : Nat) :
    ∃ written, leds.checkedWrite words bank place slices = .ok written ∧
      written.length = slices.flatten.length := by
  induction slices generalizing place with
  | nil => exact ⟨[], rfl, rfl⟩
  | cons slice slices ih =>
    obtain ⟨here, others⟩ := List.forall_mem_cons.mp short
    obtain ⟨first, begins⟩ := exists_word wraps (bank * leds.perBank)
    obtain ⟨index, reaches⟩ := exists_word wraps (first + place)
    obtain ⟨rest, goes, length⟩ := ih others (place + 1)
    have room : slice.length ≤ ((leds.get? index).getD .black).channels.length := here
    have same : slice.length =
        (((leds.get? index).getD .black).channels.take slice.length).length := by
      rw [List.length_take, Nat.min_eq_left room]
    refine ⟨((leds.get? index).getD .black).channels.take slice.length ++ rest, ?_, ?_⟩
    · rw [checkedWrite, begins, ok_bind, reaches, ok_bind, checkedGet_eq h, ok_bind]
      dsimp only
      rw [upTo_ok room, ok_bind, copyOver_ok same, ok_bind, goes]
      rfl
    · rw [List.length_append, ← same, length, List.flatten_cons, List.length_append]

/-- The slices are filled with the bytes of one place each, as far as they go.  The induction is on
the places. -/
theorem checkedWrite_inThrees (h : leds.WellFormed) {out : List UInt8} {count : Nat}
    (fits : ∀ k < (inThrees out).length, bank * leds.perBank + (place + k) < words.limit)
    (room : out.length ≤ 3 * count) :
    leds.checkedWrite words bank place (inThrees out) =
      .ok (((List.range' place count).flatMap (leds.channelsAt bank)).take out.length) := by
  induction count generalizing place out with
  | zero =>
    obtain rfl := List.length_eq_zero_iff.mp (Nat.le_zero.mp room)
    rfl
  | succ count ih =>
    by_cases empty : out = []
    · subst empty
      rfl
    rw [inThrees_of_ne_nil empty, List.length_cons] at fits
    have here : bank * leds.perBank + place < words.limit := fits 0 (Nat.zero_lt_succ _)
    have others : ∀ k < (inThrees (out.drop 3)).length,
        bank * leds.perBank + (place + 1 + k) < words.limit := by
      intro k inside
      have later := fits (k + 1) (Nat.succ_lt_succ inside)
      omega
    have short : (out.take 3).length ≤ 3 := List.length_take_le 3 out
    have behind : (out.drop 3).length ≤ 3 * count := by
      rw [List.length_drop]
      omega
    have front : (leds.channelsAt bank place).take (out.take 3).length =
        (leds.channelsAt bank place).take out.length := by
      rw [List.length_take, Nat.min_comm, ← leds.length_channelsAt bank place,
        ← List.take_eq_take_min]
    rw [inThrees_of_ne_nil empty, checkedWrite_cons h short here, ih others behind, ok_bind, front,
      List.range'_succ, List.flatMap_cons, List.take_append, List.length_drop,
      leds.length_channelsAt]

end Write

/-- All places of a bank that are written over so many bytes have numbers that fit a word. -/
def Numbered (leds : LedBuffer) (limit bank room : Nat) : Prop :=
  ∀ place < partsFor (min leds.bankBytes room) 3, bank * leds.perBank + place < limit

section WriteBank

variable {bank : Nat} {out : List UInt8}

/-- Before the first byte is written, nothing can stop the machine. -/
theorem checkedWriteBank_bind (wide : 0x10000 ≤ words.limit) (h : leds.WellFormed) :
    leds.checkedWriteBank words bank out =
      leds.checkedWrite words bank 0 (inThrees (out.take (min leds.bankBytes out.length))) >>=
        fun written => .ok (min leds.bankBytes out.length,
          written ++ out.drop (min leds.bankBytes out.length)) := by
  have few := h.perBank_le
  simp only [maxPerBank] at few
  have bytes : 3 * leds.perBank < words.limit := by omega
  have inside : min leds.bankBytes out.length ≤ out.length := Nat.min_le_right _ _
  rw [checkedWriteBank, word_ok bytes, ok_bind]
  change (upTo out (min leds.bankBytes out.length) >>= fun front => _) = _
  rw [upTo_ok inside, ok_bind]
  change (_ >>= fun written =>
    onFrom out (min leds.bankBytes out.length) >>= fun behind => _) = _
  simp only [onFrom_ok inside, ok_bind]
  rfl

theorem length_inThrees_take (leds : LedBuffer) (out : List UInt8) :
    (inThrees (out.take (min leds.bankBytes out.length))).length =
      partsFor (min leds.bankBytes out.length) 3 := by
  rw [length_inThrees, List.length_take, Nat.min_eq_left (Nat.min_le_right _ _)]

theorem checkedWriteBank_eq (wide : 0x10000 ≤ words.limit) (h : leds.WellFormed)
    (numbered : leds.Numbered words.limit bank out.length) :
    leds.checkedWriteBank words bank out = .ok (leds.writeBank bank out) := by
  have count : ((leds.bankChannels bank).take out.length).length =
      min leds.bankBytes out.length := by
    rw [List.length_take, length_bankChannels, Nat.min_comm]
  have fits : ∀ k < (inThrees (out.take (min leds.bankBytes out.length))).length,
      bank * leds.perBank + (0 + k) < words.limit := by
    rw [length_inThrees_take]
    intro k inside
    rw [Nat.zero_add]
    exact numbered k inside
  have room : (out.take (min leds.bankBytes out.length)).length ≤ 3 * leds.perBank := by
    rw [List.length_take]
    exact Nat.le_trans (Nat.min_le_left _ _) (Nat.min_le_left _ _)
  have written : (leds.bankChannels bank).take (out.take (min leds.bankBytes out.length)).length =
      (leds.bankChannels bank).take out.length := by
    rw [List.length_take, Nat.min_eq_left (Nat.min_le_right _ _), Nat.min_comm,
      ← leds.length_bankChannels bank, ← List.take_eq_take_min]
  rw [checkedWriteBank_bind wide h, checkedWrite_inThrees h fits room, ok_bind, ← bankChannels_eq,
    written, ← count]
  rfl

theorem checkedWriteBank_stops (wide : 0x10000 ≤ words.limit) (narrow : words.wraps = false)
    (h : leds.WellFormed) (large : ¬leds.Numbered words.limit bank out.length) :
    leds.checkedWriteBank words bank out = .error .overflow := by
  have stops : ∃ k < (inThrees (out.take (min leds.bankBytes out.length))).length,
      words.limit ≤ bank * leds.perBank + (0 + k) := by
    rw [length_inThrees_take]
    simpa [Numbered] using large
  rw [checkedWriteBank_bind wide h,
    checkedWrite_stops narrow h (length_le_of_mem_inThrees _) stops, error_bind]

/-- With banks of one LED, a bank is numbered as its LED is. -/
example : (new { count := 255, perBank := 1 }).checkedWriteBank
    { limit := 0x10000, wraps := false } 0x10000 [0] = .error .overflow := by decide +kernel

theorem exists_checkedWriteBank (wide : 0x10000 ≤ words.limit) (wraps : words.wraps = true)
    (h : leds.WellFormed) (bank : Nat) (out : List UInt8) : ∃ written,
      leds.checkedWriteBank words bank out = .ok (min leds.bankBytes out.length, written) ∧
        written.length = out.length := by
  obtain ⟨front, goes, length⟩ := @exists_checkedWrite _ _ bank _ wraps h
    (length_le_of_mem_inThrees (out.take (min leds.bankBytes out.length))) 0
  refine ⟨front ++ out.drop (min leds.bankBytes out.length), ?_, ?_⟩
  · rw [checkedWriteBank_bind wide h, goes, ok_bind]
  · rw [List.length_append, length, flatten_inThrees, ← List.length_append, List.take_append_drop]

end WriteBank

section Assemble

variable {profile : Profile} {dimming : UInt8} {bank : Nat} {older : FrameBuffer}

/-- What is left of an older frame behind the byte that names its bank. -/
theorem length_drop_older (older : FrameBuffer) :
    (older.bytes.drop 1).length = 3 * maxPerBank := by
  rw [List.length_drop, older.length_eq]
  rfl

theorem one_le_length_older (older : FrameBuffer) : 1 ≤ older.bytes.length := by
  rw [older.length_eq]
  omega

theorem fst_writeBank_le (leds : LedBuffer) (bank : Nat) (out : List UInt8) :
    (leds.writeBank bank out).1 ≤ out.length :=
  List.length_take_le _ _

theorem checkedAssemble_eq (wide : 0x10000 ≤ words.limit) (h : leds.WellFormed)
    (numbered : leds.Numbered words.limit bank (3 * maxPerBank)) :
    leds.checkedAssemble words profile dimming bank older.bytes =
      .ok ((leds.assemble profile dimming bank older).2.bytes.take
          (1 + (leds.assemble profile dimming bank older).1),
        (leds.assemble profile dimming bank older).2.bytes) := by
  rw [← length_drop_older older] at numbered
  rw [checkedAssemble, onFrom_ok (one_le_length_older older), ok_bind,
    checkedWriteBank_eq wide h numbered, ok_bind]
  have count := leds.fst_writeBank_le bank (older.bytes.drop 1)
  have inside : (leds.writeBank bank (older.bytes.drop 1)).1 ≤
      (leds.writeBank bank (older.bytes.drop 1)).2.length := by
    rw [leds.length_writeBank]
    exact count
  have whole : 1 + (leds.assemble profile dimming bank older).1 ≤
      (leds.assemble profile dimming bank older).2.bytes.length := by
    rw [length_drop_older] at count
    rw [(leds.assemble profile dimming bank older).2.length_eq]
    exact Nat.add_le_add_left count 1
  simp only [upTo_ok inside, onFrom_ok inside, ok_bind]
  change (upTo (leds.assemble profile dimming bank older).2.bytes
    (1 + (leds.assemble profile dimming bank older).1) >>= fun sent => _) = _
  rw [upTo_ok whole]
  rfl

theorem checkedAssemble_stops (wide : 0x10000 ≤ words.limit) (narrow : words.wraps = false)
    (h : leds.WellFormed) (large : ¬leds.Numbered words.limit bank (3 * maxPerBank)) :
    leds.checkedAssemble words profile dimming bank older.bytes = .error .overflow := by
  rw [← length_drop_older older] at large
  rw [checkedAssemble, onFrom_ok (one_le_length_older older), ok_bind,
    checkedWriteBank_stops wide narrow h large, error_bind]

theorem exists_checkedAssemble (wide : 0x10000 ≤ words.limit) (wraps : words.wraps = true)
    (h : leds.WellFormed) (profile : Profile) (dimming : UInt8) (bank : Nat) (older : FrameBuffer) :
    ∃ built, leds.checkedAssemble words profile dimming bank older.bytes = .ok built := by
  obtain ⟨written, goes, length⟩ := exists_checkedWriteBank wide wraps h bank (older.bytes.drop 1)
  have inside : min leds.bankBytes (older.bytes.drop 1).length ≤ written.length := by
    rw [length]
    exact Nat.min_le_right _ _
  generalize min leds.bankBytes (older.bytes.drop 1).length = count at goes inside
  have whole : 1 + count ≤ ((bankCommand + UInt8.ofNat bank) ::
      (encodeChannels profile dimming (written.take count) ++ written.drop count)).length := by
    rw [List.length_cons, List.length_append, length_encodeChannels, ← List.length_append,
      List.take_append_drop]
    omega
  rw [checkedAssemble, onFrom_ok (one_le_length_older older), ok_bind, goes, ok_bind]
  simp only [upTo_ok inside, onFrom_ok inside, ok_bind, upTo_ok whole]
  exact ⟨_, rfl⟩

end Assemble

/-! ## All operations -/

end LedBuffer

/-- The places that a step writes have numbers that fit a word. -/
def LedStep.Numbered (limit : Nat) (leds : LedBuffer) : LedStep → Prop
  | .writeBank bank out => leds.Numbered limit bank out.length
  | .assemble _ _ bank _ => leds.Numbered limit bank (3 * LedBuffer.maxPerBank)
  | _ => True

namespace LedBuffer

variable {words : Words} {leds : LedBuffer}

/-- **The machine goes through every step whose places are numbered**, and does what the step
says. -/
theorem checkedPerform_eq (wide : 0x10000 ≤ words.limit) (h : leds.WellFormed)
    (turn : leds.nextBank < max leds.banks 1) {step : LedStep}
    (numbered : step.Numbered words.limit leds) :
    leds.checkedPerform words step = .ok (leds.perform step) := by
  cases step with
  | set index color => rw [checkedPerform, checkedSet_eq h]; rfl
  | fill color => rw [checkedPerform, checkedFill_eq h]; rfl
  | get index => rw [checkedPerform, checkedGet_eq h]; rfl
  | setNextBank bank => rfl
  | takeNextBank => rw [checkedPerform, checkedTakeNextBank_eq wide h turn]; rfl
  | markAllDirty => rw [checkedPerform, checkedMarkAllDirty_eq h]; rfl
  | clearDirty bank => rw [checkedPerform, checkedClearDirty_eq h]; rfl
  | isDirty bank => rw [checkedPerform, checkedIsDirty_eq h]; rfl
  | nextDirtyBank =>
    rw [checkedPerform, checkedFirstDirty_eq wide h turn fun n => List.mem_range.mp]
    rfl
  | writeBank bank out => rw [checkedPerform, checkedWriteBank_eq wide h numbered]; rfl
  | assemble profile dimming bank older =>
    rw [checkedPerform, checkedAssemble_eq wide h numbered]
    rfl

/-- Where a place has no number, that is why the machine stops. -/
theorem checkedPerform_stops (wide : 0x10000 ≤ words.limit) (narrow : words.wraps = false)
    (h : leds.WellFormed) {step : LedStep} (large : ¬step.Numbered words.limit leds) :
    leds.checkedPerform words step = .error .overflow := by
  cases step with
  | writeBank bank out => rw [checkedPerform, checkedWriteBank_stops wide narrow h large]; rfl
  | assemble profile dimming bank older =>
    rw [checkedPerform, checkedAssemble_stops wide narrow h large]
    rfl
  | _ => exact absurd trivial large

/-- If numbers are cut down, nothing stops the machine. -/
theorem exists_checkedPerform (wide : 0x10000 ≤ words.limit) (wraps : words.wraps = true)
    (h : leds.WellFormed) (turn : leds.nextBank < max leds.banks 1) (step : LedStep) :
    ∃ answer, leds.checkedPerform words step = .ok (answer, (leds.perform step).2) := by
  by_cases numbered : step.Numbered words.limit leds
  · exact ⟨_, checkedPerform_eq wide h turn numbered⟩
  -- only the two that write number places
  cases step with
  | writeBank bank out =>
    obtain ⟨written, goes, -⟩ := exists_checkedWriteBank wide wraps h bank out
    exact ⟨_, by rw [checkedPerform, goes]; rfl⟩
  | assemble profile dimming bank older =>
    obtain ⟨built, goes⟩ := exists_checkedAssemble wide wraps h profile dimming bank older
    exact ⟨_, by rw [checkedPerform, goes]; rfl⟩
  | _ => exact absurd trivial numbered

/-- **There is one reason for a machine to stop.** -/
theorem checkedPerform_error (wide : 0x10000 ≤ words.limit) (h : leds.WellFormed)
    (turn : leds.nextBank < max leds.banks 1) {step : LedStep} {trap : Trap}
    (failed : leds.checkedPerform words step = .error trap) :
    trap = .overflow ∧ words.wraps = false ∧ ¬step.Numbered words.limit leds := by
  have large : ¬step.Numbered words.limit leds := by
    intro numbered
    cases (checkedPerform_eq wide h turn numbered).symm.trans failed
  cases narrow : words.wraps with
  | true =>
    obtain ⟨answer, goes⟩ := exists_checkedPerform wide narrow h turn step
    cases goes.symm.trans failed
  | false =>
    have overflow := (checkedPerform_stops wide narrow h large).symm.trans failed
    exact ⟨(Except.error.inj overflow).symm, rfl, large⟩

end LedBuffer

end SplitBoard

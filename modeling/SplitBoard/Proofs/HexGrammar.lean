import SplitBoard.Proofs.EncodedText
import SplitBoard.Proofs.HexRecords
import Mathlib.Data.List.Basic
import Mathlib.Data.List.Induction

/-!
# What a record file may look like

A grammar for the lines of a record file, stated without the reader: blanks, or a
colon and characters that spell the bytes of a record two by two (`RightLine`).
Lines behind the record that ends the file are not looked at (`Readable`).

The reader takes a pair of characters for a numeral, so **a plus sign may stand in
for the first digit of a pair** (`NumeralPair`), and a file that the strict grammar
refuses may be accepted (`parse_signed`).  With such pairs the grammar is exactly
what the reader accepts, as long as no data follow data that reach the end of the
addresses (`parse_outcome`).
-/

namespace SplitBoard.Text

/-! ## Pairs of characters -/

/-- Characters that spell bytes, one after the other, in pairs of a given kind. -/
inductive Spells (pair : Char → Char → UInt8 → Prop) : List Char → List UInt8 → Prop where
  | nil : Spells pair [] []
  | cons {a b : Char} {byte : UInt8} {text : List Char} {bytes : List UInt8}
      (first : pair a b byte) (rest : Spells pair text bytes) :
      Spells pair (a :: b :: text) (byte :: bytes)

/-- Two hexadecimal digits, the high one first. -/
def DigitPair (a b : Char) (byte : UInt8) : Prop :=
  ∃ high low, digitValue? a = some high ∧ digitValue? b = some low ∧
    byte = UInt8.ofNat (16 * high + low)

/-- Two digits, or a plus sign in front of one. -/
def NumeralPair (a b : Char) (byte : UInt8) : Prop :=
  DigitPair a b byte ∨ a = '+' ∧ ∃ low, digitValue? b = some low ∧ byte = UInt8.ofNat low

section Pairs
variable {a b c : Char} {byte : UInt8} {text : List Char} {bytes : List UInt8}

theorem digitValue?_bounds {n : Nat} (h : digitValue? c = some n) : n < 16 ∧ c.toNat < 128 := by
  unfold digitValue? at h
  have zero : '0'.toNat = 48 := rfl
  have a : 'a'.toNat = 97 := rfl
  have capital : 'A'.toNat = 65 := rfl
  split at h
  · next inside =>
    have upper : c.toNat ≤ 57 := inside.2
    have value := Option.some.inj h
    omega
  split at h
  · next inside =>
    have upper : c.toNat ≤ 102 := inside.2
    have value := Option.some.inj h
    omega
  split at h
  · next inside =>
    have upper : c.toNat ≤ 70 := inside.2
    have value := Option.some.inj h
    omega
  · cases h

theorem digitIn?_sixteen (c : Char) : digitIn? 16 c = digitValue? c := by
  unfold digitIn?
  rcases value : digitValue? c with _ | n
  · rfl
  · exact Option.filter_eq_some_iff.mpr ⟨rfl, decide_eq_true (digitValue?_bounds value).1⟩

/-- A numeral of two characters is a pair. -/
theorem numeral?_pair_iff :
    (∃ n, numeral? 16 [a, b] = some n ∧ UInt8.ofNat n = byte) ↔ NumeralPair a b byte := by
  have noDigit : digitValue? '+' = none := by decide
  by_cases plus : a = '+'
  · subst plus
    -- the sign has no value of its own
    have value : numeral? 16 ['+', b] = digitValue? b := by
      change digits? 16 0 [b] = _
      rw [digits?, digitIn?_sixteen]
      cases digitValue? b <;> simp [digits?]
    rw [value]
    constructor
    · rintro ⟨n, low, rfl⟩
      exact .inr ⟨rfl, n, low, rfl⟩
    · rintro (⟨high, _, none, -⟩ | ⟨-, low, value, rfl⟩)
      · cases noDigit.symm.trans none
      · exact ⟨low, value, rfl⟩
  · have value : numeral? 16 [a, b] = (digitValue? a).bind fun high =>
        (digitValue? b).map fun low => 16 * high + low := by
      rw [show numeral? 16 [a, b] = digits? 16 0 [a, b] by simp [numeral?, plus]]
      simp only [digits?, digitIn?_sixteen]
      cases digitValue? a <;> cases digitValue? b <;> simp [Nat.mul_comm]
    rw [value]
    constructor
    · rintro ⟨n, both, rfl⟩
      obtain ⟨high, first, mapped⟩ := Option.bind_eq_some_iff.mp both
      obtain ⟨low, second, rfl⟩ := Option.map_eq_some_iff.mp mapped
      exact .inl ⟨high, low, first, second, rfl⟩
    · rintro (⟨high, low, first, second, rfl⟩ | ⟨sign, -⟩)
      · exact ⟨_, by rw [first, second]; rfl, rfl⟩
      · exact absurd sign plus

theorem NumeralPair.ascii (h : NumeralPair a b byte) : a.toNat < 128 ∧ b.toNat < 128 := by
  rcases h with ⟨high, low, first, second, -⟩ | ⟨rfl, low, second, -⟩
  · exact ⟨(digitValue?_bounds first).2, (digitValue?_bounds second).2⟩
  · exact ⟨by decide, (digitValue?_bounds second).2⟩

/-- Only ASCII characters spell anything. -/
theorem Spells.ascii (h : Spells NumeralPair text bytes) : ∀ c ∈ text, c.toNat < 128 := by
  induction h with
  | nil => exact nofun
  | cons first _ ih =>
    exact List.forall_mem_cons.mpr ⟨first.ascii.1, List.forall_mem_cons.mpr ⟨first.ascii.2, ih⟩⟩

theorem Spells.mono {pair pair' : Char → Char → UInt8 → Prop}
    (imp : ∀ a b byte, a ∈ text → pair a b byte → pair' a b byte) (h : Spells pair text bytes) :
    Spells pair' text bytes := by
  induction h with
  | nil => exact .nil
  | cons first _ ih =>
    refine .cons (imp _ _ _ List.mem_cons_self first) (ih fun a b byte member => ?_)
    exact imp a b byte (List.mem_cons_of_mem _ (List.mem_cons_of_mem _ member))

/-- Without a plus sign it is digits that spell. -/
theorem spells_digits_iff (unsigned : '+' ∉ text) :
    Spells NumeralPair text bytes ↔ Spells DigitPair text bytes := by
  constructor
  · refine Spells.mono fun a b byte member numeral => numeral.resolve_right ?_
    rintro ⟨rfl, -⟩
    exact unsigned member
  · exact Spells.mono fun _ _ _ _ digits => .inl digits

/-! ## Characters and their bytes -/

/-- The character that a byte is by itself. -/
def byteChar (byte : UInt8) : Char :=
  Char.ofNat byte.toNat

theorem toNat_byteChar (byte : UInt8) : (byteChar byte).toNat = byte.toNat := by
  have bound : byte.toNat < 256 := byte.toNat_lt
  have valid : byte.toNat.isValidChar := Or.inl (by omega)
  rw [byteChar, Char.ofNat, dif_pos valid]
  rfl

/-- An ASCII character is its own byte. -/
theorem map_byteChar_utf8EncodeChar (ascii : c.toNat < 128) :
    (String.utf8EncodeChar c).map byteChar = [c] := by
  have small : c.val.toNat ≤ 127 := Nat.le_of_lt_succ ascii
  have back : (UInt8.ofNat c.val.toNat).toNat = c.val.toNat := Utf8.toNat_byte (by omega)
  rw [String.utf8EncodeChar, if_pos small, List.map_singleton, byteChar, back]
  exact congrArg (fun c => [c]) (Char.ofNat_toNat c)

/-- Any other character has a byte that is not ASCII. -/
theorem exists_mem_utf8EncodeChar (notAscii : ¬c.toNat < 128) :
    ∃ byte ∈ String.utf8EncodeChar c, ¬(byteChar byte).toNat < 128 := by
  have large : ¬c.val.toNat ≤ 127 := fun small => notAscii (Nat.lt_succ_of_le small)
  have high : ∀ n, 128 ≤ n → n < 256 → ¬(byteChar (UInt8.ofNat n)).toNat < 128 := by
    intro n low bound
    rw [toNat_byteChar, Utf8.toNat_byte bound]
    omega
  unfold String.utf8EncodeChar
  rw [if_neg large]
  -- the lead byte says how many bytes there are, above the ASCII range
  split
  · exact ⟨_, List.mem_cons_self, high _ (by omega) (by omega)⟩
  split
  · exact ⟨_, List.mem_cons_self, high _ (by omega) (by omega)⟩
  · exact ⟨_, List.mem_cons_self, high _ (by omega) (by omega)⟩

theorem map_byteChar_encodeUtf8 (ascii : ∀ c ∈ text, c.toNat < 128) :
    (encodeUtf8 text).map byteChar = text := by
  rw [encodeUtf8_eq]
  induction text with
  | nil => rfl
  | cons c rest ih =>
    obtain ⟨here, others⟩ := List.forall_mem_cons.mp ascii
    rw [List.flatMap_cons, List.map_append, map_byteChar_utf8EncodeChar here, ih others]
    rfl

/-- It does not matter whether the characters are looked at, or their bytes. -/
theorem spells_encodeUtf8_iff :
    Spells NumeralPair ((encodeUtf8 text).map byteChar) bytes ↔ Spells NumeralPair text bytes := by
  constructor
  · intro h
    have ascii : ∀ c ∈ text, c.toNat < 128 := by
      intro c member
      by_contra notAscii
      obtain ⟨byte, inside, high⟩ := exists_mem_utf8EncodeChar notAscii
      refine high (h.ascii _ (List.mem_map_of_mem ?_))
      rw [encodeUtf8_eq]
      exact List.mem_flatMap.mpr ⟨c, member, inside⟩
    rwa [map_byteChar_encodeUtf8 ascii] at h
  · intro h
    rwa [map_byteChar_encodeUtf8 h.ascii]

end Pairs

/-! ## Characters of a line -/

section Members
variable {c : Char} {line begun text : List Char}

theorem mem_of_mem_trim (member : c ∈ trim line) : c ∈ line := by
  have inner := List.dropWhile_subset _ (List.mem_reverse.mp member)
  exact List.dropWhile_subset _ (List.mem_reverse.mp inner)

theorem mem_of_mem_linesFrom (isLine : line ∈ linesFrom begun text) (member : c ∈ line) :
    c ∈ begun ∨ c ∈ text := by
  induction text generalizing begun with
  | nil =>
    rw [List.mem_singleton.mp isLine, List.mem_reverse] at member
    exact .inl member
  | cons d rest ih =>
    unfold linesFrom at isLine
    split at isLine
    · rcases List.mem_cons.mp isLine with rfl | later
      · exact .inl (List.mem_reverse.mp member)
      · exact .inr (List.mem_cons_of_mem d ((ih later).resolve_left List.not_mem_nil))
    · rcases ih isLine with first | second
      · rcases List.mem_cons.mp first with rfl | before
        · exact .inr List.mem_cons_self
        · exact .inl before
      · exact .inr (List.mem_cons_of_mem d second)

theorem mem_of_mem_lines (isLine : line ∈ lines text) (member : c ∈ line) : c ∈ text :=
  (mem_of_mem_linesFrom isLine member).resolve_left List.not_mem_nil

end Members

end SplitBoard.Text

namespace SplitBoard.IntelHex

open Text

/-! ## Bytes of a record -/

/-- The bytes of a right record: the number of data bytes, an address of two bytes, a type, the data
and a byte that makes the sum a multiple of 256. -/
structure RightBytes (bytes : List UInt8) : Prop where
  length : 5 ≤ bytes.length
  count : (bytes.getD 0 0).toNat = bytes.length - 5
  sum : (bytes.map UInt8.toNat).sum % 256 = 0
  type : (bytes.getD 3 0).toNat ≤ 5
  /-- A base has two bytes. -/
  base : bytes.getD 3 0 = 2 ∨ bytes.getD 3 0 = 4 → bytes.length - 5 = 2

section Bytes
variable {characters : List Char} {bytes decoded : List UInt8} {record : Record}

theorem pairs_cons_eq_ok_iff {a b byte : UInt8} {position : Nat} :
    pairs position (a :: b :: bytes) = .ok (byte :: decoded) ↔
      NumeralPair (byteChar a) (byteChar b) byte ∧ pairs (position + 2) bytes = .ok decoded := by
  rw [pairs, ← numeral?_pair_iff]
  have value : numeral? 16 [Char.ofNat a.toNat, Char.ofNat b.toNat] =
      numeral? 16 [byteChar a, byteChar b] := rfl
  rw [value]
  rcases numeral? 16 [byteChar a, byteChar b] with _ | n
  · constructor
    · intro read
      cases read
    · rintro ⟨⟨n, none, -⟩, -⟩
      cases none
  · rcases pairs (position + 2) bytes with fault | others
    · constructor
      · intro read
        cases read
      · rintro ⟨-, read⟩
        cases read
    · constructor
      · intro read
        obtain ⟨here, rest⟩ := List.cons.inj (Except.ok.inj read)
        exact ⟨⟨n, rfl, here⟩, congrArg Except.ok rest⟩
      · rintro ⟨⟨_, ⟨⟩, rfl⟩, ⟨⟩⟩
        rfl

/-- The pairs of an even number of bytes are what they spell. -/
theorem pairs_eq_ok_iff {position : Nat} :
    (bytes.length % 2 = 0 ∧ pairs position bytes = .ok decoded) ↔
      Spells NumeralPair (bytes.map byteChar) decoded := by
  induction bytes using List.twoStepInduction generalizing position decoded with
  | nil =>
    constructor
    · rintro ⟨-, ⟨⟩⟩
      exact .nil
    · rintro ⟨⟩
      exact ⟨rfl, rfl⟩
  | singleton byte =>
    constructor
    · rintro ⟨odd, -⟩
      cases odd
    · rintro ⟨⟩
  | cons_cons a b rest ih =>
    have even : (a :: b :: rest).length % 2 = 0 ↔ rest.length % 2 = 0 := by
      simp only [List.length_cons]
      omega
    rw [even]
    constructor
    · rintro ⟨even, read⟩
      rcases decoded with _ | ⟨byte, decoded⟩
      · -- two characters never spell nothing
        rw [pairs] at read
        split at read
        · rcases more : pairs (position + 2) rest with fault | others
          · rw [more] at read
            cases read
          · rw [more] at read
            cases read
        · cases read
      · obtain ⟨first, later⟩ := pairs_cons_eq_ok_iff.mp read
        exact .cons first (ih.mp ⟨even, later⟩)
    · rintro (_ | ⟨first, later⟩)
      obtain ⟨even, read⟩ := ih.mpr later
      exact ⟨even, pairs_cons_eq_ok_iff.mpr ⟨first, read⟩⟩

/-- The characters behind the colon are read as what they spell. -/
theorem recordBytes_eq_ok_iff :
    recordBytes characters = .ok bytes ↔ Spells NumeralPair characters bytes := by
  rw [← spells_encodeUtf8_iff, ← @pairs_eq_ok_iff _ _ 0, recordBytes]
  split
  · next even => exact (and_iff_right even).symm
  · next odd => exact ⟨nofun, fun read => absurd read.1 odd⟩

theorem toNat_byteSum (bytes : List UInt8) :
    (byteSum bytes).toNat = (bytes.map UInt8.toNat).sum % 256 := by
  induction bytes with
  | nil => rfl
  | cons byte rest ih =>
    rw [byteSum, UInt8.toNat_add, ih, List.map_cons, List.sum_cons]
    omega

theorem byteSum_eq_zero_iff : byteSum bytes = 0 ↔ (bytes.map UInt8.toNat).sum % 256 = 0 := by
  rw [← toNat_byteSum]
  exact UInt8.toNat_inj.symm

/-- A type has a record of its own, with two bytes of data if it is a base. -/
theorem ofParts_ok_iff {type : UInt8} {address : UInt16} {data : List UInt8} :
    (∃ record, Record.ofParts type address data = .ok record) ↔
      type.toNat ≤ 5 ∧ (type = 2 ∨ type = 4 → data.length = 2) := by
  have known : ∀ n : UInt8, type = n ↔ type.toNat = n.toNat := fun n => UInt8.toNat_inj.symm
  rw [known 2, known 4, show (2 : UInt8).toNat = 2 from rfl, show (4 : UInt8).toNat = 4 from rfl]
  unfold Record.ofParts
  split
  case h_3 code | h_4 code =>
    -- a base is two bytes long
    rw [code]
    constructor
    · rintro ⟨record, read⟩
      split at read
      · exact ⟨by decide, fun _ => rfl⟩
      · cases read
    · rintro ⟨-, length⟩
      obtain ⟨high, low, rfl⟩ := List.length_eq_two.mp (length (by decide))
      exact ⟨_, rfl⟩
  case h_1 code | h_2 code | h_5 code | h_6 code =>
    rw [code]
    exact ⟨fun _ => ⟨by decide, fun here => absurd here (by decide)⟩, fun _ => ⟨_, rfl⟩⟩
  case h_7 zero one two four three five =>
    constructor
    · rintro ⟨record, read⟩
      cases read
    · rintro ⟨small, -⟩
      exfalso
      simp only [imp_false] at zero one two three four five
      omega

theorem ofParts_eq_endOfFile_iff {type : UInt8} {address : UInt16} {data : List UInt8} :
    Record.ofParts type address data = .ok .endOfFile ↔ type = 1 := by
  rw [← UInt8.toNat_inj, show (1 : UInt8).toNat = 1 from rfl]
  unfold Record.ofParts
  split
  case h_2 code => exact ⟨fun _ => code, fun _ => rfl⟩
  case h_3 code | h_4 code =>
    rw [code]
    split <;> exact ⟨nofun, nofun⟩
  case h_1 code | h_5 code | h_6 code =>
    rw [code]
    exact ⟨nofun, nofun⟩
  case h_7 one _ _ _ _ => exact ⟨nofun, fun here => absurd here one⟩

/-- Right bytes are taken apart into what their record is made of. -/
theorem ofBytes_eq_ok_iff :
    Record.ofBytes bytes = .ok record ↔
      5 ≤ bytes.length ∧ (bytes.getD 0 0).toNat = bytes.length - 5 ∧
        (bytes.map UInt8.toNat).sum % 256 = 0 ∧
        Record.ofParts (bytes.getD 3 0) (bigEndian (bytes.getD 1 0) (bytes.getD 2 0))
          (bytes.drop 4).dropLast = .ok record := by
  rcases bytes with _ | ⟨count, _ | ⟨high, _ | ⟨low, _ | ⟨type, rest⟩⟩⟩⟩
  case cons.cons.cons.cons =>
    rw [← byteSum_eq_zero_iff]
    simp only [Record.ofBytes, List.length_cons, List.getD_cons_zero, List.getD_cons_succ,
      List.drop_succ_cons, List.drop_zero]
    by_cases short : rest = []
    · rw [if_pos short, short]
      exact ⟨nofun, fun long => absurd long.1 (by decide)⟩
    have long : 1 ≤ rest.length := List.length_pos_iff.mpr short
    rw [if_neg short]
    by_cases count_eq : rest.length = count.toNat + 1
    · rw [if_neg (not_not.mpr count_eq)]
      by_cases sum : byteSum (count :: high :: low :: type :: rest) = 0
      · rw [if_neg (not_not.mpr sum)]
        exact ⟨fun read => ⟨by omega, by omega, sum, read⟩, fun read => read.2.2.2⟩
      · rw [if_pos sum]
        exact ⟨nofun, fun read => absurd read.2.2.1 sum⟩
    · rw [if_pos count_eq]
      exact ⟨nofun, fun read => absurd read.2.1 (by omega)⟩
  all_goals exact ⟨nofun, fun long => absurd long.1 (by simp)⟩

theorem ofBytes_ok_iff : (∃ record, Record.ofBytes bytes = .ok record) ↔ RightBytes bytes := by
  have data : (bytes.drop 4).dropLast.length = bytes.length - 5 := by
    rw [List.length_dropLast, List.length_drop]
    omega
  simp only [ofBytes_eq_ok_iff, exists_and_left, ofParts_ok_iff, data]
  constructor
  · rintro ⟨length, count, sum, type, base⟩
    exact ⟨length, count, sum, type, base⟩
  · rintro ⟨length, count, sum, type, base⟩
    exact ⟨length, count, sum, type, base⟩

theorem ofBytes_eq_endOfFile_iff :
    Record.ofBytes bytes = .ok .endOfFile ↔ RightBytes bytes ∧ bytes.getD 3 0 = 1 := by
  constructor
  · intro read
    have parts := ofBytes_eq_ok_iff.mp read
    exact ⟨ofBytes_ok_iff.mp ⟨_, read⟩, ofParts_eq_endOfFile_iff.mp parts.2.2.2⟩
  · rintro ⟨right, last⟩
    exact ofBytes_eq_ok_iff.mpr
      ⟨right.length, right.count, right.sum, ofParts_eq_endOfFile_iff.mpr last⟩

end Bytes

/-! ## Lines -/

/-- Without its blanks the line is a colon and characters that spell the bytes of a record. -/
def SpellsRecord (pair : Char → Char → UInt8 → Prop) (line : List Char) (bytes : List UInt8) :
    Prop :=
  ∃ text, trim line = ':' :: text ∧ Spells pair text bytes ∧ RightBytes bytes

/-- The line is blank or has a record. -/
def RightLine (pair : Char → Char → UInt8 → Prop) (line : List Char) : Prop :=
  trim line = [] ∨ ∃ bytes, SpellsRecord pair line bytes

/-- The line has the record that ends a file. -/
def EndsFile (pair : Char → Char → UInt8 → Prop) (line : List Char) : Prop :=
  ∃ bytes, SpellsRecord pair line bytes ∧ bytes.getD 3 0 = 1

/-- Every line is right, up to and with the first one that ends the file. -/
def Readable (pair : Char → Char → UInt8 → Prop) (lines : List (List Char)) : Prop :=
  ∀ before line after, lines = before ++ line :: after →
    (∀ earlier ∈ before, ¬EndsFile pair earlier) →
    RightLine pair line

section Lines
variable {pair : Char → Char → UInt8 → Prop} {line : List Char} {rest : List (List Char)}

theorem readable_nil : Readable pair [] := by
  intro before line after split
  cases List.append_ne_nil_of_right_ne_nil before (List.cons_ne_nil line after) split.symm

theorem readable_cons_iff :
    Readable pair (line :: rest) ↔
      RightLine pair line ∧ (EndsFile pair line ∨ Readable pair rest) := by
  constructor
  · intro readable
    refine ⟨readable [] line rest rfl nofun, ?_⟩
    by_cases ends : EndsFile pair line
    · exact .inl ends
    · right
      intro before line' after split quiet
      exact readable (line :: before) line' after (congrArg (line :: ·) split)
        (List.forall_mem_cons.mpr ⟨ends, quiet⟩)
  · rintro ⟨right, later⟩ before line' after split quiet
    rcases before with _ | ⟨first, before⟩
    · obtain ⟨rfl, -⟩ := List.cons.inj split
      exact right
    · obtain ⟨rfl, behind⟩ := List.cons.inj split
      obtain ⟨here, quiet⟩ := List.forall_mem_cons.mp quiet
      exact later.resolve_left here before line' after behind quiet

/-- Without a plus sign the pairs of a line are digits. -/
theorem spellsRecord_digits_iff {bytes : List UInt8} (unsigned : '+' ∉ line) :
    SpellsRecord NumeralPair line bytes ↔ SpellsRecord DigitPair line bytes := by
  have spells : ∀ text, trim line = ':' :: text →
      (Spells NumeralPair text bytes ↔ Spells DigitPair text bytes) := by
    intro text colon
    refine spells_digits_iff fun sign => unsigned (mem_of_mem_trim ?_)
    rw [colon]
    exact List.mem_cons_of_mem _ sign
  constructor
  · rintro ⟨text, colon, spelt, right⟩
    exact ⟨text, colon, (spells text colon).mp spelt, right⟩
  · rintro ⟨text, colon, spelt, right⟩
    exact ⟨text, colon, (spells text colon).mpr spelt, right⟩

theorem readable_digits_iff {lines : List (List Char)} (unsigned : ∀ line ∈ lines, '+' ∉ line) :
    Readable NumeralPair lines ↔ Readable DigitPair lines := by
  induction lines with
  | nil => exact iff_of_true readable_nil readable_nil
  | cons line rest ih =>
    obtain ⟨here, later⟩ := List.forall_mem_cons.mp unsigned
    rw [readable_cons_iff, readable_cons_iff, ih later]
    simp only [RightLine, EndsFile, spellsRecord_digits_iff here]

/-- The record of a line is that of the bytes that it spells. -/
theorem parse_trim_eq_ok_iff {record : Record} :
    Record.parse (trim line) = .ok record ↔
      ∃ text bytes, trim line = ':' :: text ∧ Spells NumeralPair text bytes ∧
        Record.ofBytes bytes = .ok record := by
  constructor
  · intro read
    unfold Record.parse at read
    split at read
    · next text colon =>
      rcases spelt : recordBytes text with fault | bytes
      · rw [spelt] at read
        cases read
      · rw [spelt] at read
        exact ⟨text, bytes, colon, recordBytes_eq_ok_iff.mp spelt, read⟩
    · cases read
  · rintro ⟨text, bytes, colon, spelt, read⟩
    rw [colon, Record.parse, recordBytes_eq_ok_iff.mpr spelt]
    exact read

theorem parse_trim_ok_iff :
    (∃ record, Record.parse (trim line) = .ok record) ↔
      ∃ bytes, SpellsRecord NumeralPair line bytes := by
  simp only [parse_trim_eq_ok_iff, SpellsRecord, ← ofBytes_ok_iff]
  constructor
  · rintro ⟨record, text, bytes, colon, spelt, read⟩
    exact ⟨bytes, text, colon, spelt, record, read⟩
  · rintro ⟨bytes, text, colon, spelt, record, read⟩
    exact ⟨record, text, bytes, colon, spelt, read⟩

theorem parse_trim_eq_endOfFile_iff :
    Record.parse (trim line) = .ok .endOfFile ↔ EndsFile NumeralPair line := by
  simp only [parse_trim_eq_ok_iff, ofBytes_eq_endOfFile_iff, EndsFile, SpellsRecord]
  constructor
  · rintro ⟨text, bytes, colon, spelt, right, last⟩
    exact ⟨bytes, ⟨text, colon, spelt, right⟩, last⟩
  · rintro ⟨bytes, ⟨text, colon, spelt, right⟩, last⟩
    exact ⟨text, bytes, colon, spelt, right, last⟩

theorem EndsFile.right (h : EndsFile pair line) : RightLine pair line := by
  obtain ⟨bytes, spelt, -⟩ := h
  exact .inr ⟨bytes, spelt⟩

/-- A blank line is passed over. -/
theorem readable_blank_iff (blank : trim line = []) :
    Readable pair (line :: rest) ↔ Readable pair rest := by
  have goesOn : ¬EndsFile pair line := by
    rintro ⟨_, ⟨_, colon, -⟩, -⟩
    cases blank.symm.trans colon
  rw [readable_cons_iff, or_iff_right goesOn]
  exact and_iff_right (.inl blank)

/-- So is a record, if it does not end the file. -/
theorem readable_record_iff {record : Record} (parsed : Record.parse (trim line) = .ok record)
    (more : record ≠ .endOfFile) :
    Readable NumeralPair (line :: rest) ↔ Readable NumeralPair rest := by
  have goesOn : ¬EndsFile NumeralPair line := fun ends =>
    more (Except.ok.inj (parsed.symm.trans (parse_trim_eq_endOfFile_iff.mpr ends)))
  rw [readable_cons_iff, or_iff_right goesOn]
  exact and_iff_right (.inr (parse_trim_ok_iff.mp ⟨record, parsed⟩))

end Lines

/-! ## Reading -/

/-- Of runs of bytes that are loaded in turn, given by where they stop, only the last one may reach
the end of the addresses. -/
def Roomy (stops : List Nat) : Prop :=
  ∀ stop ∈ stops.dropLast, stop < addressLimit

theorem roomy_cons_cons_iff {stop next : Nat} {stops : List Nat} :
    Roomy (stop :: next :: stops) ↔ stop < addressLimit ∧ Roomy (next :: stops) := by
  rw [Roomy, List.dropLast_cons_cons, List.forall_mem_cons, ← Roomy]

namespace Reading

variable {reading : Reading} {number : Nat} {lines : List (List Char)}

/-- Where the run that was read last stops. -/
def lastStop (reading : Reading) : List Nat :=
  reading.segments.head?.toList.map Segment.stop

/-- Where that run stops, and those that lines load behind it. -/
def stops (reading : Reading) (lines : List (List Char)) : List Nat :=
  reading.lastStop ++ (loadsFrom reading.base (recordsOn lines)).map Segment.stop

theorem roomy_lastStop (reading : Reading) : Roomy (reading.lastStop ++ []) := by
  unfold lastStop
  cases reading.segments.head? <;> exact nofun

/-- Data find room unless those before them reach the end of the addresses. -/
theorem place_cases (reading : Reading) (address : UInt16) (bytes : List UInt8) (stops : List Nat) :
    (∃ next, reading.place address bytes = .ok next ∧ next.base = reading.base ∧
        (Roomy (reading.lastStop ++ (reading.base + address.toNat + bytes.length) :: stops) ↔
          Roomy (next.lastStop ++ stops))) ∨
      reading.place address bytes = .error .addressOverflow ∧
        ¬Roomy (reading.lastStop ++ (reading.base + address.toNat + bytes.length) :: stops) := by
  obtain ⟨base, segments⟩ := reading
  rcases segments with _ | ⟨last, earlier⟩
  · exact .inl ⟨_, rfl, rfl, Iff.rfl⟩
  change _ ∨ _ ∧ ¬Roomy (last.stop :: _ :: stops)
  rw [roomy_cons_cons_iff, place]
  dsimp only
  rcases stops? : last.stop? with _ | stop
  · -- there is no address behind the run that was read last
    refine .inr ⟨rfl, fun room => ?_⟩
    cases stops?.symm.trans (Segment.stop?_eq_some_iff.mpr ⟨rfl, room.1⟩)
  · obtain ⟨rfl, inside⟩ := Segment.stop?_eq_some_iff.mp stops?
    change (∃ next, _ ∧ _ ∧ (Roomy (last.stop :: _ :: stops) ↔ _)) ∨ _
    rw [roomy_cons_cons_iff, and_iff_right inside]
    left
    dsimp only
    split
    · next here =>
      have stop : Segment.stop ⟨last.address, last.data ++ bytes⟩ = last.stop + bytes.length := by
        simp [Segment.stop, Segment.append_list, Nat.add_assoc]
      refine ⟨_, rfl, rfl, ?_⟩
      rw [here, ← stop]
      rfl
    · exact ⟨_, rfl, rfl, Iff.rfl⟩

/-- A record that does not end the file is taken in, unless there is no room for it. -/
theorem take_cases (reading : Reading) (record : Record) (stops : List Nat) :
    let load := (record.load? reading.base).toList.map Segment.stop
    (∃ next, reading.take record = .ok next ∧ next.base = record.baseAfter reading.base ∧
        (Roomy (reading.lastStop ++ (load ++ stops)) ↔ Roomy (next.lastStop ++ stops))) ∨
      reading.take record = .error .addressOverflow ∧
        ¬Roomy (reading.lastStop ++ (load ++ stops)) := by
  cases record with
  | data address bytes => exact reading.place_cases address bytes stops
  | segmentBase paragraph | linearBase page | startAddress | endOfFile =>
    exact .inl ⟨_, rfl, rfl, Iff.rfl⟩

section Lines
variable {line : List Char} {rest : List (List Char)} (reading : Reading) (number : Nat)

theorem takeLines_blank (blank : trim line = []) :
    reading.takeLines number (line :: rest) = reading.takeLines (number + 1) rest := by
  simp only [takeLines, blank]

theorem takeLines_fault {fault : LineFault} (full : trim line ≠ [])
    (parsed : Record.parse (trim line) = .error fault) :
    reading.takeLines number (line :: rest) = .error (.line number fault) := by
  simp only [takeLines, parsed]

theorem takeLines_last (parsed : Record.parse (trim line) = .ok .endOfFile) :
    reading.takeLines number (line :: rest) = .ok reading := by
  have full : trim line ≠ [] := fun blank => nomatch blank ▸ parsed
  simp only [takeLines, parsed]

theorem takeLines_record {record : Record} (parsed : Record.parse (trim line) = .ok record)
    (more : record ≠ .endOfFile) :
    reading.takeLines number (line :: rest) =
      reading.take record >>= fun next => next.takeLines (number + 1) rest := by
  have full : trim line ≠ [] := fun blank => nomatch blank ▸ parsed
  simp only [takeLines, parsed]

end Lines

/-- **Lines are read as far as they go**: to the end if they are right and there is room for what
they load; otherwise either a line is at fault or there is no room. -/
theorem takeLines_outcome (reading : Reading) (number : Nat) (lines : List (List Char)) :
    (∃ next, reading.takeLines number lines = .ok next) ∧ Readable NumeralPair lines ∧
        Roomy (reading.stops lines) ∨
      (∃ line fault, reading.takeLines number lines = .error (.line line fault)) ∧
        ¬Readable NumeralPair lines ∨
      reading.takeLines number lines = .error .addressOverflow ∧ ¬Roomy (reading.stops lines) := by
  induction lines generalizing reading number with
  | nil => exact .inl ⟨⟨reading, rfl⟩, readable_nil, roomy_lastStop reading⟩
  | cons line rest ih =>
    by_cases blank : trim line = []
    · rw [takeLines_blank reading number blank, readable_blank_iff blank, stops,
        recordsOn_blank blank]
      exact ih reading (number + 1)
    rcases parsed : Record.parse (trim line) with fault | record
    · -- a line that is not blank needs a record
      rw [takeLines_fault reading number blank parsed]
      refine .inr (.inl ⟨⟨number, fault, rfl⟩, fun readable => ?_⟩)
      obtain ⟨record, right⟩ :=
        parse_trim_ok_iff.mpr ((readable_cons_iff.mp readable).1.resolve_left blank)
      cases parsed.symm.trans right
    by_cases last : record = .endOfFile
    · subst last
      have ends : EndsFile NumeralPair line := parse_trim_eq_endOfFile_iff.mp parsed
      rw [takeLines_last reading number parsed, stops, recordsOn_cons blank parsed, if_pos rfl]
      exact .inl ⟨⟨reading, rfl⟩, readable_cons_iff.mpr ⟨ends.right, .inl ends⟩,
        roomy_lastStop reading⟩
    · rw [takeLines_record reading number parsed last, readable_record_iff parsed last, stops,
        recordsOn_cons blank parsed, if_neg last, loadsFrom, List.map_append]
      rcases reading.take_cases record ((loadsFrom (record.baseAfter reading.base)
        (recordsOn rest)).map Segment.stop) with ⟨next, taken, base, room⟩ | ⟨full, noRoom⟩
      · rw [taken, room, ← base]
        exact ih next (number + 1)
      · rw [full]
        exact .inr (.inr ⟨rfl, noRoom⟩)

end Reading

/-- **A file is accepted exactly if its lines are right, up to and with the first one that ends it,
and no data follow data that reach the end of the addresses.**  It is refused because of one or the
other.  Where there is no plus sign, a line is right only if its pairs are digits. -/
theorem parse_outcome (text : List Char) :
    ((∃ segments, parse text = .ok segments) ↔
      Readable NumeralPair (lines text) ∧ Roomy ((loads text).map Segment.stop)) ∧
    (∀ fault, parse text = .error fault →
      (∃ number cause, fault = .line number cause) ∧ ¬Readable NumeralPair (lines text) ∨
        fault = .addressOverflow ∧ ¬Roomy ((loads text).map Segment.stop)) ∧
    ('+' ∈ text ∨ (Readable NumeralPair (lines text) ↔ Readable DigitPair (lines text))) := by
  rw [← and_assoc]
  refine ⟨?_, or_iff_not_imp_left.mpr fun unsigned => readable_digits_iff fun line isLine sign =>
    unsigned (mem_of_mem_lines isLine sign)⟩
  have read : parse text = (Reading.takeLines {} 1 (lines text)).map (·.segments.reverse) := by
    unfold parse
    cases Reading.takeLines {} 1 (lines text) <;> rfl
  rw [read]
  rcases Reading.takeLines_outcome {} 1 (lines text) with
    ⟨⟨next, taken⟩, right, room⟩ | ⟨⟨number, cause, taken⟩, wrong⟩ | ⟨taken, noRoom⟩
  · rw [taken]
    exact ⟨⟨fun _ => ⟨right, room⟩, fun _ => ⟨_, rfl⟩⟩, nofun⟩
  · rw [taken]
    refine ⟨iff_of_false (fun accepted => ?_) fun both => wrong both.1, ?_⟩
    · cases accepted.choose_spec
    rintro fault ⟨⟩
    exact .inl ⟨⟨number, cause, rfl⟩, wrong⟩
  · rw [taken]
    refine ⟨iff_of_false (fun accepted => ?_) fun both => noRoom both.2, ?_⟩
    · cases accepted.choose_spec
    rintro fault ⟨⟩
    exact .inr ⟨rfl, noRoom⟩

/-- A sign is no digit, and a record that has one is accepted all the same. -/
theorem parse_signed :
    ¬∀ text, (∃ segments, parse text = .ok segments) ↔ Readable DigitPair (lines text) := by
  intro h
  have accepted : parse ":+0000001FF".toList = .ok [] := by decide +kernel
  have readable := (h _).mp ⟨_, accepted⟩
  rcases readable [] ":+0000001FF".toList [] (by decide +kernel) nofun with blank | ⟨bytes, spelt⟩
  · exact absurd blank (by decide +kernel)
  · obtain ⟨text, colon, spells, -⟩ := spelt
    obtain rfl : "+0000001FF".toList = text := by
      have trimmed : trim ":+0000001FF".toList = ':' :: "+0000001FF".toList := by decide +kernel
      exact (List.cons.inj (trimmed.symm.trans colon)).2
    rcases spells with _ | ⟨⟨high, low, sign, -⟩, -⟩
    cases sign.symm.trans (by decide : digitValue? '+' = none)

end SplitBoard.IntelHex

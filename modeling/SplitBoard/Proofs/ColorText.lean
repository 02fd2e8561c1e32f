import SplitBoard.Led.Color
import SplitBoard.Proofs.HexGrammar
import Mathlib.Data.String.Basic

/-!
# Colors in text

A color is written as six hexadecimal digits, behind a mark or without one
(`Written`).  The reader measures the text in bytes and takes it for a numeral.  A
character of a numeral takes one byte, so six bytes are six characters; but **a plus
sign may stand in for the first digit, and counts as zero** (`Signed`).  Nothing
else is accepted (`parse_spelt`).
-/

namespace SplitBoard

namespace Text

variable {value n : Nat} {text : List Char} {bytes : List UInt8}

/-! ## Numbers in pairs of digits -/

/-- The number that a row of bytes stands for, the highest first, going on from `value`. -/
def numberFrom (value : Nat) (bytes : List UInt8) : Nat :=
  bytes.foldl (fun value byte => value * 256 + byte.toNat) value

theorem digits?_of_spells (h : Spells DigitPair text bytes) :
    digits? 16 value text = some (numberFrom value bytes) := by
  induction h generalizing value with
  | nil => rfl
  | @cons a b byte text bytes first _ ih =>
    obtain ⟨high, low, ofHigh, ofLow, rfl⟩ := first
    have highBound := (digitValue?_bounds ofHigh).1
    have lowBound := (digitValue?_bounds ofLow).1
    have shifted : (value * 16 + high) * 16 + low =
        value * 256 + (UInt8.ofNat (16 * high + low)).toNat := by
      rw [UInt8.toNat_ofNat_of_lt' (show 16 * high + low < 256 by omega)]
      omega
    rw [digits?, digitIn?_sixteen, ofHigh, Option.bind_eq_bind, Option.bind_some, digits?,
      digitIn?_sixteen, ofLow, Option.bind_eq_bind, Option.bind_some, ih, shifted]
    rfl

/-- What stands for a number consists of digits. -/
theorem digits?_cons_eq_some {c : Char} (h : digits? 16 value (c :: text) = some n) :
    ∃ d, digitValue? c = some d ∧ digits? 16 (value * 16 + d) text = some n := by
  rw [digits?, digitIn?_sixteen] at h
  exact Option.bind_eq_some_iff.mp h

theorem ascii_of_digits? (h : digits? 16 value text = some n) : ∀ c ∈ text, c.toNat < 128 := by
  induction text generalizing value with
  | nil => exact nofun
  | cons c text ih =>
    obtain ⟨d, digit, rest⟩ := digits?_cons_eq_some h
    exact List.forall_mem_cons.mpr ⟨(digitValue?_bounds digit).2, ih rest⟩

/-- An even number of digits spells bytes.  The induction is on the number of pairs. -/
theorem exists_spells_of_digits? {pairs : Nat} (h : digits? 16 value text = some n)
    (even : text.length = 2 * pairs) :
    ∃ bytes, bytes.length = pairs ∧ Spells DigitPair text bytes := by
  induction pairs generalizing text value with
  | zero =>
    obtain rfl := List.length_eq_zero_iff.mp even
    exact ⟨[], rfl, .nil⟩
  | succ pairs ih =>
    obtain ⟨a, b, rest, rfl⟩ : ∃ a b rest, text = a :: b :: rest := by
      match text, even with
      | a :: b :: rest, _ => exact ⟨a, b, rest, rfl⟩
    obtain ⟨high, ofHigh, behind⟩ := digits?_cons_eq_some h
    obtain ⟨low, ofLow, behind⟩ := digits?_cons_eq_some behind
    have shorter : rest.length = 2 * pairs := by
      simp only [List.length_cons] at even
      omega
    obtain ⟨bytes, count, spells⟩ := ih behind shorter
    exact ⟨_ :: bytes, congrArg (· + 1) count, .cons ⟨high, low, ofHigh, ofLow, rfl⟩ spells⟩

theorem Spells.length_eq {pair : Char → Char → UInt8 → Prop} (h : Spells pair text bytes) :
    text.length = 2 * bytes.length := by
  induction h with
  | nil => rfl
  | cons _ _ ih =>
    simp only [List.length_cons]
    omega

/-- What spells bytes begins with a digit. -/
theorem Spells.head?_ne {c : Char} (noDigit : digitValue? c = none)
    (h : Spells DigitPair text bytes) : text.head? ≠ some c := by
  intro here
  cases h with
  | nil => cases here
  | cons first _ =>
    obtain ⟨high, _, digit, -⟩ := first
    cases here
    cases noDigit.symm.trans digit

/-- A plain character takes one byte. -/
theorem utf8Size_of_ascii {c : Char} (h : c.toNat < 128) : c.utf8Size = 1 :=
  Char.utf8Size_eq_one_iff.mpr (UInt32.le_iff_toNat_le.mpr (Nat.le_of_lt_succ h))

theorem utf8ByteSize_cons_ascii {c : Char} (plain : c.toNat < 128) (text : List Char) :
    (String.ofList (c :: text)).utf8ByteSize = (String.ofList text).utf8ByteSize + 1 := by
  rw [String.utf8ByteSize_ofList, String.utf8ByteSize_ofList, String.utf8Len_cons,
    utf8Size_of_ascii plain]

theorem utf8ByteSize_of_ascii (plain : ∀ c ∈ text, c.toNat < 128) :
    (String.ofList text).utf8ByteSize = text.length := by
  induction text with
  | nil => rfl
  | cons c text ih =>
    obtain ⟨here, rest⟩ := List.forall_mem_cons.mp plain
    rw [utf8ByteSize_cons_ascii here, ih rest, List.length_cons]

end Text

namespace Color

open Text

variable {text : String} {digits : List Char} {color : Color}

/-- Six hexadecimal digits, behind a mark or without one, two for each channel of the color. -/
def Written (text : String) (color : Color) : Prop :=
  ∃ digits, (text.toList = digits ∨ text.toList = '#' :: digits) ∧
    Spells DigitPair digits color.channels

/-- A plus sign in place of the first of six digits, where a zero would mean the color. -/
def Signed (text : String) (color : Color) : Prop :=
  ∃ digits, (text.toList = '+' :: digits ∨ text.toList = '#' :: '+' :: digits) ∧
    Spells DigitPair ('0' :: digits) color.channels

/-- What is behind the mark, if there is one. -/
def unmarked : List Char → List Char
  | '#' :: rest => rest
  | all => all

theorem parse_eq (text : String) :
    parse text =
      if (String.ofList (unmarked text.toList)).utf8ByteSize ≠ 6 then .error (.wrongLength text)
      else
        match numeral? 16 (unmarked text.toList) with
        | some n => .ok (ofNat n)
        | none => .error (.notNumeral text) := rfl

/-! ## Marks -/

theorem unmarked_of_ne (plain : digits.head? ≠ some '#') : unmarked digits = digits := by
  unfold unmarked
  split
  · exact absurd rfl plain
  · rfl

theorem unmarked_eq_iff (all : List Char) (plain : digits.head? ≠ some '#') :
    unmarked all = digits ↔ all = digits ∨ all = '#' :: digits := by
  constructor
  · intro same
    unfold unmarked at same
    split at same
    · exact .inr (congrArg _ same)
    · exact .inl same
  · rintro (rfl | rfl)
    · exact unmarked_of_ne plain
    · rfl

theorem written_iff : Written text color ↔
    Spells DigitPair (unmarked text.toList) color.channels := by
  constructor
  · rintro ⟨digits, spelt, spells⟩
    have plain : digits.head? ≠ some '#' := spells.head?_ne (by decide)
    rw [(unmarked_eq_iff text.toList plain).mpr spelt]
    exact spells
  · intro spells
    have plain : (unmarked text.toList).head? ≠ some '#' := spells.head?_ne (by decide)
    exact ⟨_, (unmarked_eq_iff text.toList plain).mp rfl, spells⟩

theorem signed_iff : Signed text color ↔
    ∃ digits, unmarked text.toList = '+' :: digits ∧
      Spells DigitPair ('0' :: digits) color.channels :=
  exists_congr fun digits => and_congr_left' (unmarked_eq_iff text.toList (by simp)).symm

/-! ## Six digits -/

/-- A number below 2^24 is a color, and the bytes of the number are its channels. -/
theorem ofNat_numberFrom (red green blue : UInt8) :
    ofNat (numberFrom 0 [red, green, blue]) = ⟨red, green, blue⟩ := by
  have high := red.toNat_lt
  have middle := green.toNat_lt
  have low := blue.toNat_lt
  have number : numberFrom 0 [red, green, blue] =
      (red.toNat * 256 + green.toNat) * 256 + blue.toNat := by
    simp [numberFrom]
  rw [number, ofNat]
  congr 1 <;> apply UInt8.toNat_inj.mp <;> simp only [UInt8.toNat_ofNat'] <;> omega

theorem spells_channels_iff (six : digits.length = 6) :
    (∃ n, digits? 16 0 digits = some n ∧ ofNat n = color) ↔
      Spells DigitPair digits color.channels := by
  constructor
  · rintro ⟨n, number, rfl⟩
    have even : digits.length = 2 * 3 := six
    obtain ⟨bytes, three, spells⟩ := exists_spells_of_digits? number even
    obtain ⟨red, green, blue, rfl⟩ := List.length_eq_three.mp three
    obtain rfl : n = numberFrom 0 [red, green, blue] :=
      Option.some.inj (number.symm.trans (digits?_of_spells spells))
    rw [ofNat_numberFrom]
    exact spells
  · intro spells
    exact ⟨_, digits?_of_spells spells, ofNat_numberFrom _ _ _⟩

/-- A zero in front changes no number. -/
theorem digits?_zero_cons (digits : List Char) :
    digits? 16 0 ('0' :: digits) = digits? 16 0 digits := rfl

/-- A numeral with a sign is the number behind it. -/
theorem numeral?_plus (filled : digits ≠ []) :
    numeral? 16 ('+' :: digits) = digits? 16 0 digits := by
  obtain ⟨c, rest, rfl⟩ := List.exists_cons_of_ne_nil filled
  rfl

theorem numeral?_unsigned (filled : digits ≠ []) (unsigned : digits.head? ≠ some '+') :
    numeral? 16 digits = digits? 16 0 digits := by
  obtain ⟨c, rest, rfl⟩ := List.exists_cons_of_ne_nil filled
  have other : c ≠ '+' := fun sign => unsigned (congrArg _ sign)
  simp [numeral?, other]

/-- Six bytes that stand for a number are six digits. -/
theorem sixDigits_iff :
    ((String.ofList digits).utf8ByteSize = 6 ∧
        ∃ n, digits? 16 0 digits = some n ∧ ofNat n = color) ↔
      Spells DigitPair digits color.channels := by
  constructor
  · rintro ⟨six, n, number, same⟩
    rw [utf8ByteSize_of_ascii (ascii_of_digits? number)] at six
    exact (spells_channels_iff six).mp ⟨n, number, same⟩
  · intro spells
    have six : digits.length = 6 := spells.length_eq
    obtain ⟨n, number, same⟩ := (spells_channels_iff six).mpr spells
    exact ⟨(utf8ByteSize_of_ascii (ascii_of_digits? number)).trans six, n, number, same⟩

/-- **A numeral in six bytes has six digits, or a plus sign and five.** -/
theorem numeral?_six_iff :
    ((String.ofList digits).utf8ByteSize = 6 ∧
        ∃ n, numeral? 16 digits = some n ∧ ofNat n = color) ↔
      Spells DigitPair digits color.channels ∨
        ∃ rest, digits = '+' :: rest ∧ Spells DigitPair ('0' :: rest) color.channels := by
  by_cases sign : digits.head? = some '+'
  · obtain ⟨rest, rfl⟩ := List.head?_eq_some_iff.mp sign
    have strict : ¬Spells DigitPair ('+' :: rest) color.channels :=
      fun spells => spells.head?_ne (by decide) rfl
    -- a zero in place of the sign takes the same room and changes no number
    have room : (String.ofList ('+' :: rest)).utf8ByteSize =
        (String.ofList ('0' :: rest)).utf8ByteSize := by
      rw [utf8ByteSize_cons_ascii (by decide), utf8ByteSize_cons_ascii (by decide)]
    have number : (String.ofList ('+' :: rest)).utf8ByteSize = 6 →
        numeral? 16 ('+' :: rest) = digits? 16 0 ('0' :: rest) := by
      intro six
      rw [digits?_zero_cons]
      refine numeral?_plus fun empty => ?_
      subst empty
      exact absurd six (by decide)
    rw [or_iff_right strict, and_congr_right fun six => by rw [number six], room, sixDigits_iff]
    simp
  · have number : (String.ofList digits).utf8ByteSize = 6 →
        numeral? 16 digits = digits? 16 0 digits := by
      intro six
      refine numeral?_unsigned (fun empty => ?_) sign
      subst empty
      exact absurd six (by decide)
    rw [and_congr_right fun six => by rw [number six], sixDigits_iff, or_iff_left]
    rintro ⟨rest, rfl, -⟩
    exact sign rfl

/-- **A color is read exactly if it is written in six digits, or in five behind a plus sign**, and
otherwise the text is refused for its length or for what stands in it.  Where there is no plus sign,
what is read is written in six digits. -/
theorem parse_spelt (text : String) :
    (∀ color, parse text = .ok color ↔ Written text color ∨ Signed text color) ∧
    (∀ error, parse text = .error error ↔
      (∀ color, ¬(Written text color ∨ Signed text color)) ∧
        error = if (String.ofList (unmarked text.toList)).utf8ByteSize = 6 then .notNumeral text
          else .wrongLength text) ∧
    ('+' ∈ text.toList ∨ ∀ color, parse text = .ok color ↔ Written text color) := by
  have read : ∀ color, parse text = .ok color ↔ Written text color ∨ Signed text color := by
    intro color
    rw [written_iff, signed_iff, ← numeral?_six_iff, parse_eq]
    by_cases six : (String.ofList (unmarked text.toList)).utf8ByteSize = 6
    · rcases numeral? 16 (unmarked text.toList) with _ | n <;> simp [six]
    · simp [six]
  refine ⟨read, fun error => ?_, ?_⟩
  · simp only [← read]
    rw [parse_eq]
    by_cases six : (String.ofList (unmarked text.toList)).utf8ByteSize = 6
    · rcases numeral? 16 (unmarked text.toList) with _ | n <;> simp [six, eq_comm]
    · simp [six, eq_comm]
  · refine or_iff_not_imp_left.mpr fun unsigned color => ?_
    rw [read color, or_iff_left]
    rintro ⟨digits, spelt | spelt, -⟩ <;> simp [spelt] at unsigned

/-- A sign is no digit, and a color that has one is read all the same. -/
theorem parse_plus : ¬∀ text color, parse text = .ok color ↔ Written text color := by
  intro h
  have accepted : parse "+12345" = .ok ⟨0x01, 0x23, 0x45⟩ := by decide +kernel
  have spells := written_iff.mp ((h _ _).mp accepted)
  exact spells.head?_ne (by decide : digitValue? '+' = none) rfl

end Color

end SplitBoard

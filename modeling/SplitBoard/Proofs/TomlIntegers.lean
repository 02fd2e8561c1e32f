import SplitBoard.Toml.Document
import Mathlib.Data.List.Basic

/-!
# Decimal integers of a document

A number in decimal digits could also be the beginning of a date, of a time, of a float
or of a number in another base.  **At the end of its line it is an integer**
(`value_toDigits`), because none of the characters that would go on otherwise stands
behind any of its digits.
-/

namespace SplitBoard.Toml

theorem digitIn?_ten (c : Char) :
    Text.digitIn? 10 c = if c.isDigit then some (c.toNat - '0'.toNat) else none := by
  have digit : c.isDigit = true ↔ '0' ≤ c ∧ c ≤ '9' := by
    simp [Char.isDigit, Char.le_def]
  simp only [Text.digitIn?, Text.digitValue?, digit]
  by_cases decimal : '0' ≤ c ∧ c ≤ '9'
  · have small : c.toNat ≤ '9'.toNat := decimal.2
    have below : c.toNat - '0'.toNat < 10 := by
      change c.toNat - 48 < 10
      change c.toNat ≤ 57 at small
      omega
    rw [if_pos decimal, if_pos decimal, Option.filter_some, if_pos (decide_eq_true below)]
  · rw [if_neg decimal, if_neg decimal]
    split
    · simp
    · split <;> simp

variable {digits rest : List Char}

theorem digitsFrom_append (decimal : ∀ d ∈ digits, d.isDigit) (found : List Char) :
    digitsFrom 10 found (digits ++ '\n' :: rest) = (digits.reverse ++ found, '\n' :: rest) := by
  induction digits generalizing found with
  | nil => simp [digitsFrom, digitIn?_ten]
  | cons d digits ih =>
    obtain ⟨head, tail⟩ := List.forall_mem_cons.mp decimal
    have plain : d ≠ '_' := by rintro rfl; cases head
    rw [List.cons_append, digitsFrom.eq_2 _ _ _ _ (fun _ _ h _ => plain h), digitIn?_ten,
      if_pos head, Option.isSome_some, if_pos rfl, ih tail, List.reverse_cons, List.append_assoc,
      List.singleton_append]

theorem digitRun_append (decimal : ∀ d ∈ digits, d.isDigit) (nonempty : digits ≠ []) :
    digitRun 10 (digits ++ '\n' :: rest) = some (digits, '\n' :: rest) := by
  obtain ⟨d, digits, rfl⟩ := List.exists_cons_of_ne_nil nonempty
  obtain ⟨head, tail⟩ := List.forall_mem_cons.mp decimal
  simp [digitRun, digitIn?_ten, head, digitsFrom_append tail]

theorem digitsBelow?_eq (decimal : ∀ d ∈ digits, d.isDigit) {bound value : Nat}
    (fits : Nat.ofDigitChars 10 digits value < bound) :
    Text.digitsBelow? 10 bound value digits = some (Nat.ofDigitChars 10 digits value) := by
  induction digits generalizing value with
  | nil => rfl
  | cons d digits ih =>
    obtain ⟨head, tail⟩ := List.forall_mem_cons.mp decimal
    rw [Nat.ofDigitChars_cons, Nat.mul_comm 10 value] at fits ⊢
    have grows : value * 10 + (d.toNat - '0'.toNat) ≤
        Nat.ofDigitChars 10 digits (value * 10 + (d.toNat - '0'.toNat)) := by
      rw [Nat.ofDigitChars_eq_ofDigitChars_zero]
      have : 0 < 10 ^ digits.length := Nat.pow_pos (by omega)
      have := Nat.le_mul_of_pos_left (value * 10 + (d.toNat - '0'.toNat)) this
      omega
    simp only [Text.digitsBelow?, digitIn?_ten, head, if_true, Option.bind_eq_bind,
      Option.bind_some]
    rw [if_pos (by omega), ih tail fits]

theorem isDigit_of_digits? {text : List Char} {value result : Nat}
    (h : Text.digits? 10 value text = some result) : ∀ c ∈ text, c.isDigit := by
  induction text generalizing value with
  | nil => exact List.forall_mem_nil _
  | cons c text ih =>
    rw [Text.digits?, digitIn?_ten] at h
    by_cases digit : c.isDigit
    · rw [if_pos digit, Option.bind_eq_bind, Option.bind_some] at h
      exact List.forall_mem_cons.mpr ⟨digit, ih h⟩
    · rw [if_neg digit] at h
      cases h

/-- Behind a part of the digits stands another digit or the end of the line, so nothing can be
separated from it. -/
theorem expect_of_fixedDigits (decimal : ∀ d ∈ digits, d.isDigit) {separator : Char}
    (other : ¬ separator.isDigit ∧ separator ≠ '\n') {count value : Nat} {after : List Char}
    (taken : fixedDigits count (digits ++ '\n' :: rest) = some (value, after)) :
    expect separator after = none := by
  unfold fixedDigits at taken
  dsimp only at taken
  split at taken
  swap
  · cases taken
  cases read : Text.digits? 10 0 ((digits ++ '\n' :: rest).take count) with
  | none => simp [read] at taken
  | some n =>
    obtain ⟨-, rfl⟩ : n = value ∧ (digits ++ '\n' :: rest).drop count = after := by
      simpa [read] using taken
    have short : count ≤ digits.length := by
      by_contra long
      have lineEnd : '\n' ∈ (digits ++ '\n' :: rest).take count := by
        obtain ⟨k, rfl⟩ : ∃ k, count = digits.length + (k + 1) :=
          ⟨count - digits.length - 1, by omega⟩
        rw [List.take_length_add_append, List.take_succ_cons]
        exact List.mem_append_right _ List.mem_cons_self
      cases isDigit_of_digits? read _ lineEnd
    rw [List.drop_append_of_le_length short]
    cases left : digits.drop count with
    | nil => exact if_neg other.2.symm
    | cons d ds =>
      have digit : d.isDigit := decimal d (List.mem_of_mem_drop (left ▸ List.mem_cons_self))
      exact if_neg fun (same : d = separator) => other.1 (same ▸ digit)

theorem dateTime_eq_none (decimal : ∀ d ∈ digits, d.isDigit) :
    dateTime (digits ++ '\n' :: rest) = none := by
  have noDate : skipDate (digits ++ '\n' :: rest) = none := by
    unfold skipDate
    cases year : fixedDigits 4 (digits ++ '\n' :: rest) with
    | none => rfl
    | some found =>
      have noDash : expect '-' found.2 = none := expect_of_fixedDigits decimal (by decide) year
      simp [noDash]
  have noTime : skipTime (digits ++ '\n' :: rest) = none := by
    unfold skipTime twoDigits
    cases hour : fixedDigits 2 (digits ++ '\n' :: rest) with
    | none => rfl
    | some found =>
      have noColon : expect ':' found.2 = none := expect_of_fixedDigits decimal (by decide) hour
      by_cases ofDay : found.1 ≤ 23 <;> simp [noColon, ofDay]
  simp [dateTime, noDate, noTime]

/-- Only a digit stands in front. -/
theorem append_ne_cons (decimal : ∀ d ∈ digits, d.isDigit) (nonempty : digits ≠ []) {c : Char}
    (other : ¬ c.isDigit) (text : List Char) : digits ++ rest ≠ c :: text := by
  intro same
  obtain ⟨d, digits, rfl⟩ := List.exists_cons_of_ne_nil nonempty
  obtain ⟨rfl, -⟩ := List.cons.inj same
  exact other (decimal d List.mem_cons_self)

/-- A base is marked by a letter behind a digit, and here stands a digit or the end of the line. -/
theorem append_ne_based (decimal : ∀ d ∈ digits, d.isDigit) (nonempty : digits ≠ [])
    {mark : Char} (letter : ¬ mark.isDigit ∧ mark ≠ '\n') (first : Char) (text : List Char) :
    digits ++ '\n' :: rest ≠ first :: mark :: text := by
  intro same
  rcases digits with _ | ⟨d, _ | ⟨e, digits⟩⟩
  · exact nonempty rfl
  · cases same
    exact letter.2 rfl
  · cases same
    exact letter.1 (decimal mark (by simp))

theorem sign_append (decimal : ∀ d ∈ digits, d.isDigit) (nonempty : digits ≠ []) :
    sign (digits ++ rest) = (false, digits ++ rest) := by
  unfold sign
  split
  · next same => exact absurd same (append_ne_cons decimal nonempty (by decide) _)
  · next same => exact absurd same (append_ne_cons decimal nonempty (by decide) _)
  · rfl

theorem specialFloat_append (decimal : ∀ d ∈ digits, d.isDigit) (nonempty : digits ≠ []) :
    specialFloat (digits ++ rest) = none := by
  unfold specialFloat
  rw [sign_append decimal nonempty]
  split
  · next same => exact absurd same (append_ne_cons decimal nonempty (by decide) _)
  · next same => exact absurd same (append_ne_cons decimal nonempty (by decide) _)
  · rfl

theorem value_append (decimal : ∀ d ∈ digits, d.isDigit) (nonempty : digits ≠ []) :
    value (digits ++ rest) = scalar (digits ++ rest) := by
  change valueWithin (78 + 1) (digits ++ rest) = _
  unfold valueWithin
  split
  · next same => exact absurd same (append_ne_cons decimal nonempty (by decide) _)
  · next same => exact absurd same (append_ne_cons decimal nonempty (by decide) _)
  · unfold valueWithin.plain
    split
    · next same => exact absurd same (append_ne_cons decimal nonempty (by decide) _)
    · next same => exact absurd same (append_ne_cons decimal nonempty (by decide) _)
    · rfl

/-! ## The digits of a number -/

theorem head_toDigits_ne_zero {n : Nat} (positive : 0 < n) :
    (Nat.toDigits 10 n).head? ≠ some '0' := by
  induction n using Nat.strongRecOn with
  | ind n ih =>
    by_cases small : n < 10
    · rw [Nat.toDigits_of_lt_base small]
      have each : ∀ d : Fin 10, 0 < d.val → [d.val.digitChar].head? ≠ some '0' := by decide
      exact each ⟨n, small⟩ positive
    · rw [Nat.toDigits_of_base_le (by omega) (by omega),
        List.head?_append_of_ne_nil _ Nat.toDigits_ne_nil]
      exact ih (n / 10) (by omega) (by omega)

theorem isDigit_toDigits {n : Nat} : ∀ d ∈ Nat.toDigits 10 n, d.isDigit :=
  fun _ => Nat.isDigit_of_mem_toDigits (by omega) (by omega)

theorem plainDigits_toDigits (n : Nat) :
    plainDigits (Nat.toDigits 10 n ++ '\n' :: rest) = some (Nat.toDigits 10 n, '\n' :: rest) := by
  rcases Nat.eq_zero_or_pos n with rfl | positive
  · rfl
  · unfold plainDigits
    split
    · next same =>
      have first := congrArg List.head? same
      rw [List.head?_append_of_ne_nil _ Nat.toDigits_ne_nil] at first
      exact absurd first (head_toDigits_ne_zero positive)
    · exact digitRun_append isDigit_toDigits Nat.toDigits_ne_nil

theorem signedDigits_toDigits (n : Nat) :
    signedDigits (Nat.toDigits 10 n ++ '\n' :: rest) =
      some ((false, Nat.toDigits 10 n), '\n' :: rest) := by
  simp [signedDigits, sign_append isDigit_toDigits Nat.toDigits_ne_nil, plainDigits_toDigits]

theorem integer_toDigits {n : Nat} (fits : n < 0x8000000000000000) :
    integer (Nat.toDigits 10 n ++ '\n' :: rest) = some (.integer n, '\n' :: rest) := by
  have read : Text.digitsBelow? 10 sizeBound 0 (Nat.toDigits 10 n) = some n := by
    rw [digitsBelow?_eq isDigit_toDigits, Nat.ofDigitChars_ten_toDigits]
    rw [Nat.ofDigitChars_ten_toDigits]
    exact Nat.lt_trans fits (by decide)
  unfold integer
  split
  · next same =>
    exact absurd same (append_ne_based isDigit_toDigits Nat.toDigits_ne_nil (by decide) _ _)
  · next same =>
    exact absurd same (append_ne_based isDigit_toDigits Nat.toDigits_ne_nil (by decide) _ _)
  · next same =>
    exact absurd same (append_ne_based isDigit_toDigits Nat.toDigits_ne_nil (by decide) _ _)
  · simp [signedDigits_toDigits, read, fits64?, fits]

/-- Nothing else is tried that would take the digits. -/
theorem scalar_toDigits {n : Nat} (fits : n < 0x8000000000000000) :
    scalar (Nat.toDigits 10 n ++ '\n' :: rest) = some (.integer n, '\n' :: rest) := by
  have noDate : dateTime (Nat.toDigits 10 n ++ '\n' :: rest) = none :=
    dateTime_eq_none isDigit_toDigits
  have noFloat : decimalFloat (Nat.toDigits 10 n ++ '\n' :: rest) = none := by
    simp [decimalFloat, signedDigits_toDigits, goesOnAsFloat]
  have notSpecial : specialFloat (Nat.toDigits 10 n ++ '\n' :: rest) = none :=
    specialFloat_append isDigit_toDigits Nat.toDigits_ne_nil
  unfold scalar
  split
  · next same =>
    exact absurd same (append_ne_cons isDigit_toDigits Nat.toDigits_ne_nil (by decide) _)
  · next same =>
    exact absurd same (append_ne_cons isDigit_toDigits Nat.toDigits_ne_nil (by decide) _)
  · simp only [noDate, noFloat, notSpecial, integer_toDigits fits]

theorem value_toDigits {n : Nat} (fits : n < 0x8000000000000000) :
    value (Nat.toDigits 10 n ++ '\n' :: rest) = some (.integer n, '\n' :: rest) := by
  rw [value_append isDigit_toDigits Nat.toDigits_ne_nil, scalar_toDigits fits]

end SplitBoard.Toml

import SplitBoard.Proofs.HexGrammar

/-!
# A record with one digit changed

Of a file that is accepted, take any digit on a line that is read, and change it
into a digit of another value.  **The file is refused then, and the line with that
digit is the one that is blamed** (`parse_changed_digit`).

Only that byte changes to which the digit belongs.  If it is the first one, the
record no longer has as many bytes as it says; if it is any other, the bytes no
longer add up, so that nothing depends on what the byte is for.  The lines before
are read as they were, since a digit ends no line.
-/

namespace SplitBoard.Text

/-! ## The line with the digit -/

section Lines

/-- A line that has begun goes on up to the first line feed. -/
theorem linesFrom_eq (text : List Char) :
    ∃ first rest, ∀ begun, linesFrom begun text = (begun.reverse ++ first) :: rest := by
  induction text with
  | nil => exact ⟨[], [], fun begun => by rw [linesFrom, List.append_nil]⟩
  | cons c text ih =>
    obtain ⟨first, rest, eq⟩ := ih
    by_cases feed : c = '\n'
    · refine ⟨[], first :: rest, fun begun => ?_⟩
      rw [linesFrom, if_pos feed, eq, List.append_nil, List.reverse_nil, List.nil_append]
    · refine ⟨c :: first, rest, fun begun => ?_⟩
      rw [linesFrom, if_neg feed, eq, List.reverse_cons, List.append_assoc]
      rfl

/-- A character is on the line on which the text before it ends, and that is all it decides. -/
theorem linesFrom_append_cons (begun before after : List Char) :
    ∃ earlier start stop later, linesFrom begun before = earlier ++ [start] ∧
      earlier.length = before.count '\n' ∧
      ∀ c, c ≠ '\n' → linesFrom begun (before ++ c :: after) =
        earlier ++ (start ++ c :: stop) :: later := by
  induction before generalizing begun with
  | nil =>
    obtain ⟨first, rest, eq⟩ := linesFrom_eq after
    refine ⟨[], begun.reverse, first, rest, rfl, rfl, fun c printed => ?_⟩
    rw [List.nil_append, linesFrom, if_neg printed, eq, List.reverse_cons, List.append_assoc]
    rfl
  | cons d before ih =>
    by_cases feed : d = '\n'
    · obtain ⟨earlier, start, stop, later, lines, number, split⟩ := ih []
      refine ⟨begun.reverse :: earlier, start, stop, later, ?_, ?_, fun c printed => ?_⟩
      · rw [linesFrom, if_pos feed, lines, List.cons_append]
      · rw [feed, List.count_cons_self, List.length_cons, number]
      · rw [List.cons_append, linesFrom, if_pos feed, split c printed, List.cons_append]
    · obtain ⟨earlier, start, stop, later, lines, number, split⟩ := ih (d :: begun)
      refine ⟨earlier, start, stop, later, ?_, ?_, fun c printed => ?_⟩
      · rw [linesFrom, if_neg feed, lines]
      · rw [List.count_cons_of_ne feed, number]
      · rw [List.cons_append, linesFrom, if_neg feed, split c printed]

end Lines

section Digits
variable {c d d' : Char} {v v' : Nat}

/-- A digit is none of the characters that lines and records are made out by. -/
theorem plain_of_digit (digit : digitValue? c = some v) :
    c ≠ '\n' ∧ c ≠ ':' ∧ isBlank c = false := by
  have ascii : ∀ n : Fin 128, digitValue? (Char.ofNat n) = none ∨
      Char.ofNat n ≠ '\n' ∧ Char.ofNat n ≠ ':' ∧ isBlank (Char.ofNat n) = false := by decide +kernel
  have plain := ascii ⟨c.toNat, (digitValue?_bounds digit).2⟩
  rw [Char.ofNat_toNat, digit] at plain
  exact plain.resolve_left nofun

theorem dropWhile_append_cons {p : Char → Bool} (stays : p c = false) (before after : List Char) :
    (before ++ c :: after).dropWhile p = before.dropWhile p ++ c :: after := by
  rw [List.dropWhile_append, List.dropWhile_cons_of_neg (by rw [stays]; decide)]
  split
  · next none => rw [List.isEmpty_iff.mp none, List.nil_append]
  · rfl

/-- What is left of a line without its blanks keeps a character that is none. -/
theorem trim_append_cons (plain : isBlank c = false) (start stop : List Char) :
    trim (start ++ c :: stop) =
      start.dropWhile isBlank ++ c :: (stop.reverse.dropWhile isBlank).reverse := by
  rw [trim, dropWhile_append_cons plain, List.reverse_append, List.reverse_cons, List.append_assoc,
    List.singleton_append, dropWhile_append_cons plain, List.reverse_append, List.reverse_cons,
    List.reverse_reverse, List.append_assoc, List.singleton_append]

theorem trim_ne_nil (plain : isBlank c = false) (start stop : List Char) :
    trim (start ++ c :: stop) ≠ [] := by
  rw [trim_append_cons plain]
  exact List.append_ne_nil_of_right_ne_nil _ (List.cons_ne_nil _ _)

/-- Bytes below 256 differ as numbers do. -/
theorem ofNat_ne_ofNat {m n : Nat} (small : m < 256) (small' : n < 256) (differ : m ≠ n) :
    UInt8.ofNat m ≠ UInt8.ofNat n := fun same => differ <| by
  rw [← Utf8.toNat_byte small, same, Utf8.toNat_byte small']

variable (digit : digitValue? d = some v) (digit' : digitValue? d' = some v') (differs : v ≠ v')
include digit digit' differs

/-- With another first digit a pair is another byte. -/
theorem pair_changed_first {byte : UInt8} (pair : NumeralPair d c byte) :
    ∃ byte', NumeralPair d' c byte' ∧ byte ≠ byte' := by
  rcases pair with ⟨high, low, first, second, rfl⟩ | ⟨rfl, -⟩
  · cases digit.symm.trans first
    have small := (digitValue?_bounds digit).1
    have small' := (digitValue?_bounds digit').1
    have smallLow := (digitValue?_bounds second).1
    exact ⟨_, .inl ⟨v', low, digit', second, rfl⟩, ofNat_ne_ofNat (by omega) (by omega) (by omega)⟩
  · cases digit.symm.trans (by decide : digitValue? '+' = none)

/-- So it is with another second one. -/
theorem pair_changed_second {byte : UInt8} (pair : NumeralPair c d byte) :
    ∃ byte', NumeralPair c d' byte' ∧ byte ≠ byte' := by
  have small := (digitValue?_bounds digit).1
  have small' := (digitValue?_bounds digit').1
  rcases pair with ⟨high, low, first, second, rfl⟩ | ⟨rfl, low, second, rfl⟩
  · cases digit.symm.trans second
    have smallHigh := (digitValue?_bounds first).1
    exact ⟨_, .inl ⟨high, v', first, digit', rfl⟩,
      ofNat_ne_ofNat (by omega) (by omega) (by omega)⟩
  · cases digit.symm.trans second
    exact ⟨_, .inr ⟨rfl, v', digit', rfl⟩, ofNat_ne_ofNat (by omega) (by omega) differs⟩

/-- **A digit decides one byte**, and with another digit it is another byte there.  The induction
goes over the pairs in front of it. -/
theorem spells_changed {front back : List Char} {bytes : List UInt8}
    (spelt : Spells NumeralPair (front ++ d :: back) bytes) :
    ∃ first byte byte' rest, bytes = first ++ byte :: rest ∧ byte ≠ byte' ∧
      Spells NumeralPair (front ++ d' :: back) (first ++ byte' :: rest) := by
  induction front using List.twoStepInduction generalizing bytes with
  | nil =>
    rcases spelt with _ | ⟨pair, rest⟩
    obtain ⟨byte', pair', other⟩ := pair_changed_first digit digit' differs pair
    exact ⟨[], _, byte', _, rfl, other, .cons pair' rest⟩
  | singleton a =>
    rcases spelt with _ | ⟨pair, rest⟩
    obtain ⟨byte', pair', other⟩ := pair_changed_second digit digit' differs pair
    exact ⟨[], _, byte', _, rfl, other, .cons pair' rest⟩
  | cons_cons a b front ih =>
    rcases spelt with _ | ⟨pair, rest⟩
    obtain ⟨first, byte, byte', behind, rfl, other, spelt'⟩ := ih rest
    exact ⟨_ :: first, byte, byte', behind, rfl, other, .cons pair spelt'⟩

end Digits
end SplitBoard.Text

namespace SplitBoard.IntelHex

open Text

/-! ## The record with the byte -/

theorem byteSum_append (front back : List UInt8) :
    byteSum (front ++ back) = byteSum front + byteSum back := by
  induction front with
  | nil => exact (UInt8.zero_add _).symm
  | cons byte front ih => rw [List.cons_append, byteSum, byteSum, ih, UInt8.add_assoc]

/-- The two faults of a record in which one byte has changed. -/
inductive FoundOut : LineFault → Prop where
  | count (expected actual : Nat) : FoundOut (.wrongCount expected actual)
  | sum : FoundOut .badChecksum

/-- Either fault is told in one line of text, with the number of the line in front. -/
theorem FoundOut.chain_eq {fault : LineFault} (foundOut : FoundOut fault) (number : Nat) :
    ∃ what : String, fault.chain number = [s!"line {number}: {what}"] := by
  cases foundOut with
  | count expected actual =>
    have split : ": expected " = ": " ++ "expected " := by decide
    refine ⟨s!"expected {expected} data bytes, got {actual}", ?_⟩
    simp only [LineFault.chain, toString, split, String.append_assoc]
  | sum =>
    have split : ": checksum mismatch" = ": " ++ "checksum mismatch" := by decide
    refine ⟨"checksum mismatch", ?_⟩
    simp only [LineFault.chain, toString, split, String.append_assoc]

section Bytes
variable {bytes : List UInt8} (long : 5 ≤ bytes.length)
include long

theorem ofBytes_miscounted (count : (bytes.getD 0 0).toNat ≠ bytes.length - 5) :
    ∃ expected actual, Record.ofBytes bytes = .error (.wrongCount expected actual) := by
  rcases bytes with _ | ⟨number, _ | ⟨high, _ | ⟨low, _ | ⟨type, _ | ⟨byte, rest⟩⟩⟩⟩⟩
  case cons.cons.cons.cons.cons =>
    simp only [List.getD_cons_zero, List.length_cons] at count
    have miscounted : (byte :: rest).length ≠ number.toNat + 1 := by
      rw [List.length_cons]
      omega
    refine ⟨number.toNat, (byte :: rest).length - 1, ?_⟩
    rw [Record.ofBytes, if_neg (List.cons_ne_nil byte rest), if_pos miscounted]
  all_goals cases Nat.not_lt.mpr long (by simp)

theorem ofBytes_unbalanced (count : (bytes.getD 0 0).toNat = bytes.length - 5)
    (sum : byteSum bytes ≠ 0) : Record.ofBytes bytes = .error .badChecksum := by
  rcases bytes with _ | ⟨number, _ | ⟨high, _ | ⟨low, _ | ⟨type, _ | ⟨byte, rest⟩⟩⟩⟩⟩
  case cons.cons.cons.cons.cons =>
    simp only [List.getD_cons_zero, List.length_cons] at count
    have counted : (byte :: rest).length = number.toNat + 1 := by
      rw [List.length_cons]
      omega
    rw [Record.ofBytes, if_neg (List.cons_ne_nil byte rest), if_neg (not_not.mpr counted),
      if_pos sum]
  all_goals cases Nat.not_lt.mpr long (by simp)

end Bytes

/-- **A record with one byte changed is no record.**  If the byte is the count, there are not that
many; otherwise there are as many as before, and they no longer add up. -/
theorem ofBytes_changed {first rest : List UInt8} {byte byte' : UInt8} {record : Record}
    (right : Record.ofBytes (first ++ byte :: rest) = .ok record) (other : byte ≠ byte') :
    ∃ fault, FoundOut fault ∧ Record.ofBytes (first ++ byte' :: rest) = .error fault := by
  obtain ⟨long, count, sum, -⟩ := ofBytes_eq_ok_iff.mp right
  have length : (first ++ byte' :: rest).length = (first ++ byte :: rest).length := by
    rw [List.length_append, List.length_append, List.length_cons, List.length_cons]
  rw [← length] at long count
  rcases first with _ | ⟨number, first⟩
  · have miscounted : byte'.toNat ≠ (byte' :: rest).length - 5 := fun count' =>
      other (UInt8.toNat_inj.mp (count.trans count'.symm))
    obtain ⟨expected, actual, refused⟩ := ofBytes_miscounted long miscounted
    exact ⟨_, .count expected actual, refused⟩
  · refine ⟨_, .sum, ofBytes_unbalanced long count fun sum' => other ?_⟩
    -- two sums that differ in one byte are not both zero
    have same := (byteSum_eq_zero_iff.mpr sum).trans sum'.symm
    rw [byteSum_append, byteSum_append, UInt8.add_right_inj, byteSum, byteSum] at same
    exact (UInt8.add_left_inj _).mp same

/-! ## The lines before -/

namespace Reading

/-- Lines that do not end the file are read before all others, and so whatever the others are. -/
theorem takeLines_append {reading final : Reading} {number : Nat} {before after : List (List Char)}
    (quiet : ∀ line ∈ before, ¬EndsFile NumeralPair line)
    (accepted : reading.takeLines number (before ++ after) = .ok final) :
    ∃ next : Reading, ∀ lines, reading.takeLines number (before ++ lines) =
      next.takeLines (number + before.length) lines := by
  induction before generalizing reading number with
  | nil => exact ⟨reading, fun lines => rfl⟩
  | cons line before ih =>
    obtain ⟨here, quiet⟩ := List.forall_mem_cons.mp quiet
    have numbers : number + (line :: before).length = number + 1 + before.length := by
      rw [List.length_cons]
      omega
    rw [numbers]
    by_cases blank : trim line = []
    · simp only [List.cons_append, takeLines_blank _ _ blank] at accepted ⊢
      exact ih quiet accepted
    rcases parsed : Record.parse (trim line) with fault | record
    · rw [List.cons_append, takeLines_fault _ _ blank parsed] at accepted
      cases accepted
    have more : record ≠ .endOfFile := by
      rintro rfl
      exact here (parse_trim_eq_endOfFile_iff.mp parsed)
    simp only [List.cons_append, takeLines_record _ _ parsed more] at accepted ⊢
    rcases taken : reading.take record with fault | next
    · rw [taken] at accepted
      cases accepted
    · rw [taken] at accepted
      exact ih quiet accepted

end Reading

/-! ## The line with the record -/

section ChangedDigit
variable {d d' : Char} {v v' : Nat} (digit : digitValue? d = some v)
  (digit' : digitValue? d' = some v') (differs : v ≠ v')
include digit digit' differs

/-- A line with a record has none once one of its digits has changed. -/
theorem parse_trim_changed {start stop : List Char} {record : Record}
    (parsed : Record.parse (trim (start ++ d :: stop)) = .ok record) :
    ∃ fault, FoundOut fault ∧ Record.parse (trim (start ++ d' :: stop)) = .error fault := by
  obtain ⟨-, notColon, printed⟩ := plain_of_digit digit
  obtain ⟨-, -, printed'⟩ := plain_of_digit digit'
  obtain ⟨text, bytes, colon, spelt, right⟩ := parse_trim_eq_ok_iff.mp parsed
  rw [trim_append_cons printed] at colon
  rw [trim_append_cons printed']
  generalize start.dropWhile isBlank = front at colon ⊢
  rcases front with _ | ⟨c, front⟩
  · -- no record begins with a digit
    cases notColon (List.cons.inj colon).1
  · obtain ⟨rfl, rfl⟩ := List.cons.inj colon
    obtain ⟨first, byte, byte', rest, rfl, other, spelt'⟩ :=
      spells_changed digit digit' differs spelt
    obtain ⟨fault, foundOut, refused⟩ := ofBytes_changed right other
    refine ⟨fault, foundOut, ?_⟩
    rw [List.cons_append, Record.parse, recordBytes_eq_ok_iff.mpr spelt']
    exact refused

/-- **A changed digit is found out, on its line.**  The digit may belong to the count, the address,
the type, the data or the checksum of any record, the one that ends the file included; behind that
one nothing is read.  The line is the one behind all line feeds in front of the digit. -/
theorem parse_changed_digit {before after : List Char} {segments : List Segment}
    (accepted : parse (before ++ d :: after) = .ok segments)
    (reached : ∀ line ∈ (lines before).dropLast, ¬EndsFile NumeralPair line) :
    ∃ number fault, number = 1 + before.count '\n' ∧ FoundOut fault ∧
      parse (before ++ d' :: after) = .error (.line number fault) ∧
      ∃ what : String, (Fault.line number fault).chain = [s!"line {number}: {what}"] := by
  obtain ⟨notFeed, -, printed⟩ := plain_of_digit digit
  obtain ⟨notFeed', -, printed'⟩ := plain_of_digit digit'
  obtain ⟨earlier, start, stop, later, begun, number, split⟩ :=
    linesFrom_append_cons [] before after
  rw [lines, begun, List.dropLast_concat] at reached
  have readable := ((parse_outcome _).1.mp ⟨_, accepted⟩).1
  rw [lines, split d notFeed] at readable
  -- the line with the digit has a record
  obtain ⟨record, parsed⟩ := parse_trim_ok_iff.mpr
    ((readable _ _ _ rfl reached).resolve_left (trim_ne_nil printed start stop))
  obtain ⟨fault, foundOut, refused⟩ := parse_trim_changed digit digit' differs parsed
  refine ⟨_, fault, rfl, foundOut, ?_, foundOut.chain_eq _⟩
  unfold parse at accepted ⊢
  rw [lines, split d notFeed] at accepted
  rw [lines, split d' notFeed', ← number]
  rcases read : Reading.takeLines {} 1 (earlier ++ (start ++ d :: stop) :: later) with fault | final
  · rw [read] at accepted
    cases accepted
  · obtain ⟨next, others⟩ := Reading.takeLines_append reached read
    rw [others, Reading.takeLines_fault _ _ (trim_ne_nil printed' start stop) refused]
    rfl

end ChangedDigit

/-- The record that ends the file becomes one that moves the base, and is found out by its sum. -/
theorem parse_changed_digit_at_end :
    ∃ fault, FoundOut fault ∧
      parse ":0100000041BE\n:00000004FF\n".toList = .error (.line 2 fault) := by
  have first : ∀ line ∈ (lines ":0100000041BE\n:0000000".toList).dropLast,
      ¬EndsFile NumeralPair line := by
    intro line member
    have lines : (lines ":0100000041BE\n:0000000".toList).dropLast = [":0100000041BE".toList] := by
      decide +kernel
    rw [lines, List.mem_singleton] at member
    rw [member, ← parse_trim_eq_endOfFile_iff]
    decide +kernel
  have accepted : parse (":0100000041BE\n:0000000".toList ++ '1' :: "FF\n".toList) =
      .ok [⟨0, #[0x41]⟩] := by decide +kernel
  have digit : digitValue? '1' = some 1 := by decide
  have digit' : digitValue? '4' = some 4 := by decide
  obtain ⟨_, fault, rfl, foundOut, refused, -⟩ :=
    parse_changed_digit digit digit' (by decide) accepted first
  exact ⟨fault, foundOut, refused⟩

end SplitBoard.IntelHex

import SplitBoard.Proofs.TomlIntegers
import SplitBoard.Toml.Tree

/-!
# Lines that a document is made of

What a line does to the tables under construction does not depend on what follows it,
so a document is read line by line (`Reads`).  A line that gives a key a number adds it
to the table that is open (`Reads.number`), and a header opens the next one
(`Reads.header`).
-/

namespace SplitBoard.Toml

section Keys

/-- A line that is neither blank nor a comment can begin here. -/
def BeginsLine (c : Char) : Prop :=
  c ∉ [' ', '\t', '#', '\n', '\r']

instance (c : Char) : Decidable (BeginsLine c) :=
  inferInstanceAs (Decidable (¬ _))

theorem beginsLine_of_isBare {c : Char} (bare : isBare c) : BeginsLine c := by
  intro among
  simp only [List.mem_cons, List.not_mem_nil, or_false] at among
  rcases among with rfl | rfl | rfl | rfl | rfl <;> cases bare

theorem IsBareKey.exists_cons {key : String} (bare : IsBareKey key) :
    ∃ c text, key.toList = c :: text ∧ isBare c := by
  obtain ⟨c, text, spelled⟩ := List.exists_cons_of_ne_nil bare.1
  exact ⟨c, text, spelled, bare.2 c (spelled ▸ List.mem_cons_self)⟩

theorem skipSpaces_of_beginsLine {c : Char} (begins : BeginsLine c) (text : List Char) :
    skipSpaces (c :: text) = c :: text := by
  apply List.dropWhile_cons_of_neg
  intro space
  apply begins
  simp only [isSpace, Bool.or_eq_true, decide_eq_true_eq] at space
  rcases space with rfl | rfl <;> decide

theorem skipSpaces_append {word : List Char} (bare : ∀ c ∈ word, isBare c) (nonempty : word ≠ [])
    (rest : List Char) : skipSpaces (word ++ rest) = word ++ rest := by
  obtain ⟨c, word, rfl⟩ := List.exists_cons_of_ne_nil nonempty
  exact skipSpaces_of_beginsLine (beginsLine_of_isBare (bare c List.mem_cons_self)) _

theorem IsBareKey.append_ne_cons {key : String} (bare : IsBareKey key) {c : Char}
    (other : ¬ isBare c) (rest text : List Char) : key.toList ++ rest ≠ c :: text := by
  intro same
  obtain ⟨d, letters, spelled, head⟩ := bare.exists_cons
  rw [spelled] at same
  obtain ⟨rfl, -⟩ := List.cons.inj same
  exact other head

theorem simpleKey_append {key : String} (bare : IsBareKey key) {c : Char} (ends : ¬ isBare c)
    (rest : List Char) : simpleKey (key.toList ++ c :: rest) = some (key, c :: rest) := by
  have taken : (key.toList ++ c :: rest).takeWhile isBare = key.toList := by
    rw [List.takeWhile_append_of_pos bare.2, List.takeWhile_cons_of_neg ends, List.append_nil]
  have dropped : (key.toList ++ c :: rest).dropWhile isBare = c :: rest := by
    rw [List.dropWhile_append_of_pos bare.2, List.dropWhile_cons_of_neg ends]
  have nonempty : ¬ key.toList.isEmpty := by
    rw [List.isEmpty_iff]
    exact bare.1
  unfold simpleKey
  split
  · next same => exact absurd same (bare.append_ne_cons (by decide) _ _)
  · next same => exact absurd same (bare.append_ne_cons (by decide) _ _)
  · dsimp only
    rw [taken, dropped, if_neg nonempty, String.ofList_toList]

theorem keyAndEquals_append {key : String} (bare : IsBareKey key) (rest : List Char) :
    keyAndEquals (key.toList ++ ' ' :: '=' :: rest) = some ([key], skipSpaces rest) := by
  have one : keyPath (key.toList ++ ' ' :: '=' :: rest) = some ([key], '=' :: rest) := by
    change keysFrom (78 + 1) _ = _
    rw [keysFrom, skipSpaces_append bare.2 bare.1, simpleKey_append bare (by decide)]
    rfl
  rw [keyAndEquals, one]
  rfl

theorem dotted_cons_cons (key next : String) (path : List String) :
    dotted (key :: next :: path) = key.toList ++ '.' :: dotted (next :: path) := by
  simp only [dotted, List.map_cons, List.intercalate_cons_cons, List.append_assoc,
    List.singleton_append]

theorem keysFrom_dotted {path : List String} (bare : ∀ key ∈ path, IsBareKey key)
    (nonempty : path ≠ []) {fuel : Nat} (enough : path.length ≤ fuel) (rest : List Char) :
    keysFrom fuel (dotted path ++ ']' :: rest) = some (path, ']' :: rest) := by
  induction path generalizing fuel with
  | nil => exact absurd rfl nonempty
  | cons key path ih =>
    obtain ⟨head, tail⟩ := List.forall_mem_cons.mp bare
    obtain ⟨fuel, rfl⟩ : ∃ less, fuel = less + 1 :=
      Nat.exists_eq_add_one.mpr (Nat.lt_of_lt_of_le (Nat.succ_pos _) enough)
    cases path with
    | nil =>
      rw [show dotted [key] = key.toList from List.intercalate_singleton, keysFrom,
        skipSpaces_append head.2 head.1, simpleKey_append head (by decide)]
      rfl
    | cons next path =>
      rw [dotted_cons_cons, List.append_assoc, List.cons_append, keysFrom,
        skipSpaces_append head.2 head.1, simpleKey_append head (by decide)]
      have inner := ih tail (List.cons_ne_nil _ _) (Nat.le_of_succ_le_succ enough)
      simp [skipSpaces_of_beginsLine (by decide : BeginsLine '.'), inner]

theorem exists_cons_dotted {path : List String} (bare : ∀ key ∈ path, IsBareKey key)
    (nonempty : path ≠ []) : ∃ c text, dotted path = c :: text ∧ isBare c := by
  rcases path with _ | ⟨key, _ | ⟨next, path⟩⟩
  · exact absurd rfl nonempty
  · obtain ⟨c, text, spelled, head⟩ := (bare key List.mem_cons_self).exists_cons
    exact ⟨c, text, List.intercalate_singleton.trans spelled, head⟩
  · obtain ⟨c, text, spelled, head⟩ := (bare key List.mem_cons_self).exists_cons
    exact ⟨c, _, by rw [dotted_cons_cons, spelled, List.cons_append], head⟩

theorem keyPath_dotted {path : List String} (bare : ∀ key ∈ path, IsBareKey key)
    (nonempty : path ≠ []) (short : path.length ≤ depthLimit) (rest : List Char) :
    keyPath (dotted path ++ ']' :: rest) = some (path, ']' :: rest) :=
  keysFrom_dotted bare nonempty short rest

end Keys

namespace Reading

/-- Read to its end, the text leads from one reading to another. -/
def Reads (reading : Reading) (text : List Char) (final : Reading) : Prop :=
  ∀ fuel, text.length < fuel → reading.lines fuel text = some final

section Lines

variable {reading next final : Reading} {rest : List Char}

theorem Reads.nil (reading : Reading) : reading.Reads [] reading := by
  intro fuel enough
  cases fuel with
  | zero => cases enough
  | succ fuel => rfl

theorem Reads.lineEnd (following : reading.Reads rest final) :
    reading.Reads ('\n' :: rest) final := by
  intro fuel enough
  cases fuel with
  | zero => cases enough
  | succ fuel => exact following fuel (Nat.lt_of_succ_lt_succ enough)

theorem Reads.line {c : Char} {text : List Char} (begins : BeginsLine c)
    (read : reading.line (c :: text) = some (next, rest)) (shorter : rest.length ≤ text.length)
    (following : next.Reads rest final) : reading.Reads (c :: text) final := by
  intro fuel enough
  cases fuel with
  | zero => cases enough
  | succ fuel =>
    have noEnd : lineEnd? (c :: text) = none := by
      unfold lineEnd?
      split
      · next same => cases same; exact absurd begins (by decide)
      · next same => cases same; exact absurd begins (by decide)
      · rfl
    have noComment : c ≠ '#' := by
      rintro rfl
      exact absurd begins (by decide)
    have rest_reads : next.lines fuel rest = some final :=
      following fuel (Nat.lt_of_le_of_lt shorter (Nat.lt_of_succ_lt_succ enough))
    simp [lines, skipSpaces_of_beginsLine begins, noEnd, noComment, read, rest_reads]

theorem numberLine_append (key : String) (n : Nat) (rest : List Char) :
    numberLine key n ++ rest =
      key.toList ++ ' ' :: '=' :: ' ' :: (Nat.toDigits 10 n ++ '\n' :: rest) := by
  simp [numberLine]

theorem line_number {key : String} {n : Nat} (bare : IsBareKey key)
    (fits : n < 0x8000000000000000) (defined : reading.define [key] (.integer n) = some next) :
    reading.line (numberLine key n ++ rest) = some (next, rest) := by
  rw [numberLine_append]
  have spaced : skipSpaces (' ' :: (Nat.toDigits 10 n ++ '\n' :: rest)) =
      Nat.toDigits 10 n ++ '\n' :: rest := by
    have bareDigits : ∀ d ∈ Nat.toDigits 10 n, isBare d := by
      intro d among
      simp [isBare, Char.isAlphanum, isDigit_toDigits d among]
    exact skipSpaces_append bareDigits Nat.toDigits_ne_nil _
  unfold line
  split
  · next same => exact absurd same (bare.append_ne_cons (by decide) _ _)
  · next same => exact absurd same (bare.append_ne_cons (by decide) _ _)
  · rw [keyAndEquals_append bare, spaced]
    simp only [Option.bind_eq_bind, Option.bind_some, value_toDigits fits, defined]
    rfl

theorem line_header {path : List String} (bare : ∀ key ∈ path, IsBareKey key)
    (nonempty : path ≠ []) (short : path.length ≤ depthLimit)
    (opened : reading.openTable path = some next) :
    reading.line ('[' :: (dotted path ++ ']' :: '\n' :: rest)) = some (next, rest) := by
  obtain ⟨c, text, spelled, head⟩ := exists_cons_dotted bare nonempty
  unfold line
  split
  · next same =>
    obtain ⟨rfl, -⟩ := List.cons.inj (spelled ▸ (List.cons.inj same).2)
    cases head
  · next same =>
    obtain ⟨-, rfl⟩ := List.cons.inj same
    rw [keyPath_dotted bare nonempty short]
    simp only [Option.bind_eq_bind, Option.bind_some, opened]
    rfl
  · next no =>
    exact absurd rfl (no _)

theorem Reads.number {key : String} {n : Nat} (bare : IsBareKey key)
    (fits : n < 0x8000000000000000) (defined : reading.define [key] (.integer n) = some next)
    (following : next.Reads rest final) : reading.Reads (numberLine key n ++ rest) final := by
  have read := @line_number reading next rest key n bare fits defined
  rw [numberLine_append] at read ⊢
  obtain ⟨c, text, spelled, head⟩ := bare.exists_cons
  rw [spelled, List.cons_append] at read ⊢
  apply Reads.line (beginsLine_of_isBare head) read _ following
  simp only [List.length_append, List.length_cons]
  omega

theorem Reads.header {path : List String} (bare : ∀ key ∈ path, IsBareKey key)
    (nonempty : path ≠ []) (short : path.length ≤ depthLimit)
    (opened : reading.openTable path = some next) (following : next.Reads rest final) :
    reading.Reads (headerLines path ++ rest) final := by
  rw [headerLines, List.cons_append, List.cons_append, List.append_assoc]
  apply Reads.lineEnd
  apply Reads.line (by decide) (line_header bare nonempty short opened) _ following
  simp only [List.length_append, List.length_cons]
  omega

end Lines
end Reading
end SplitBoard.Toml

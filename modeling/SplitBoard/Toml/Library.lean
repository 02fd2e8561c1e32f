import SplitBoard.Toml.Declaration

/-!
# Libraries for documents

Reading and printing documents, and turning tables into declared records and back, is left to a
library. `Library` says what one offers, and `Library.Faithful` what it promises:

* a printed tree reads as a document that says the same (`read_write`);
* a field is decoded from what its key has, and filled in if the key is missing (`decode_number`,
  `decode_table` and the two about missing keys), and keys of no field are passed over
  (`decode_filledFrom`);
* all declared fields are encoded, in their order (`encode_number`, `encode_table`).

**Nothing is promised of other texts and tables.**
-/

namespace SplitBoard.Toml

/-- What a library for documents offers. -/
structure Library where
  /-- The entries of the document that a text is, if it is one. -/
  read : String → Option Entries
  /-- A tree as a text, if it can be printed. -/
  write : Tree → Option String
  /-- The declared record that a value is, if it is one. -/
  decode : {σ : Type} → Declaration σ → Value → Option σ
  /-- The table that a declared record is. -/
  encode : {σ : Type} → Declaration σ → σ → Tree

/-- What it promises. -/
structure Library.Faithful (library : Library) : Prop where
  /-- What can be printed is printed, and then reads as a document that says the same. -/
  read_write : ∀ tree : Tree, tree.Printable → tree.depth ≤ depthLimit →
    ∃ text entries, library.write tree = some text ∧ library.read text = some entries ∧
      tree.ShownBy entries
  /-- Where no field is declared, all is filled in. -/
  decode_filledFrom : ∀ {σ : Type} (default : σ) (entries : Entries),
    library.decode (.filledFrom default) (.table entries) = some default
  /-- A number that fits its field is put into it. -/
  decode_number : ∀ {σ : Type} (before : Declaration σ) (key : String) (bound : Nat)
    (get : σ → Nat) (set : σ → Nat → σ) (entries : Entries) (n : Nat),
    entries.lookup key = some (.integer n) → n < bound →
      library.decode (before.number key bound get set) (.table entries) =
        (library.decode before (.table entries)).map (set · n)
  /-- A number whose key is missing is filled in. -/
  decode_number_missing : ∀ {σ : Type} (before : Declaration σ) (key : String) (bound : Nat)
    (get : σ → Nat) (set : σ → Nat → σ) (entries : Entries), entries.lookup key = none →
      library.decode (before.number key bound get set) (.table entries) =
        library.decode before (.table entries)
  /-- A record is decoded by its own declaration and put into its field. -/
  decode_table : ∀ {σ τ : Type} (before : Declaration σ) (key : String) (type : Declaration τ)
    (get : σ → τ) (set : σ → τ → σ) (entries : Entries) (inner : Value),
    entries.lookup key = some inner →
      library.decode (before.table key type get set) (.table entries) =
        (library.decode before (.table entries)).bind fun s =>
          (library.decode type inner).map (set s)
  /-- A record whose key is missing is filled in. -/
  decode_table_missing : ∀ {σ τ : Type} (before : Declaration σ) (key : String)
    (type : Declaration τ) (get : σ → τ) (set : σ → τ → σ) (entries : Entries),
    entries.lookup key = none →
      library.decode (before.table key type get set) (.table entries) =
        library.decode before (.table entries)
  /-- What is not declared is not encoded. -/
  encode_filledFrom : ∀ {σ : Type} (default s : σ), library.encode (.filledFrom default) s = .empty
  /-- A number is encoded behind the fields before it. -/
  encode_number : ∀ {σ : Type} (before : Declaration σ) (key : String) (bound : Nat)
    (get : σ → Nat) (set : σ → Nat → σ) (s : σ),
    library.encode (before.number key bound get set) s =
      (library.encode before s).number key (get s)
  /-- So is a record, by its own declaration. -/
  encode_table : ∀ {σ τ : Type} (before : Declaration σ) (key : String) (type : Declaration τ)
    (get : σ → τ) (set : σ → τ → σ) (s : σ),
    library.encode (before.table key type get set) s =
      (library.encode before s).table key (library.encode type (get s))

end SplitBoard.Toml

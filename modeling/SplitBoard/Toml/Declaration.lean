import SplitBoard.Toml.Tree

/-!
# Records as tables

A record can be declared to be a table: field by field, with the key that each field has, and with a
record that the fields are filled in from when their keys are missing. Printing and reading both go
by this declaration. **A field that is not declared is no part of the table**, and always has the
value that it has in that record.

A field is a number, or a record with a declaration of its own.
-/

namespace SplitBoard.Toml

/-- A number of a record, under the path that leads to it. -/
structure Number (σ : Type) where
  path : List String
  get : σ → Nat

/-- How a record is a table, the last field outermost. -/
inductive Declaration : Type → Type 1 where
  /-- The record that missing fields are filled in from. -/
  | filledFrom {σ : Type} (default : σ) : Declaration σ
  /-- One more field, a number below a bound. -/
  | number {σ : Type} (before : Declaration σ) (key : String) (bound : Nat) (get : σ → Nat)
      (set : σ → Nat → σ) : Declaration σ
  /-- One more field, a record. -/
  | table {σ τ : Type} (before : Declaration σ) (key : String) (type : Declaration τ) (get : σ → τ)
      (set : σ → τ → σ) : Declaration σ

namespace Declaration

/-- One more field, a byte. -/
def byte {σ : Type} (before : Declaration σ) (key : String) (get : σ → UInt8)
    (set : σ → UInt8 → σ) : Declaration σ :=
  before.number key 0x100 (fun s => (get s).toNat) fun s n => set s (.ofNat n)

/-- One more field, a word of two bytes. -/
def word {σ : Type} (before : Declaration σ) (key : String) (get : σ → UInt16)
    (set : σ → UInt16 → σ) : Declaration σ :=
  before.number key 0x10000 (fun s => (get s).toNat) fun s n => set s (.ofNat n)

/-- One more field, a word of four bytes. -/
def long {σ : Type} (before : Declaration σ) (key : String) (get : σ → UInt32)
    (set : σ → UInt32 → σ) : Declaration σ :=
  before.number key 0x100000000 (fun s => (get s).toNat) fun s n => set s (.ofNat n)

/-- The record that missing fields are filled in from. -/
def default {σ : Type} : Declaration σ → σ
  | filledFrom default => default
  | number before .. => before.default
  | table before .. => before.default

/-- The keys of the fields, the last one first. -/
def keys {σ : Type} : Declaration σ → List String
  | filledFrom _ => []
  | number before key .. => key :: before.keys
  | table before key .. => key :: before.keys

/-- Whether no field is a record. -/
def isFlat {σ : Type} : Declaration σ → Bool
  | filledFrom _ => true
  | number before .. => before.isFlat
  | table .. => false

/-- How deep records stand in the record. -/
def depth {σ : Type} : Declaration σ → Nat
  | filledFrom _ => 0
  | number before .. => before.depth
  | table before _ type .. => max before.depth (type.depth + 1)

/-- The numbers in the record and in the records inside it. -/
def numbers {σ : Type} : Declaration σ → List (Number σ)
  | filledFrom _ => []
  | number before key _ get _ => before.numbers ++ [⟨[key], get⟩]
  | table before key type get _ =>
    before.numbers ++ type.numbers.map fun n => ⟨key :: n.path, fun s => n.get (get s)⟩

/-- The paths of the tables that the record and the records inside it are. -/
def tables {σ : Type} : Declaration σ → List (List String)
  | filledFrom _ => [[]]
  | number before .. => before.tables
  | table before key type .. => before.tables ++ type.tables.map (key :: ·)

/-- The chosen numbers of a record, as a tree. -/
def tree {σ : Type} (chosen : List String → Bool) : Declaration σ → σ → Tree
  | filledFrom _, _ => .empty
  | number before key _ get _, s =>
    if chosen [key] then (before.tree chosen s).number key (get s) else before.tree chosen s
  | table before key type get _, s =>
    (before.tree chosen s).table key (type.tree (fun path => chosen (key :: path)) (get s))

end Declaration

end SplitBoard.Toml

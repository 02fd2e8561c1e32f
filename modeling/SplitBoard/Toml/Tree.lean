import SplitBoard.Toml.Text

/-!
# Trees of numbers

What can be printed as a document: tables of numbers and of further tables, with their entries in
order.

**A number that came behind a table could not be told from the numbers in it**, so a tree is only
printable if in every table the numbers stand first.
-/

namespace SplitBoard.Toml

/-- A table of numbers and further tables, the last entry outermost. -/
inductive Tree where
  | empty
  | number (before : Tree) (key : String) (n : Nat)
  | table (before : Tree) (key : String) (inner : Tree)
  deriving DecidableEq, Repr

namespace Tree

/-- The keys of the table, the last one first. -/
def keys : Tree → List String
  | empty => []
  | number before key _ => key :: before.keys
  | table before key _ => key :: before.keys

/-- Whether there are only numbers in the table. -/
def isFlat : Tree → Bool
  | empty => true
  | number before .. => before.isFlat
  | table .. => false

/-- How deep tables stand in tables. -/
def depth : Tree → Nat
  | empty => 0
  | number before .. => before.depth
  | table before _ inner => max before.depth (inner.depth + 1)

/-- What a printer of documents can be asked to print: bare keys, each used once in its table,
numbers of 64 bits with sign, and no number behind a table. -/
inductive Printable : Tree → Prop where
  | empty : Printable empty
  | number {before : Tree} {key : String} {n : Nat} (printable : before.Printable)
      (flat : before.isFlat = true) (bare : IsBareKey key) (fresh : key ∉ before.keys)
      (fits : n < 0x8000000000000000) : Printable (number before key n)
  | table {before : Tree} {key : String} {inner : Tree} (printable : before.Printable)
      (bare : IsBareKey key) (fresh : key ∉ before.keys) (inside : inner.Printable) :
      Printable (table before key inner)

/-- What the tree says is among these entries, and in the tables inside it there is nothing else. -/
def Among : Tree → Entries → Prop
  | empty, _ => True
  | number before key n, entries => before.Among entries ∧ entries.lookup key = some (.integer n)
  | table before key inner, entries => before.Among entries ∧
      ∃ inside, entries.lookup key = some (.table inside) ∧ inner.Among inside ∧
        ∀ other ∉ inner.keys, inside.lookup other = none

/-- These entries say what the tree says, in whatever order, and nothing else. -/
def ShownBy (tree : Tree) (entries : Entries) : Prop :=
  tree.Among entries ∧ ∀ key ∉ tree.keys, entries.lookup key = none

end Tree

/-! ## Printing -/

/-- A line that gives a key a number. -/
def numberLine (key : String) (n : Nat) : List Char :=
  key.toList ++ ' ' :: '=' :: ' ' :: (Nat.toDigits 10 n ++ ['\n'])

/-- A path of bare keys. -/
def dotted (path : List String) : List Char :=
  ['.'].intercalate (path.map String.toList)

/-- The header of a table, behind an empty line. -/
def headerLines (path : List String) : List Char :=
  '\n' :: '[' :: (dotted path ++ [']', '\n'])

/-- The lines of the table that stands under a path. -/
def Tree.lines (path : List String) : Tree → List Char
  | empty => []
  | number before key n => before.lines path ++ numberLine key n
  | table before key inner =>
    before.lines path ++ (headerLines (path ++ [key]) ++ inner.lines (path ++ [key]))

/-- The tree as a document. -/
def Tree.text (tree : Tree) : String :=
  String.ofList (tree.lines [])

end SplitBoard.Toml

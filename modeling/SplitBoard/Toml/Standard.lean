import SplitBoard.Toml.Document
import SplitBoard.Toml.Library

/-!
# A library for documents

A library that reads all of TOML and prints what it must. A record may also be written as an array
of its fields in the order of their declaration, which may end early, and a date in its place leaves
all of it to be filled in.
-/

namespace SplitBoard.Toml

/-- What a value has under a key or at a place, if anything. Refuses what is no table. -/
def member (value : Value) (key : String) (place : Nat) : Option (Option Value) :=
  match value with
  | .table entries => some (entries.lookup key)
  | .array items => some items[place]?
  | .dateTime => some none
  | _ => none

/-- Decode a record. -/
def Declaration.read {σ : Type} : Declaration σ → Value → Option σ
  | filledFrom default, value =>
    match value with
    | .table _ | .array _ | .dateTime => some default
    | _ => none
  | number before key bound _ set, value => do
    let s ← before.read value
    match ← member value key before.keys.length with
    | none => return s
    | some (.integer n) => if 0 ≤ n ∧ n < bound then return set s n.toNat else none
    | some _ => none
  | table before key type _ set, value => do
    let s ← before.read value
    match ← member value key before.keys.length with
    | none => return s
    | some inner => return set s (← type.read inner)

/-- The library. -/
def library : Library where
  read text := parse text.toList
  write tree := some tree.text
  decode := Declaration.read
  encode declaration s := declaration.tree (fun _ => true) s

end SplitBoard.Toml

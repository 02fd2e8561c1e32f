import SplitBoard.Toml.Container

/-!
# TOML documents

A document is a row of lines: keys with values, headers that open the table or the next table of an
array for the lines that follow, comments and blanks. The table that is open is put into its place
when the next header comes, or at the end.
-/

namespace SplitBoard.Toml

/-- A document under construction. -/
structure Reading where
  /-- The tables that are in their places. -/
  root : Draft := {}
  /-- The table that is open. -/
  current : Draft := {}
  /-- Where it belongs; nowhere for the table that the document begins with. -/
  path : List String := []
  /-- Whether it is the next table of an array. -/
  isElement : Bool := false

namespace Reading

/-- Put the open table into its place. -/
def close (reading : Reading) : Option Draft :=
  match reading.path.getLast? with
  | none => some reading.current
  | some key =>
    reading.root.descend false reading.path.dropLast fun parent =>
      if reading.isElement then parent.closeTables key reading.current
      else parent.closeTable key reading.current

/-- What a path leads to, if there is something. -/
def lookup? (draft : Draft) : List String → Option Draft
  | [] => some draft
  | key :: path =>
    match draft.find? key with
    | some (.table isImplicit isDotted entries) => lookup? ⟨isImplicit, isDotted, entries⟩ path
    | some (.tables elements) => do
      let last ← elements.getLast?
      lookup? { entries := last } path
    | _ => none

/-- A header that opens a table. -/
def openTable (reading : Reading) (path : List String) : Option Reading := do
  let key ← path.getLast?
  let root ← reading.close
  let root ← root.descend false path.dropLast some
  let (current, _) ← (← lookup? root path.dropLast).openTable key
  let root ← root.descend false path.dropLast fun parent => some (parent.erase key)
  return { root, current, path, isElement := false }

/-- A header that opens the next table of an array. -/
def openElement (reading : Reading) (path : List String) : Option Reading := do
  let key ← path.getLast?
  let root ← reading.close
  let root ← root.descend false path.dropLast (·.openTables key)
  return { root, current := {}, path, isElement := true }

/-- A key with its value. -/
def define (reading : Reading) (path : List String) (value : Value) : Option Reading := do
  return { reading with current := ← defineAt reading.current path value }

/-- One line that is not blank, and what follows it. -/
def line (reading : Reading) (text : List Char) : Option (Reading × List Char) :=
  match text with
  | '[' :: '[' :: text => do
    let (path, text) ← keyPath text
    let text ← expect ']' text
    let text ← expect ']' text
    return (← reading.openElement path, ← restOfLine? text)
  | '[' :: text => do
    let (path, text) ← keyPath text
    let text ← expect ']' text
    return (← reading.openTable path, ← restOfLine? text)
  | _ => do
    let (path, text) ← keyAndEquals text
    let (value, text) ← value text
    return (← reading.define path value, ← restOfLine? text)

/-- All lines. Fuel bounds them. -/
def lines (reading : Reading) : (fuel : Nat) → List Char → Option Reading
  | 0, _ => none
  | fuel + 1, text =>
    let text := skipSpaces text
    match text with
    | [] => some reading
    | c :: _ =>
      if c = '#' ∨ (lineEnd? text).isSome then do
        reading.lines fuel (← restOfLine? text)
      else do
        let (reading, rest) ← reading.line text
        reading.lines fuel rest

end Reading

/-- The text without the mark that may stand in front of it. -/
def dropByteOrderMark : List Char → List Char
  | '\uFEFF' :: rest => rest
  | text => text

/-- The entries of the table that a document is. -/
def parse (text : List Char) : Option Entries := do
  let text := dropByteOrderMark text
  let reading ← Reading.lines {} (text.length + 1) text
  return finishEntries (← reading.close).entries

end SplitBoard.Toml

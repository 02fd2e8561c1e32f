import SplitBoard.Toml.Value

/-!
# Building TOML tables

The tables of a document come in pieces: headers open them, dotted keys go through them, and both
may name tables that nobody has opened. **What may still be added to a table depends on how it came
about**, so a table under construction remembers whether it is there only because something inside
it was named, and whether a dotted key did so.
-/

namespace SplitBoard.Toml

/-- Something in a table under construction. -/
inductive Item where
  /-- A value that is finished. -/
  | value (value : Value)
  /-- A table that may still grow. -/
  | table (isImplicit isDotted : Bool) (entries : List (String × Item))
  /-- The tables of an array of tables, which can still get more. -/
  | tables (elements : List (List (String × Item)))

/-- A table under construction. -/
structure Draft where
  /-- Nobody has opened the table; it is there because something inside it was named. -/
  isImplicit : Bool := false
  /-- A dotted key named it. -/
  isDotted : Bool := false
  entries : List (String × Item) := []

namespace Draft

/-- The draft as something in another one. -/
def item (draft : Draft) : Item :=
  .table draft.isImplicit draft.isDotted draft.entries

/-- What stands under a key. -/
def find? (draft : Draft) (key : String) : Option Item :=
  draft.entries.lookup key

/-- Put something under a key that is not in use. The newest entry stands first. -/
def add (draft : Draft) (key : String) (item : Item) : Draft :=
  { draft with entries := (key, item) :: draft.entries }

/-- Put something under a key, in place of what stood there. -/
def put (draft : Draft) (key : String) (item : Item) : Draft :=
  if (draft.find? key).isSome then
    { draft with entries := draft.entries.map fun e => if e.1 = key then (key, item) else e }
  else draft.add key item

/-- Take away what stands under a key. -/
def erase (draft : Draft) (key : String) : Draft :=
  { draft with entries := draft.entries.filter fun e => e.1 ≠ key }

/-- Change the table that a path leads to. Tables that are missing on the way are made. The path may
belong to a dotted key, which must not go through a table that was opened. -/
def descend (dotted : Bool) (path : List String) (draft : Draft) (f : Draft → Option Draft) :
    Option Draft :=
  match path with
  | [] => f draft
  | key :: path =>
    match draft.find? key with
    | none => do
      let child ← descend dotted path { isImplicit := true, isDotted := dotted } f
      return draft.add key child.item
    | some (.value _) => none
    | some (.table isImplicit isDotted entries) => do
      if dotted && !isImplicit then none
      else
        let child ← descend dotted path ⟨isImplicit, isDotted, entries⟩ f
        return draft.put key child.item
    | some (.tables elements) => do
      let last ← elements.getLast?
      let child ← descend dotted path { entries := last } f
      return draft.put key (.tables (elements.dropLast ++ [child.entries]))

/-- Give a key a value, in the table that the keys before it lead to. A table named by dotted keys
grows by dotted keys alone, and other tables do not. -/
def define (draft : Draft) (path : List String) (key : String) (value : Value) : Option Draft :=
  draft.descend true path fun table =>
    if table.isDotted = path.isEmpty then none
    else if (table.find? key).isSome then none
    else some (table.add key (.value value))

/-- Open the table under a key. It may be there already if nobody has opened it and no dotted key
named it; what is in it stays. Gives the table and what is left without it. -/
def openTable (draft : Draft) (key : String) : Option (Draft × Draft) :=
  match draft.find? key with
  | none => some ({}, draft)
  | some (.table true false entries) => some ({ entries }, draft.erase key)
  | some _ => none

/-- Put a finished table under a key. -/
def closeTable (draft : Draft) (key : String) (table : Draft) : Option Draft :=
  match draft.find? key with
  | none => some (draft.put key table.item)
  | some (.table true _ _) => some (draft.put key table.item)
  | some _ => none

/-- See to it that there is an array of tables under a key. -/
def openTables (draft : Draft) (key : String) : Option Draft :=
  match draft.find? key with
  | none => some (draft.put key (.tables []))
  | some (.tables _) => some draft
  | some _ => none

/-- Put a finished table behind the others of an array. -/
def closeTables (draft : Draft) (key : String) (table : Draft) : Option Draft :=
  match draft.find? key with
  | none => some (draft.put key (.tables [table.entries]))
  | some (.tables elements) => some (draft.put key (.tables (elements ++ [table.entries])))
  | some _ => none

end Draft

mutual

/-- The value that an item has become. -/
def Item.finish : Item → Value
  | .value v => v
  | .table _ _ entries => .table (finishEntries entries)
  | .tables elements => .array (finishElements elements)

/-- The values that the entries of a table have become. -/
def finishEntries : List (String × Item) → Entries
  | [] => []
  | (key, item) :: rest => (key, item.finish) :: finishEntries rest

/-- The values that the tables of an array have become. -/
def finishElements : List (List (String × Item)) → List Value
  | [] => []
  | entries :: rest => .table (finishEntries entries) :: finishElements rest

end

end SplitBoard.Toml

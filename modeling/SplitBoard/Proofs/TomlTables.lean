import SplitBoard.Toml.Document
import Mathlib.Data.List.Basic

/-!
# Tables that a document opens

Putting something under a key that is free changes nothing else.  The tables around the
one that is open are a row of keys that are free (`Around`), and with the open table in
its place they are the whole document (`plug`).  Going down the row leads to the table
and changes it alone (`descend_plug`), so **a table under a free key is opened empty and
closed into its place**, however deep it is (`openTable_of_close`, `close_opened`).
-/

namespace SplitBoard.Toml

theorem lookup_cons_eq_ite {α : Type} (key name : String) (a : α) (entries : List (String × α)) :
    ((name, a) :: entries).lookup key = if key = name then some a else entries.lookup key := by
  rw [List.lookup_cons]
  by_cases same : key = name
  · rw [if_pos same, beq_iff_eq.mpr same]
  · rw [if_neg same, beq_eq_false_iff_ne.mpr same]

namespace Draft

variable {draft : Draft} {key : String}

theorem find?_add (draft : Draft) (key : String) (item : Item) (other : String) :
    (draft.add key item).find? other = if other = key then some item else draft.find? other :=
  lookup_cons_eq_ite other key item draft.entries

theorem put_of_find?_eq_none (free : draft.find? key = none) (item : Item) :
    draft.put key item = draft.add key item := by
  simp [put, free]

theorem ne_of_find?_eq_none (free : draft.find? key = none) : ∀ e ∈ draft.entries, e.1 ≠ key := by
  intro e among same
  have differs := List.lookup_eq_none_iff.mp free e among
  simp [same] at differs

theorem erase_of_find?_eq_none (free : draft.find? key = none) : draft.erase key = draft := by
  have kept : draft.entries.filter (fun e => e.1 ≠ key) = draft.entries :=
    List.filter_eq_self.mpr fun e among => decide_eq_true (ne_of_find?_eq_none free e among)
  rw [erase, kept]

theorem put_add (free : draft.find? key = none) (old new : Item) :
    (draft.add key old).put key new = draft.add key new := by
  have others : draft.entries.map (fun e => if e.1 = key then (key, new) else e) =
      draft.entries :=
    (List.map_congr_left fun e among =>
      if_neg (ne_of_find?_eq_none free e among)).trans (List.map_id _)
  rw [put, find?_add, if_pos rfl, Option.isSome_some, if_pos rfl]
  simp only [add, List.map_cons, if_true, others]

/-- A table that was just added can be gone into, and is replaced. -/
theorem descend_add {table : Draft} (free : draft.find? key = none) (f : Draft → Option Draft) :
    (draft.add key table.item).descend false [key] f =
      (f table).map fun child => draft.add key child.item := by
  have found : (draft.add key table.item).find? key = some table.item := by
    rw [find?_add, if_pos rfl]
  rw [descend, found]
  change (f table).bind (fun child => some ((draft.add key table.item).put key child.item)) = _
  simp only [put_add free]
  exact Option.map_eq_bind.symm

/-- A path is gone down in two parts. -/
theorem descend_append (dotted : Bool) (path keys : List String) (draft : Draft)
    (f : Draft → Option Draft) :
    draft.descend dotted (path ++ keys) f =
      draft.descend dotted path fun table => table.descend dotted keys f := by
  induction path generalizing draft with
  | nil => rfl
  | cons key path ih =>
    simp only [List.cons_append, descend, ih]

end Draft

/-! ## The tables around the open one -/

/-- The tables around a table, from the inside out, each with the key of the one inside it. -/
abbrev Around : Type := List (String × Draft)

namespace Around

/-- The tables with another one in its place. -/
def plug : Around → Draft → Draft
  | [], table => table
  | (key, outer) :: around, table => plug around (outer.add key table.item)

/-- The keys that lead to the place. -/
def path : Around → List String
  | [] => []
  | (key, _) :: around => path around ++ [key]

/-- All places are free. -/
def Free (around : Around) : Prop :=
  ∀ e ∈ around, e.2.find? e.1 = none

variable {around : Around}

theorem descend_plug (free : around.Free) (table : Draft) (f : Draft → Option Draft) :
    (around.plug table).descend false around.path f = (f table).map around.plug := by
  induction around generalizing table f with
  | nil => exact Option.map_id_apply.symm
  | cons place around ih =>
    obtain ⟨key, outer⟩ := place
    obtain ⟨here, others⟩ := List.forall_mem_cons.mp free
    rw [path, Draft.descend_append, plug, ih others, Draft.descend_add here, Option.map_map]
    rfl

theorem lookup?_append (path keys : List String) (draft : Draft) :
    Reading.lookup? draft (path ++ keys) =
      (Reading.lookup? draft path).bind fun table => Reading.lookup? table keys := by
  induction path generalizing draft with
  | nil => rfl
  | cons key path ih =>
    simp only [List.cons_append, Reading.lookup?]
    split
    · exact ih _
    · simp only [ih, Option.bind_eq_bind, Option.bind_assoc]
    · rfl

theorem lookup?_plug (around : Around) (table : Draft) :
    Reading.lookup? (around.plug table) around.path = some table := by
  induction around generalizing table with
  | nil => rfl
  | cons place around ih =>
    obtain ⟨key, outer⟩ := place
    rw [path, lookup?_append, plug, ih, Option.bind_some, Reading.lookup?, Draft.find?_add,
      if_pos rfl]
    rfl

/-- A reading with the table open. -/
def opened (around : Around) (table : Draft) : Reading :=
  match around with
  | [] => { current := table }
  | (key, outer) :: around =>
    { root := plug around outer, current := table, path := path around ++ [key] }

theorem close_opened (free : around.Free) (table : Draft) :
    (around.opened table).close = some (around.plug table) := by
  cases around with
  | nil => rfl
  | cons place around =>
    obtain ⟨key, outer⟩ := place
    obtain ⟨here, others⟩ := List.forall_mem_cons.mp free
    simp only [opened, Reading.close, List.getLast?_concat, List.dropLast_concat,
      descend_plug others, Bool.false_eq_true, if_false, Draft.closeTable,
      show outer.find? key = none from here, Draft.put_of_find?_eq_none here]
    rfl

/-- What was open is closed first, wherever it was. -/
theorem openTable_of_close {reading : Reading} {table : Draft} {key : String}
    (closed : reading.close = some (around.plug table)) (free : around.Free)
    (fresh : table.find? key = none) :
    reading.openTable (around.path ++ [key]) = some (opened ((key, table) :: around) {}) := by
  simp only [Reading.openTable, List.getLast?_concat, List.dropLast_concat, closed,
    Option.bind_eq_bind, Option.bind_some, descend_plug free, Option.map_some, lookup?_plug,
    Draft.openTable, fresh, Draft.erase_of_find?_eq_none fresh]
  rfl

end Around

theorem Reading.define_key {reading : Reading} {key : String}
    (plain : reading.current.isDotted = false) (free : reading.current.find? key = none)
    (value : Value) :
    reading.define [key] value =
      some { reading with current := reading.current.add key (.value value) } := by
  simp [define, defineAt, Draft.define, Draft.descend, plain, free]

end SplitBoard.Toml

import SplitBoard.IntelHex.Segments

/-!
# What the records of a file load

A record file is a list of instructions: a record of data puts bytes behind the
base in force, a base record moves the base.  Its meaning is the list of runs of
bytes that it loads, in the order of the file (`loads`), and of several runs that
cover an address **the last one decides** (`byteAt?`).

The reader keeps fewer runs than the file loads, since it goes on with the one
read last where it can.  What it keeps still has the same byte everywhere, and the
same ends (`StandsFor`): whatever it reads next, this stays so
(`StandsFor.take`, `StandsFor.takeLines`).
-/

namespace SplitBoard.IntelHex

/-! ## Records -/

/-- The record on a line, if there is a right one. -/
def recordOn? (line : List Char) : Option Record :=
  match Text.trim line with
  | [] => none
  | text => (Record.parse text).toOption

/-- The records on lines, up to the one that ends the file. -/
def recordsOn (lines : List (List Char)) : List Record :=
  (lines.filterMap recordOn?).takeWhile (· ≠ .endOfFile)

theorem recordsOn_blank {line : List Char} {rest : List (List Char)} (blank : Text.trim line = []) :
    recordsOn (line :: rest) = recordsOn rest := by
  have none : recordOn? line = none := by simp only [recordOn?, blank]
  rw [recordsOn, List.filterMap_cons_none none, ← recordsOn]

theorem recordsOn_cons {line : List Char} {rest : List (List Char)} {record : Record}
    (full : Text.trim line ≠ []) (parsed : Record.parse (Text.trim line) = .ok record) :
    recordsOn (line :: rest) = if record = .endOfFile then [] else record :: recordsOn rest := by
  have some : recordOn? line = some record := by
    simp only [recordOn?, parsed]
    rfl
  rw [recordsOn, List.filterMap_cons_some some, List.takeWhile_cons, ← recordsOn]
  by_cases last : record = .endOfFile <;> simp [last]

/-! ## Loads -/

/-- The base in force behind a record. -/
def Record.baseAfter (base : Nat) : Record → Nat
  | .segmentBase paragraph => paragraph.toNat * 0x10
  | .linearBase page => page.toNat * 0x10000
  | _ => base

/-- The bytes that a record loads, from its load address on. -/
def Record.load? (base : Nat) : Record → Option Segment
  | .data address bytes => some ⟨base + address.toNat, bytes.toArray⟩
  | _ => none

/-- What records load, the first of them with the given base in force. -/
def loadsFrom (base : Nat) : List Record → List Segment
  | [] => []
  | record :: rest => (record.load? base).toList ++ loadsFrom (record.baseAfter base) rest

/-- What a file loads. -/
def loads (text : List Char) : List Segment :=
  loadsFrom 0 (recordsOn (Text.lines text))

namespace Segment

/-- The address behind the last byte. -/
def stop (segment : Segment) : Nat :=
  segment.address + segment.data.size

/-- The byte that a segment has at an address. -/
def byteAt? (segment : Segment) (a : Nat) : Option UInt8 :=
  if segment.address ≤ a then segment.data[a - segment.address]? else none

theorem stop?_eq_some_iff {segment : Segment} {stop : Nat} :
    segment.stop? = some stop ↔ segment.stop = stop ∧ stop < addressLimit := by
  unfold stop? Segment.stop
  dsimp only
  split
  · next inside =>
    rw [Option.some_inj]
    exact ⟨fun here => ⟨here, here ▸ inside⟩, fun here => here.1⟩
  · next outside =>
    refine ⟨nofun, fun here => absurd (here.1 ▸ here.2) outside⟩

theorem append_list (data : Array UInt8) (bytes : List UInt8) :
    data ++ bytes = data ++ bytes.toArray := by
  rw [← Array.toList_inj, Array.toList_appendList, Array.toList_append]

/-- A segment that goes on has the new bytes behind the old ones. -/
theorem byteAt?_append (address : Nat) (data : Array UInt8) (bytes : List UInt8) (a : Nat) :
    byteAt? ⟨address, data ++ bytes⟩ a =
      (byteAt? ⟨address + data.size, bytes.toArray⟩ a).or (byteAt? ⟨address, data⟩ a) := by
  simp only [byteAt?, append_list, Array.getElem?_append]
  by_cases before : a < address
  · rw [if_neg (by omega), if_neg (by omega), if_neg (by omega)]
    rfl
  · by_cases old : a - address < data.size
    · rw [if_pos (by omega), if_pos old, if_neg (by omega), if_pos (by omega), Option.none_or]
    · rw [if_pos (by omega), if_neg old, if_pos (by omega), if_pos (by omega),
        Array.getElem?_eq_none (show data.size ≤ a - address by omega), Option.or_none, Nat.sub_sub]

end Segment

/-- The byte at an address once runs of bytes were loaded one after the other. -/
def byteAt? (segments : List Segment) (a : Nat) : Option UInt8 :=
  segments.reverse.findSome? (·.byteAt? a)

theorem findSome?_cons_eq_or {α β : Type} (f : α → Option β) (a : α) (rest : List α) :
    (a :: rest).findSome? f = (f a).or (rest.findSome? f) := by
  rw [List.findSome?_cons]
  cases f a <;> rfl

theorem exists_mem_cons_of_exists {α : Type} {p : α → Prop} {a : α} {l : List α}
    (h : ∃ x ∈ l, p x) : ∃ x ∈ a :: l, p x :=
  h.imp fun _ found => ⟨List.mem_cons_of_mem _ found.1, found.2⟩

/-! ## Reading -/

/-- Segments that amount to what was loaded, both newest first. -/
structure StandsFor (segments loaded : List Segment) : Prop where
  bytes : ∀ a, segments.findSome? (·.byteAt? a) = loaded.findSome? (·.byteAt? a)
  begins : ∀ segment ∈ segments, ∃ load ∈ loaded, load.address = segment.address
  ends : ∀ segment ∈ segments, ∃ load ∈ loaded, load.stop = segment.stop
  within : ∀ load ∈ loaded, ∃ segment ∈ segments,
    segment.address ≤ load.address ∧ load.stop ≤ segment.stop

namespace StandsFor

theorem nil : StandsFor [] [] :=
  ⟨fun _ => rfl, nofun, nofun, nofun⟩

variable {segments loaded : List Segment}

/-- A segment of its own. -/
theorem cons (before : StandsFor segments loaded) (load : Segment) :
    StandsFor (load :: segments) (load :: loaded) := by
  constructor
  case bytes =>
    intro a
    rw [findSome?_cons_eq_or, findSome?_cons_eq_or, before.bytes a]
  case begins =>
    exact List.forall_mem_cons.mpr ⟨⟨load, List.mem_cons_self, rfl⟩,
      fun segment old => exists_mem_cons_of_exists ((before.begins segment old))⟩
  case ends =>
    exact List.forall_mem_cons.mpr ⟨⟨load, List.mem_cons_self, rfl⟩,
      fun segment old => exists_mem_cons_of_exists ((before.ends segment old))⟩
  case within =>
    have itself : load.address ≤ load.address ∧ load.stop ≤ load.stop :=
      ⟨Nat.le_refl _, Nat.le_refl _⟩
    exact List.forall_mem_cons.mpr ⟨⟨load, List.mem_cons_self, itself⟩,
      fun load' old => exists_mem_cons_of_exists ((before.within load' old))⟩

/-- Bytes that go on with the newest segment: it begins where it did, and ends where they do. -/
theorem goOn {last : Segment} {earlier : List Segment}
    (before : StandsFor (last :: earlier) loaded) (bytes : List UInt8) :
    StandsFor (⟨last.address, last.data ++ bytes⟩ :: earlier)
      (⟨last.stop, bytes.toArray⟩ :: loaded) := by
  have stop : Segment.stop ⟨last.address, last.data ++ bytes⟩ =
      Segment.stop ⟨last.stop, bytes.toArray⟩ := by
    simp only [Segment.stop, Segment.append_list, Array.size_append, Nat.add_assoc]
  have longer : last.stop ≤ Segment.stop ⟨last.stop, bytes.toArray⟩ := Nat.le_add_right _ _
  constructor
  case bytes =>
    intro a
    rw [findSome?_cons_eq_or, findSome?_cons_eq_or, ← before.bytes a, findSome?_cons_eq_or,
      Segment.byteAt?_append, Option.or_assoc]
    rfl
  case begins =>
    obtain ⟨beginsLast, beginsEarlier⟩ := List.forall_mem_cons.mp before.begins
    exact List.forall_mem_cons.mpr ⟨exists_mem_cons_of_exists (beginsLast),
      fun segment old => exists_mem_cons_of_exists ((beginsEarlier segment old))⟩
  case ends =>
    have endsEarlier := (List.forall_mem_cons.mp before.ends).2
    exact List.forall_mem_cons.mpr ⟨⟨_, List.mem_cons_self, stop.symm⟩,
      fun segment old => exists_mem_cons_of_exists ((endsEarlier segment old))⟩
  case within =>
    rw [List.forall_mem_cons]
    constructor
    · exact ⟨_, List.mem_cons_self, Nat.le_add_right _ _, Nat.le_of_eq stop.symm⟩
    · intro load old
      obtain ⟨segment, member, low, high⟩ := before.within load old
      rcases List.mem_cons.mp member with rfl | among
      · exact ⟨_, List.mem_cons_self, low, stop ▸ Nat.le_trans high longer⟩
      · exact ⟨segment, List.mem_cons_of_mem _ among, low, high⟩

/-- Data read go to where the base and their address say. -/
theorem place {reading reading' : Reading} {address : UInt16} {bytes : List UInt8}
    (before : StandsFor reading.segments loaded)
    (placed : reading.place address bytes = .ok reading') :
    reading'.base = reading.base ∧
      StandsFor reading'.segments (⟨reading.base + address.toNat, bytes.toArray⟩ :: loaded) := by
  unfold Reading.place at placed
  dsimp only at placed
  split at placed
  case h_1 none =>
    cases placed
    rw [none] at before
    exact ⟨rfl, before.cons _⟩
  case h_2 last earlier segments =>
    rw [segments] at before
    split at placed
    case h_1 => cases placed
    case h_2 stop stops =>
      split at placed
      · next here =>
        cases placed
        obtain ⟨rfl, -⟩ := Segment.stop?_eq_some_iff.mp stops
        rw [here]
        exact ⟨rfl, before.goOn bytes⟩
      · cases placed
        exact ⟨rfl, before.cons _⟩

/-- One record does to the segments what it says. -/
theorem take {reading reading' : Reading} {record : Record}
    (before : StandsFor reading.segments loaded) (taken : reading.take record = .ok reading') :
    reading'.base = record.baseAfter reading.base ∧
      StandsFor reading'.segments ((record.load? reading.base).toList ++ loaded) := by
  cases record with
  | data address bytes => exact before.place taken
  | segmentBase paragraph | linearBase page | startAddress | endOfFile =>
    cases taken
    exact ⟨rfl, before⟩

/-- **The lines of a file leave the reader with segments that stand for what they load.** -/
theorem takeLines {reading reading' : Reading} {number : Nat} {lines : List (List Char)}
    (before : StandsFor reading.segments loaded)
    (taken : reading.takeLines number lines = .ok reading') :
    StandsFor reading'.segments
      ((loadsFrom reading.base (recordsOn lines)).reverse ++ loaded) := by
  induction lines generalizing reading number loaded with
  | nil =>
    cases taken
    exact before
  | cons line rest ih =>
    unfold Reading.takeLines at taken
    split at taken
    case h_1 blank =>
      rw [recordsOn_blank blank]
      exact ih before taken
    case h_2 full =>
      split at taken
      case h_1 => cases taken
      case h_2 last =>
        cases taken
        rw [recordsOn_cons full last]
        exact before
      case h_3 record more parsed =>
        -- the record is taken in, and the rest is read with what it leaves
        cases one : reading.take record with
        | error fault =>
          rw [one] at taken
          cases taken
        | ok next =>
          rw [one] at taken
          obtain ⟨base, stands⟩ := before.take one
          rw [recordsOn_cons full parsed, if_neg more, loadsFrom, ← base, List.reverse_append,
            List.append_assoc]
          have atMostOne : (record.load? reading.base).toList.reverse =
              (record.load? reading.base).toList := by
            cases record.load? reading.base <;> rfl
          rw [atMostOne]
          exact ih stands taken

end StandsFor
end SplitBoard.IntelHex

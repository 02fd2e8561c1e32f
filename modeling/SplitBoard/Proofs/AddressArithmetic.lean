import SplitBoard.Proofs.HexGrammar
import SplitBoard.Proofs.HexImage

/-!
# Sums of addresses

Addresses have 32 bits, and a reader of record files adds them up in three places:
a base and the address of a record, the end of the segment read last, and the ends
of all segments when they are laid out.  **The first sum always fits**
(`address_lt_of_mem_loads`).  The ends do not: data may go up to the last address,
and then there is none behind them.  That is the only way in which reading, laying
out or loading a file fails for another reason than what the file says
(`addresses_outgrown`).

Wherever the ends fit, so does what is computed from them: the differences are no
negative numbers, every segment has its place among the bytes laid out, and the
base of an image that is loaded is the lowest address of its data.
-/

namespace SplitBoard.IntelHex

open Text

/-! ## Load addresses -/

theorem baseAfter_lt {base : Nat} (record : Record) (small : base ≤ 0xFFFF0000) :
    record.baseAfter base ≤ 0xFFFF0000 := by
  cases record with
  | segmentBase paragraph =>
    have bound := paragraph.toNat_lt
    change paragraph.toNat * 0x10 ≤ _
    omega
  | linearBase page =>
    have bound := page.toNat_lt
    change page.toNat * 0x10000 ≤ _
    omega
  | data | endOfFile | startAddress => exact small

/-- A base leaves room for the address of a record. -/
theorem address_lt_of_mem_loadsFrom {base : Nat} {records : List Record} {load : Segment}
    (small : base ≤ 0xFFFF0000) (member : load ∈ loadsFrom base records) :
    load.address < addressLimit := by
  induction records generalizing base with
  | nil => cases member
  | cons record rest ih =>
    rcases List.mem_append.mp member with here | later
    · rw [Option.mem_toList] at here
      cases record with
      | data address bytes =>
        cases here
        have bound := address.toNat_lt
        change base + address.toNat < 0x100000000
        omega
      | segmentBase | linearBase | startAddress | endOfFile => cases here
    · exact ih (baseAfter_lt record small) later

theorem address_lt_of_mem_loads {text : List Char} {load : Segment} (member : load ∈ loads text) :
    load.address < addressLimit :=
  address_lt_of_mem_loadsFrom (Nat.zero_le _) member

/-! ## Reading -/

/-- The data of a record lie inside its bytes, between four bytes in front and one behind, or the
record is refused for its length. -/
theorem length_eq_or_refused (bytes : List UInt8) :
    bytes.length = 5 + (bytes.getD 0 0).toNat ∨ Record.ofBytes bytes = .error .tooShort ∨
      ∃ expected actual, Record.ofBytes bytes = .error (.wrongCount expected actual) := by
  rcases bytes with _ | ⟨count, _ | ⟨high, _ | ⟨low, _ | ⟨type, rest⟩⟩⟩⟩
  case cons.cons.cons.cons =>
    unfold Record.ofBytes
    dsimp only
    by_cases short : rest = []
    · rw [if_pos short]
      exact .inr (.inl rfl)
    by_cases count_eq : rest.length = count.toNat + 1
    · left
      simp only [List.length_cons, List.getD_cons_zero]
      omega
    · rw [if_neg short, if_pos count_eq]
      exact .inr (.inr ⟨_, _, rfl⟩)
  all_goals exact .inr (.inl rfl)

/-- The line is blank or has a record. -/
def lineIsRight (line : List Char) : Bool :=
  trim line = [] ∨ (recordOn? line).isSome

/-- What a file loads before the first line that is at fault. -/
def loadsBeforeFault (text : List Char) : List Segment :=
  loadsFrom 0 (recordsOn ((lines text).takeWhile lineIsRight))

section Reading
variable {line : List Char} {record : Record} {fault : LineFault}

theorem lineIsRight_blank (blank : trim line = []) : lineIsRight line = true :=
  decide_eq_true (.inl blank)

theorem lineIsRight_record (full : trim line ≠ []) (parsed : Record.parse (trim line) = .ok record) :
    lineIsRight line = true := by
  refine decide_eq_true (.inr ?_)
  simp only [recordOn?, parsed]
  rfl

theorem not_lineIsRight_fault (full : trim line ≠ [])
    (parsed : Record.parse (trim line) = .error fault) : ¬lineIsRight line = true := by
  rw [lineIsRight, decide_eq_true_eq]
  rintro (blank | some)
  · exact full blank
  · simp only [recordOn?, parsed] at some
    cases some

/-- Reading runs out of addresses exactly where data follow data that reach their end, and no line
before them is at fault.  The cases are those of `Reading.takeLines_outcome`. -/
theorem Reading.takeLines_eq_overflow_iff (reading : Reading) (number : Nat)
    (lines : List (List Char)) :
    reading.takeLines number lines = .error .addressOverflow ↔
      ¬Roomy (reading.stops (lines.takeWhile lineIsRight)) := by
  -- as long as nothing is loaded behind the run that was read last, there is room
  have room (reading : Reading) : ¬¬Roomy (reading.lastStop ++ []) :=
    not_not_intro (roomy_lastStop reading)
  induction lines generalizing reading number with
  | nil =>
    refine iff_of_false ?_ (room reading)
    rintro ⟨⟩
  | cons line rest ih =>
    by_cases blank : trim line = []
    · rw [takeLines_blank reading number blank, List.takeWhile_cons_of_pos (lineIsRight_blank blank),
        stops, recordsOn_blank blank]
      exact ih reading (number + 1)
    rcases parsed : Record.parse (trim line) with fault | record
    · rw [takeLines_fault reading number blank parsed,
        List.takeWhile_cons_of_neg (not_lineIsRight_fault blank parsed)]
      refine iff_of_false ?_ (room reading)
      rintro ⟨⟩
    rw [List.takeWhile_cons_of_pos (lineIsRight_record blank parsed), stops,
      recordsOn_cons blank parsed]
    by_cases last : record = .endOfFile
    · subst last
      rw [takeLines_last reading number parsed, if_pos rfl]
      refine iff_of_false ?_ (room reading)
      rintro ⟨⟩
    · rw [takeLines_record reading number parsed last, if_neg last, loadsFrom, List.map_append]
      rcases reading.take_cases record ((loadsFrom (record.baseAfter reading.base)
        (recordsOn (rest.takeWhile lineIsRight))).map Segment.stop) with
        ⟨next, taken, base, room⟩ | ⟨full, noRoom⟩
      · rw [taken, room, ← base]
        exact ih next (number + 1)
      · rw [full]
        exact iff_of_true rfl noRoom

theorem parse_eq (text : List Char) :
    parse text = (Reading.takeLines {} 1 (lines text)).map (·.segments.reverse) := by
  unfold parse
  cases Reading.takeLines {} 1 (lines text) <;> rfl

theorem parse_eq_overflow_iff (text : List Char) : parse text = .error .addressOverflow ↔
    ¬Roomy ((loadsBeforeFault text).map Segment.stop) := by
  have read := Reading.takeLines_eq_overflow_iff {} 1 (lines text)
  rw [parse_eq, loadsBeforeFault]
  change _ ↔ ¬Roomy (Reading.stops {} ((lines text).takeWhile lineIsRight))
  rw [← read]
  rcases Reading.takeLines {} 1 (lines text) with fault | reading
  · constructor
    · rintro ⟨⟩
      rfl
    · rintro ⟨⟩
      rfl
  · exact ⟨nofun, nofun⟩

/-- A file without data at the last address is read as far as its lines go. -/
theorem parse_ne_overflow {text : List Char} (reach : ∀ load ∈ loads text, load.stop < addressLimit) :
    parse text ≠ .error .addressOverflow := by
  intro overflow
  rw [parse_eq] at overflow
  have room : Roomy (Reading.stops {} (lines text)) := by
    intro stop member
    obtain ⟨load, inLoads, rfl⟩ := List.mem_map.mp (List.dropLast_subset _ member)
    exact reach load inLoads
  rcases Reading.takeLines_outcome {} 1 (lines text) with
    ⟨⟨_, taken⟩, -⟩ | ⟨⟨_, _, taken⟩, -⟩ | ⟨-, noRoom⟩
  · rw [taken] at overflow
    cases overflow
  · rw [taken] at overflow
    cases overflow
  · exact noRoom room

end Reading

/-! ## Laying out -/

/-- Segments that have their places among bytes from a base address on.  Differences are taken only
of addresses that are in order, and there is an address behind all of them. -/
structure LaidOut (segments : List Segment) (flat : Flat) : Prop where
  above : ∀ segment ∈ segments, flat.base ≤ segment.address
  inside : ∀ segment ∈ segments,
    segment.address - flat.base + segment.data.size ≤ flat.data.size
  stop_lt : flat.base + flat.data.size < addressLimit

section Flatten
variable {segments : List Segment} {text : List Char}

theorem mapM_stop?_eq_none_iff :
    segments.mapM Segment.stop? = none ↔ ∃ segment ∈ segments, addressLimit ≤ segment.stop := by
  constructor
  · intro none
    by_contra all
    have reach : ∀ segment ∈ segments, segment.stop < addressLimit := fun segment member =>
      Nat.lt_of_not_le fun large => all ⟨segment, member, large⟩
    cases none.symm.trans (mapM_stop? reach)
  · rintro ⟨segment, member, large⟩
    induction segments with
    | nil => cases member
    | cons first rest ih =>
      rw [List.mapM_cons]
      rcases stop : first.stop? with _ | stop
      · rfl
      · have small := (Segment.stop?_eq_some_iff.mp stop)
        rcases List.mem_cons.mp member with rfl | later
        · omega
        · rw [ih later]
          rfl

theorem extent_eq_overflow_iff : extent segments = .error .addressOverflow ↔
    ∃ segment ∈ segments, addressLimit ≤ segment.stop := by
  rw [← mapM_stop?_eq_none_iff]
  rcases segments with _ | ⟨first, rest⟩
  · exact ⟨nofun, nofun⟩
  · unfold extent
    rcases (first :: rest).mapM Segment.stop? with _ | stops
    · exact ⟨fun _ => rfl, fun _ => rfl⟩
    · exact ⟨nofun, nofun⟩

theorem flatten_eq_error_iff (blank : UInt8) {fault : Fault} :
    flatten segments blank = .error fault ↔ extent segments = .error fault := by
  unfold flatten
  rcases extent segments with cause | span
  · constructor
    · rintro ⟨⟩
      rfl
    · rintro ⟨⟩
      rfl
  · exact ⟨nofun, nofun⟩

/-- Laying segments out fails only for want of segments, or of an address behind one. -/
theorem laidOut_of_flatten {blank : UInt8} {flat : Flat} (h : flatten segments blank = .ok flat) :
    LaidOut segments flat := by
  have any : segments ≠ [] := by
    rintro rfl
    cases h
  have reach : ∀ segment ∈ segments, segment.stop < addressLimit := by
    intro segment member
    by_contra large
    have overflow := (flatten_eq_error_iff blank).mpr
      (extent_eq_overflow_iff.mpr ⟨segment, member, Nat.le_of_not_lt large⟩)
    cases h.symm.trans overflow
  obtain ⟨span, span_eq, spans⟩ := extent_eq any reach
  rw [flatten, span_eq] at h
  cases h
  constructor
  case above => exact fun segment member => (spans.inside segment member).1
  case inside =>
    intro segment member
    have within := spans.inside segment member
    rw [Segment.stop] at within
    dsimp only
    rw [size_layOut, Extent.size]
    omega
  case stop_lt =>
    obtain ⟨highest, member, ends⟩ := spans.highest
    have small := reach highest member
    have within := spans.inside highest member
    have longer : highest.address ≤ highest.stop := Nat.le_add_right _ _
    dsimp only
    rw [size_layOut, Extent.size]
    omega

/-- A segment begins where something is loaded. -/
theorem address_lt_of_mem_parse {segment : Segment} (parsed : parse text = .ok segments)
    (member : segment ∈ segments) : segment.address < addressLimit := by
  obtain ⟨load, inLoads, same⟩ :=
    (standsFor_parse parsed).begins segment (List.mem_reverse.mpr member)
  exact same ▸ address_lt_of_mem_loads (List.mem_reverse.mp inLoads)

/-- The segments of a file reach the end of the addresses exactly if something that it loads does. -/
theorem exists_stop_iff (parsed : parse text = .ok segments) :
    (∃ segment ∈ segments, addressLimit ≤ segment.stop) ↔
      ∃ load ∈ loads text, addressLimit ≤ load.stop := by
  have stands := standsFor_parse parsed
  constructor
  · rintro ⟨segment, member, large⟩
    obtain ⟨load, inLoads, same⟩ := stands.ends segment (List.mem_reverse.mpr member)
    exact ⟨load, List.mem_reverse.mp inLoads, same ▸ large⟩
  · rintro ⟨load, member, large⟩
    obtain ⟨segment, inSegments, -, high⟩ := stands.within load (List.mem_reverse.mpr member)
    exact ⟨segment, List.mem_reverse.mp inSegments, Nat.le_trans large high⟩

end Flatten

end SplitBoard.IntelHex

namespace SplitBoard.Firmware

open IntelHex

/-! ## Loading -/

/-- Loading failed for want of an address. -/
inductive LoadError.Outgrows : LoadError → Prop where
  | reading : Outgrows (.badHex .addressOverflow)
  | layingOut : Outgrows (.badSegments .addressOverflow)

/-- The text of a record file reaches the end of the addresses, and reading or laying out asks for
what is behind it. -/
def OutgrowsAddresses (text : List Char) (blank : UInt8) : Prop :=
  parse text = .error .addressOverflow ∨
    ∃ segments, parse text = .ok segments ∧ flatten segments blank = .error .addressOverflow

/-- A loaded image is the file itself at the base given for it, or what the segments of the file
amount to, at the lowest of their addresses. -/
def LoadsAsIs (file : Array UInt8) (isHex : Bool) (base : UInt16) (blank : UInt8)
    (image : LoadedImage) : Prop :=
  isHex = false ∧ image = ⟨base, file⟩ ∨
    isHex = true ∧ ∃ text segments flat, Text.decodeUtf8 file.toList = .ok text ∧
      parse text = .ok segments ∧ flatten segments blank = .ok flat ∧
      image.base.toNat = flat.base ∧ image.data = flat.data

section Load
variable {file : Array UInt8} {base : UInt16} {blank : UInt8} {text : List Char}

/-- What is too large for the flash need not be too large for an address. -/
theorem not_outgrows_checkExtent {start size : Nat} {failure : LoadError}
    (h : checkExtent start size = .error failure) : ¬failure.Outgrows := by
  unfold checkExtent at h
  split at h
  · cases h
    exact nofun
  split at h
  · cases h
    exact nofun
  · cases h

theorem not_outgrows_loadFlat {flat : Flat} {failure : LoadError}
    (h : loadFlat flat = .error failure) : ¬failure.Outgrows := by
  unfold loadFlat at h
  rcases checked : checkExtent flat.base flat.data.size with cause | _
  · rw [checked] at h
    cases h
    exact not_outgrows_checkExtent checked
  · rw [checked] at h
    cases h

/-- Plain bytes are one run of bytes. -/
theorem loadPlain_eq (file : Array UInt8) (base : UInt16) :
    loadPlain file base = loadFlat ⟨base.toNat, file⟩ := by
  unfold loadPlain loadFlat
  rw [UInt16.ofNat_toNat]

theorem loadHex_outgrows_iff (decoded : Text.decodeUtf8 file.toList = .ok text) :
    (∃ failure, loadHex file blank = .error failure ∧ failure.Outgrows) ↔
      OutgrowsAddresses text blank := by
  unfold OutgrowsAddresses
  rcases parsed : parse text with fault | segments
  · have failed : loadHex file blank = .error (.badHex fault) := by
      rw [loadHex, decoded]
      change ((parse text).mapError LoadError.badHex >>= _) = _
      rw [parsed]
      rfl
    rw [failed]
    constructor
    · rintro ⟨_, ⟨⟩, ⟨⟩⟩
      exact .inl rfl
    · rintro (⟨⟨⟩⟩ | ⟨_, ⟨⟩, _⟩)
      exact ⟨_, rfl, .reading⟩
  · rw [loadHex_eq decoded parsed]
    rcases laid : flatten segments blank with fault | flat
    · constructor
      · rintro ⟨_, ⟨⟩, ⟨⟩⟩
        exact .inr ⟨segments, rfl, laid⟩
      · rintro (⟨⟨⟩⟩ | ⟨_, ⟨⟩, overflow⟩)
        cases laid.symm.trans overflow
        exact ⟨_, rfl, .layingOut⟩
    · constructor
      · rintro ⟨failure, failed, outgrows⟩
        exact absurd outgrows (not_outgrows_loadFlat failed)
      · rintro (⟨⟨⟩⟩ | ⟨_, ⟨⟩, overflow⟩)
        cases laid.symm.trans overflow

/-- Loading runs out of addresses where reading or laying out does, and nowhere else. -/
theorem load_outgrows_iff (file : Array UInt8) (isHex : Bool) (base : UInt16) (blank : UInt8) :
    (∃ failure, load file isHex base blank = .error failure ∧ failure.Outgrows) ↔
      isHex = true ∧ ∃ text, Text.decodeUtf8 file.toList = .ok text ∧
        OutgrowsAddresses text blank := by
  cases isHex with
  | false =>
    refine iff_of_false ?_ nofun
    rintro ⟨failure, failed, outgrows⟩
    rw [load, if_neg Bool.false_ne_true, loadPlain_eq] at failed
    exact not_outgrows_loadFlat failed outgrows
  | true =>
    change (∃ failure, loadHex file blank = .error failure ∧ failure.Outgrows) ↔ _
    rcases decoded : Text.decodeUtf8 file.toList with malformed | text
    · refine iff_of_false ?_ ?_
      · rintro ⟨failure, failed, outgrows⟩
        rw [loadHex, decoded] at failed
        cases failed
        cases outgrows
      · rintro ⟨-, _, ⟨⟩, _⟩
    · rw [loadHex_outgrows_iff decoded]
      constructor
      · exact fun outgrows => ⟨rfl, text, rfl, outgrows⟩
      · rintro ⟨-, _, ⟨⟩, outgrows⟩
        exact outgrows

theorem loadsAsIs_of_load {isHex : Bool} {image : LoadedImage}
    (h : load file isHex base blank = .ok image) : LoadsAsIs file isHex base blank image := by
  cases isHex with
  | false =>
    rw [load, if_neg Bool.false_ne_true, loadPlain_eq] at h
    obtain ⟨-, rfl⟩ := loadFlat_ok_iff.mp h
    exact .inl ⟨rfl, by rw [UInt16.ofNat_toNat]⟩
  | true =>
    rw [load, if_pos rfl] at h
    rcases decoded : Text.decodeUtf8 file.toList with malformed | text
    · rw [loadHex, decoded] at h
      cases h
    rcases parsed : parse text with fault | segments
    · rw [loadHex, decoded] at h
      change ((parse text).mapError LoadError.badHex >>= _) = _ at h
      rw [parsed] at h
      cases h
    rw [loadHex_eq decoded parsed] at h
    rcases laid : flatten segments blank with fault | flat
    · rw [laid] at h
      cases h
    · rw [laid] at h
      obtain ⟨⟨full, fits⟩, rfl⟩ := loadFlat_ok_iff.mp h
      have inFlash : flat.base < addressSpace := by omega
      exact .inr ⟨rfl, text, segments, flat, decoded, parsed, laid,
        UInt16.toNat_ofNat_of_lt' inFlash, rfl⟩

/-- **The sums of a file fit exactly as far as its data leave an address behind them.**  Every load
address fits, and so does that of every segment; the data of a record lie inside its bytes.  Reading
asks for the end of data that more data follow, and laying out for the ends of all data: where one of
these is behind the last address there is an error of its own, and without data at the last address
there is none.  Whatever is laid out has its place, and whatever is loaded its base. -/
theorem addresses_outgrown (text : List Char) (blank : UInt8) :
    (∀ load ∈ loads text, load.address < addressLimit) ∧
    (∀ bytes : List UInt8, bytes.length = 5 + (bytes.getD 0 0).toNat ∨
      Record.ofBytes bytes = .error .tooShort ∨
      ∃ expected actual, Record.ofBytes bytes = .error (.wrongCount expected actual)) ∧
    (parse text = .error .addressOverflow ↔
      ¬Roomy ((loadsBeforeFault text).map Segment.stop)) ∧
    ((∀ load ∈ loads text, load.stop < addressLimit) → parse text ≠ .error .addressOverflow) ∧
    (∀ segments, parse text = .ok segments →
      (∀ segment ∈ segments, segment.address < addressLimit) ∧
      (flatten segments blank = .error .addressOverflow ↔
        ∃ load ∈ loads text, addressLimit ≤ load.stop) ∧
      ∀ flat, flatten segments blank = .ok flat → LaidOut segments flat) ∧
    ∀ (file : Array UInt8) (isHex : Bool) (base : UInt16),
      ((∃ failure, load file isHex base blank = .error failure ∧ failure.Outgrows) ↔
        isHex = true ∧ ∃ text, Text.decodeUtf8 file.toList = .ok text ∧
          OutgrowsAddresses text blank) ∧
      ∀ image, load file isHex base blank = .ok image → LoadsAsIs file isHex base blank image := by
  refine ⟨fun _ => address_lt_of_mem_loads, length_eq_or_refused, parse_eq_overflow_iff text,
    parse_ne_overflow, ?_, ?_⟩
  · intro segments parsed
    refine ⟨fun _ => address_lt_of_mem_parse parsed, ?_, fun _ => laidOut_of_flatten⟩
    rw [flatten_eq_error_iff, extent_eq_overflow_iff, exists_stop_iff parsed]
  · intro file isHex base
    exact ⟨load_outgrows_iff file isHex base blank, fun _ => loadsAsIs_of_load⟩

/-- A byte at the last address, and one at the first. -/
def aroundTheEnd : List Char :=
  ":02000004FFFFFC\n:01FFFF00AA57\n:020000040000FA\n:01000000BB44\n:00000001FF".toList

/-- The lines are right, and the data do not touch, but behind the first byte there is no address. -/
theorem parse_aroundTheEnd :
    loads aroundTheEnd = [⟨0xFFFFFFFF, #[0xAA]⟩, ⟨0, #[0xBB]⟩] ∧
      parse aroundTheEnd = .error .addressOverflow ∧
      load (Text.encodeUtf8 aroundTheEnd).toArray true 0 0xFF =
        .error (.badHex .addressOverflow) := by
  decide +kernel

end Load

end SplitBoard.Firmware

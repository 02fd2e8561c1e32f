import SplitBoard.Proofs.MainMatrix
import Mathlib.Algebra.BigOperators.Group.List.Basic

/-!
# The events of a matrix

A consumer starts with all keys released.  Whenever it is about to acknowledge the
state of the matrix, it puts the reported changes on a copy of its own.  **The copy
is always the state that was acknowledged last** (`foldl_delivered`), however often
the matrix changed in between, so the events of one key are a press, a release, a
press and so on.

A report names the row and the column in a byte each.  A matrix with at most 256
rows and as many columns has no two keys with the same bytes
(`report_place`).
-/

namespace SplitBoard

/-- The place of a report. -/
def KeyReport.place (e : KeyReport) : Nat × Nat :=
  (e.row.toNat, e.col.toNat)

/-- Put a report on a copy of the state. -/
def applyReport (state : Nat × Nat → Bool) (e : KeyReport) : Nat × Nat → Bool :=
  Function.update state e.place e.pressed

/-- Row by row, and by columns within a row. -/
def KeyReport.Before (e e' : KeyReport) : Prop :=
  e.row < e'.row ∨ e.row = e'.row ∧ e.col < e'.col

/-- The events of one key. -/
def eventsAt (place : Nat × Nat) (events : List KeyReport) : List Bool :=
  (events.filter fun e => e.place = place).map KeyReport.pressed

/-- What can happen to the state of a matrix. -/
inductive KeyStep (rows cols : Nat) where
  | update (state : KeyRows rows cols)
  | clear
  | acknowledge

namespace Keys

variable {rows cols : Nat}

/-- The state behind a step. -/
def step (keys : Keys rows cols) : KeyStep rows cols → Keys rows cols
  | .update state => keys.update state
  | .clear => keys.clear
  | .acknowledge => keys.acknowledge

/-- The state behind some steps. -/
def run (keys : Keys rows cols) (steps : List (KeyStep rows cols)) : Keys rows cols :=
  steps.foldl step keys

/-- What is reported just before each acknowledgement. -/
def delivered : Keys rows cols → List (KeyStep rows cols) → List KeyReport
  | _, [] => []
  | keys, .acknowledge :: rest => keys.reports ++ keys.acknowledge.delivered rest
  | keys, s :: rest => (keys.step s).delivered rest

/-- What the reports of a state say. -/
structure Listed (keys : Keys rows cols) : Prop where
  /-- A key is reported once, as it is now, if it was seen otherwise. -/
  once : ∀ row col, eventsAt (row, col) keys.reports =
    if keys.isPressed row col = keys.wasPressed row col then [] else [keys.isPressed row col]
  ordered : keys.reports.Pairwise KeyReport.Before
  nil_iff : keys.reports = [] ↔ keys.hasChanges = false
  /-- The presses outnumber the releases by as many keys as there are more of now. -/
  balance : (keys.reports.countP (·.pressed) : Int) - keys.reports.countP (!·.pressed) =
    (keys.current.pressedCount : Int) - keys.acknowledged.pressedCount

/-- What a consumer knows behind some steps. -/
structure Followed (steps : List (KeyStep rows cols)) : Prop where
  /-- Its copy is the state that it acknowledged last. -/
  copy : (released.delivered steps).foldl applyReport (fun _ => false) =
    fun place => (released.run steps).wasPressed place.1 place.2
  /-- The first event of a key is a press, the second one a release, and so on. -/
  alternates : ∀ place i pressed, (eventsAt place (released.delivered steps))[i]? = some pressed →
    (pressed = true ↔ i % 2 = 0)

/-! ## One state -/

section Listed
variable (keys : Keys rows cols)

theorem transitions_ordered :
    keys.transitions.Pairwise fun t t' => t.row < t'.row ∨ t.row = t'.row ∧ t.col < t'.col := by
  refine List.pairwise_flatMap.mpr ⟨fun row _ => ?_, ?_⟩
  · refine List.pairwise_map.mpr (((List.pairwise_lt_finRange cols).filter _).imp ?_)
    intro col col' before
    exact .inr ⟨rfl, before⟩
  · refine (List.pairwise_lt_finRange rows).imp fun {row row'} before t here t' there => ?_
    obtain ⟨col, -, rfl⟩ := List.mem_map.mp here
    obtain ⟨col', -, rfl⟩ := List.mem_map.mp there
    exact .inl before

/-- No key is reported twice, because the keys are reported in order. -/
theorem nodup_places : (keys.transitions.map KeyTransition.place).Nodup := by
  refine List.pairwise_map.mpr (keys.transitions_ordered.imp ?_)
  intro t t' before same
  obtain ⟨rowSame, colSame⟩ := Prod.mk.inj same
  rcases before with before | ⟨-, before⟩
  · exact absurd (Fin.ext rowSame) (Fin.ne_of_lt before)
  · exact absurd (Fin.ext colSame) (Fin.ne_of_lt before)

/-- A key is reported as it is now, if it was seen otherwise. -/
theorem reported_of_ne {row col : Nat} (differ : keys.isPressed row col ≠ keys.wasPressed row col) :
    ∃ t ∈ keys.transitions, t.place = (row, col) ∧ t.pressed = keys.isPressed row col := by
  have inside : row < rows ∧ col < cols := by
    by_contra outside
    apply differ
    rw [isPressed, wasPressed, KeyRows.isPressed_of_outside _ outside,
      KeyRows.isPressed_of_outside _ outside]
  exact ⟨⟨⟨row, inside.1⟩, ⟨col, inside.2⟩, keys.isPressed row col⟩,
    mem_transitions_iff.mpr ⟨rfl, differ.symm⟩, rfl, rfl⟩

theorem wasPressed_of_untouched {row col : Nat}
    (untouched : ∀ t ∈ keys.transitions, t.place ≠ (row, col)) :
    keys.wasPressed row col = keys.isPressed row col := by
  by_contra differ
  obtain ⟨t, member, here, -⟩ := keys.reported_of_ne (Ne.symm differ)
  exact untouched t member here

theorem foldl_transitions :
    keys.transitions.foldl applyChange (fun place => keys.wasPressed place.1 place.2) =
      fun place => keys.isPressed place.1 place.2 :=
  foldl_applyChange_eq keys.nodup_places (fun _ member => (mem_transitions_iff.mp member).1)
    fun _ untouched => keys.wasPressed_of_untouched untouched

theorem transitions_at (row col : Nat) :
    (keys.transitions.filter fun t => t.place = (row, col)).map KeyTransition.pressed =
      if keys.isPressed row col = keys.wasPressed row col then []
      else [keys.isPressed row col] := by
  by_cases same : keys.isPressed row col = keys.wasPressed row col
  · have unreported : ∀ t ∈ keys.transitions, ¬t.place = (row, col) := by
      rintro t member here
      obtain ⟨now, before⟩ := mem_transitions_iff.mp member
      obtain ⟨rfl, rfl⟩ := Prod.mk.inj here
      exact before (same.symm.trans now)
    rw [if_pos same, List.filter_eq_nil_iff.mpr (by simpa using unreported), List.map_nil]
  · obtain ⟨t, member, here, now⟩ := keys.reported_of_ne same
    have alone : ∀ t' ∈ keys.transitions, decide (t'.place = (row, col)) = (t' == t) := by
      intro t' member'
      rw [Bool.eq_iff_iff, decide_eq_true_iff, beq_iff_eq, ← here]
      constructor
      · exact List.inj_on_of_nodup_map keys.nodup_places member' member
      · exact congrArg KeyTransition.place
    rw [if_neg same, List.filter_congr alone, List.filter_beq, keys.nodup_transitions.count,
      if_pos member, ← now]
    rfl

/-- Among what differs there are as many more of the one kind as there are among all. -/
theorem countP_differing {α : Type} (list : List α) (p q : α → Bool) :
    (list.filter fun a => p a ^^ q a).countP p + list.countP q =
      (list.filter fun a => p a ^^ q a).countP (!p ·) + list.countP p := by
  induction list with
  | nil => rfl
  | cons a rest ih =>
    cases hp : p a <;> cases hq : q a <;> simp [hp, hq] <;> omega

theorem balance_row (row : Fin rows) :
    (keys.rowTransitions row).countP (·.pressed) +
        (KeyRows.pressedColumns (keys.acknowledged.get row)).length =
      (keys.rowTransitions row).countP (!·.pressed) +
        (KeyRows.pressedColumns (keys.current.get row)).length := by
  have differing := countP_differing (List.finRange cols)
    (fun col => keys.current[row].getLsbD col) fun col => keys.acknowledged[row].getLsbD col
  simp only [rowTransitions, KeyRows.pressedColumns, List.countP_map,
    ← List.countP_eq_length_filter, BitVec.getLsbD_xor]
  exact differing

theorem balance_transitions :
    keys.transitions.countP (·.pressed) + keys.acknowledged.pressedCount =
      keys.transitions.countP (!·.pressed) + keys.current.pressedCount := by
  simp only [transitions, List.countP_flatMap, KeyRows.pressedCount_eq_sum, ← List.sum_map_add]
  congr 1
  exact List.map_congr_left fun row _ => keys.balance_row row

end Listed

/-! ## Reports -/

section Reports
variable (rowsFit : rows ≤ 256) (colsFit : cols ≤ 256)
include rowsFit colsFit

/-- The bytes of a report give the place back. -/
theorem report_place (t : KeyTransition rows cols) : t.report.place = t.place := by
  have row : t.row.val < 256 := Nat.lt_of_lt_of_le t.row.isLt rowsFit
  have col : t.col.val < 256 := Nat.lt_of_lt_of_le t.col.isLt colsFit
  exact Prod.ext (UInt8.toNat_ofNat_of_lt' row) (UInt8.toNat_ofNat_of_lt' col)

theorem eventsAt_reports (keys : Keys rows cols) (row col : Nat) :
    eventsAt (row, col) keys.reports =
      if keys.isPressed row col = keys.wasPressed row col then []
      else [keys.isPressed row col] := by
  rw [← keys.transitions_at row col, eventsAt, reports, List.filter_map, List.map_map]
  congr 1
  refine List.filter_congr fun t _ => ?_
  rw [Function.comp_apply, report_place rowsFit colsFit]

theorem foldl_reports (keys : Keys rows cols) :
    keys.reports.foldl applyReport (fun place => keys.wasPressed place.1 place.2) =
      fun place => keys.isPressed place.1 place.2 := by
  have same : (fun state (t : KeyTransition rows cols) => applyReport state t.report) =
      applyChange := by
    funext state t
    rw [applyReport, applyChange, report_place rowsFit colsFit]
    rfl
  rw [reports, List.foldl_map, same, foldl_transitions]

theorem reports_ordered (keys : Keys rows cols) : keys.reports.Pairwise KeyReport.Before := by
  refine List.pairwise_map.mpr (keys.transitions_ordered.imp fun {t t'} before => ?_)
  have row (t : KeyTransition rows cols) : t.row.val < 256 := Nat.lt_of_lt_of_le t.row.isLt rowsFit
  have col (t : KeyTransition rows cols) : t.col.val < 256 := Nat.lt_of_lt_of_le t.col.isLt colsFit
  rcases before with before | ⟨same, before⟩
  · exact .inl ((UInt8.ofNat_lt_iff_lt (row t) (row t')).mpr before)
  · refine .inr ⟨?_, (UInt8.ofNat_lt_iff_lt (col t) (col t')).mpr before⟩
    rw [KeyTransition.report, KeyTransition.report, same]

theorem listed (keys : Keys rows cols) : keys.Listed where
  once := eventsAt_reports rowsFit colsFit keys
  ordered := reports_ordered rowsFit colsFit keys
  nil_iff := by
    rw [reports, List.map_eq_nil_iff, ← Bool.not_eq_true, keys.hasChanges_iff, not_not]
  balance := by
    have balance := keys.balance_transitions
    simp only [reports, List.countP_map]
    change (keys.transitions.countP (·.pressed) : Int) - keys.transitions.countP (!·.pressed) = _
    omega

/-! ## Step by step -/

/-- The copy of a consumer goes along with what is acknowledged. -/
theorem foldl_delivered (keys : Keys rows cols) (steps : List (KeyStep rows cols)) :
    (keys.delivered steps).foldl applyReport (fun place => keys.wasPressed place.1 place.2) =
      fun place => (keys.run steps).wasPressed place.1 place.2 := by
  induction steps generalizing keys with
  | nil => rfl
  | cons s rest ih =>
    cases s with
    | update state => exact ih (keys.update state)
    | clear => exact ih keys.clear
    | acknowledge =>
      rw [delivered, List.foldl_append, foldl_reports rowsFit colsFit]
      exact ih keys.acknowledge

/-- The events of a key alternate, and the first one is a press if the key was seen released. -/
theorem eventsAt_delivered (keys : Keys rows cols) (steps : List (KeyStep rows cols))
    (row col : Nat) (i : Nat) (pressed : Bool)
    (h : (eventsAt (row, col) (keys.delivered steps))[i]? = some pressed) :
    pressed = (decide (i % 2 = 0) ^^ keys.wasPressed row col) := by
  induction steps generalizing keys i with
  | nil => simp [delivered, eventsAt] at h
  | cons s rest ih =>
    cases s with
    | update state => exact ih (keys.update state) i h
    | clear => exact ih keys.clear i h
    | acknowledge =>
      have split : eventsAt (row, col) (keys.delivered (.acknowledge :: rest)) =
          eventsAt (row, col) keys.reports ++
            eventsAt (row, col) (keys.acknowledge.delivered rest) := by
        rw [delivered, eventsAt, List.filter_append, List.map_append]
        rfl
      rw [split, eventsAt_reports rowsFit colsFit] at h
      have seen : keys.acknowledge.wasPressed row col = keys.isPressed row col := rfl
      by_cases same : keys.isPressed row col = keys.wasPressed row col
      · rw [if_pos same, List.nil_append] at h
        rw [ih keys.acknowledge i h, seen, same]
      · rw [if_neg same, List.singleton_append] at h
        have turned : keys.isPressed row col = !keys.wasPressed row col := Bool.eq_not.mpr same
        cases i with
        | zero =>
          rw [List.getElem?_cons_zero, Option.some.injEq] at h
          rw [← h, turned]
          simp
        | succ i =>
          rw [List.getElem?_cons_succ] at h
          have parity : decide ((i + 1) % 2 = 0) = !decide (i % 2 = 0) := by
            rw [← decide_not, decide_eq_decide]
            omega
          rw [ih keys.acknowledge i h, seen, turned, parity, Bool.xor_not, Bool.not_xor]

theorem followed (steps : List (KeyStep rows cols)) : Followed steps where
  copy := by
    have start : (fun _ => false : Nat × Nat → Bool) =
        fun place => (released : Keys rows cols).wasPressed place.1 place.2 :=
      funext fun place => (KeyRows.isPressed_released place.1 place.2).symm
    rw [start]
    exact foldl_delivered rowsFit colsFit released steps
  alternates := by
    rintro ⟨row, col⟩ i pressed h
    have turns := eventsAt_delivered rowsFit colsFit released steps row col i pressed h
    have start : (released : Keys rows cols).wasPressed row col = false :=
      KeyRows.isPressed_released row col
    rw [turns, start, Bool.xor_false, decide_eq_true_iff]

end Reports

/-- **No change of a key is lost or made up**: not between the steps of any run, and not in the
reports of any state. -/
theorem followed_and_listed (rowsFit : rows ≤ 256) (colsFit : cols ≤ 256)
    (steps : List (KeyStep rows cols)) : Followed steps ∧ ∀ keys : Keys rows cols, keys.Listed :=
  ⟨followed rowsFit colsFit steps, listed rowsFit colsFit⟩

/-- A key that is pressed, seen, released and pressed again unseen, and cleared at last. -/
theorem followed_and_listed_bounced :
    let steps : List (KeyStep 2 8) := [.update #v[0x02, 0], .acknowledge, .update #v[0, 0],
      .update #v[0x02, 0x80], .acknowledge, .clear, .acknowledge]
    released.delivered steps = [⟨0, 1, true⟩, ⟨1, 7, true⟩, ⟨0, 1, false⟩, ⟨1, 7, false⟩] ∧
      Followed steps ∧ ∀ keys : Keys 2 8, keys.Listed :=
  ⟨by decide +kernel, followed_and_listed (by decide) (by decide) _⟩

end Keys
end SplitBoard

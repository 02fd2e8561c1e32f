import SplitBoard.Switches.Matrix
import SplitBoard.Proofs.Conduct

/-!
# A scan of the switches

The pins of the rows lie in two groups, those of the columns in two as well, and
the registers of these groups have bits for other pins too.  Whoever answers,
a register gives what was written to it, and a column that listens is low if a
closed switch connects it to a driven row (`Panel.Admits`).  **Every other level
is anyone's guess, and may differ from one sampling to the next.**

Once the pins are set up, a scan gives the closed switches.  Each row is sampled
while it alone is low, no row is low in the end, and whatever else the registers
hold stays as it was (`Scanned`).
-/

namespace SplitBoard.Switches

open Dialogue

/-- What was done to the pins. -/
abbrev Accesses : Type := List (Exchange vocabulary)

/-! ## Bits -/

/-- One bit of a byte. -/
def bit (byte : UInt8) (i : Nat) : Bool :=
  byte.toBitVec.getLsbD i

section Bits
variable (x y : UInt8) (i : Nat)

theorem bit_zero : bit 0 i = false :=
  BitVec.getLsbD_zero

theorem bit_of_ge {i : Nat} (outside : 8 ≤ i) : bit x i = false :=
  BitVec.getLsbD_of_ge _ _ outside

theorem bit_or : bit (x ||| y) i = (bit x i || bit y i) :=
  BitVec.getLsbD_or

theorem bit_and : bit (x &&& y) i = (bit x i && bit y i) :=
  BitVec.getLsbD_and

theorem bit_not {i : Nat} (inside : i < 8) : bit (~~~x) i = !bit x i := by
  simp [bit, inside]

theorem bit_and_not : bit (x &&& ~~~y) i = (bit x i && !bit y i) := by
  by_cases inside : i < 8
  · rw [bit_and, bit_not y inside]
  · have outside : 8 ≤ i := Nat.le_of_not_lt inside
    rw [bit_of_ge _ outside, bit_of_ge x outside, Bool.false_and]

theorem bit_shiftRight : bit (x >>> 2) i = bit x (2 + i) := by
  unfold bit
  rw [UInt8.toBitVec_shiftRight]
  exact BitVec.getLsbD_ushiftRight _ _ _

theorem eq_of_bit {x y : UInt8} (same : ∀ i < 8, bit x i = bit y i) : x = y :=
  UInt8.toBitVec_inj.mp (BitVec.eq_of_getLsbD_eq same)

/-- The bits of a byte are known once eight of them are. -/
theorem bit_eq_of_small {x : UInt8} {f : Nat → Bool} (inside : ∀ i : Fin 8, bit x i = f i)
    (outside : ∀ i, 8 ≤ i → f i = false) : ∀ i, bit x i = f i := by
  intro i
  by_cases small : i < 8
  · exact inside ⟨i, small⟩
  · have large : 8 ≤ i := Nat.le_of_not_lt small
    rw [bit_of_ge _ large, outside i large]

theorem bit_one_shiftLeft {n : Nat} (inside : n < 8) :
    ∀ i, bit (1 <<< UInt8.ofNat n) i = decide (i = n) := by
  have each : ∀ n i : Fin 8, bit (1 <<< UInt8.ofNat n) i = decide (i.val = n.val) := by decide
  exact bit_eq_of_small (each ⟨n, inside⟩) fun i large => decide_eq_false (by omega)

theorem and_one_shiftLeft_eq_zero {n : Nat} (inside : n < 8) :
    x &&& 1 <<< UInt8.ofNat n = 0 ↔ bit x n = false := by
  constructor
  · intro none
    have here := congrArg (bit · n) none
    simpa [bit_and, bit_one_shiftLeft inside, bit_zero] using here
  · intro clear
    refine eq_of_bit fun i _ => ?_
    rw [bit_and, bit_one_shiftLeft inside, bit_zero]
    by_cases here : i = n
    · rw [here, clear, Bool.false_and]
    · rw [decide_eq_false here, Bool.and_false]

theorem bit_drivenB : ∀ i, bit drivenB i = decide (i < 4) :=
  bit_eq_of_small (by decide) fun _ _ => decide_eq_false (by omega)

theorem bit_drivenD : ∀ i, bit drivenD i = decide (2 ≤ i ∧ i < 4) :=
  bit_eq_of_small (by decide) fun _ _ => decide_eq_false (by omega)

theorem bit_readF : ∀ i, bit readF i = decide (i < 2 ∨ 4 ≤ i ∧ i < 8) :=
  bit_eq_of_small (by decide) fun _ _ => decide_eq_false (by omega)

theorem bit_readB : ∀ i, bit readB i = decide (i = 6) :=
  bit_eq_of_small (by decide) fun _ _ => decide_eq_false (by omega)

theorem bit_allColumns : ∀ i, bit 0x7F i = decide (i < cols) :=
  bit_eq_of_small (by decide) fun _ _ => decide_eq_false (show ¬_ < 7 by omega)

end Bits

/-! ## Pins -/

/-- A bit of a register. -/
abbrev Place : Type := Register × Nat

/-- The pin of a row: its group, and its bit in the registers of the group. -/
def rowLine (row : Fin rows) : PinGroup × Nat :=
  if row.val < 4 then (.b, row.val) else (.d, row.val - 2)

/-- The pin of a column. -/
def columnLine (col : Fin cols) : PinGroup × Nat :=
  if col.val < 2 then (.f, col.val) else if col.val < 6 then (.f, col.val + 2) else (.b, 6)

/-- Where the direction of a row's pin is kept. -/
def rowMode (row : Fin rows) : Place := (.direction (rowLine row).1, (rowLine row).2)

/-- Where the level of a row's pin is kept. -/
def rowLevel (row : Fin rows) : Place := (.output (rowLine row).1, (rowLine row).2)

/-- Where the direction of a column's pin is kept. -/
def columnMode (col : Fin cols) : Place := (.direction (columnLine col).1, (columnLine col).2)

/-- Where it is kept whether a column's pin pulls itself high. -/
def columnPull (col : Fin cols) : Place := (.output (columnLine col).1, (columnLine col).2)

section Pins
variable (row row' : Fin rows) (col : Fin cols)

theorem rowLine_lt : (rowLine row).2 < 8 := by
  revert row
  decide

theorem rowPin_eq : rowPin row = ((rowLine row).1, 1 <<< UInt8.ofNat (rowLine row).2) := by
  unfold rowPin rowLine
  split <;> rfl

theorem rowLevel_inj : rowLevel row = rowLevel row' ↔ row = row' := by
  revert row row'
  decide

theorem rowMode_ne_rowLevel : rowMode row ≠ rowLevel row' := by
  revert row row'
  decide

theorem columnMode_ne_rowLevel : columnMode col ≠ rowLevel row := by
  revert col row
  decide

theorem columnPull_ne_rowLevel : columnPull col ≠ rowLevel row := by
  revert col row
  decide

/-- Every column finds its pin's level in its place. -/
theorem bit_columnsOfLevels (levelsF levelsB : UInt8) :
    bit (columnsOfLevels levelsF levelsB) col =
      !bit (if (columnLine col).1 = .f then levelsF else levelsB) (columnLine col).2 := by
  have inside : col.val < 7 := col.isLt
  have lowest : ∀ i, bit 0x03 i = decide (i < 2) :=
    bit_eq_of_small (by decide) fun _ _ => decide_eq_false (by omega)
  have middle : ∀ i, bit 0x3C i = decide (2 ≤ i ∧ i < 6) :=
    bit_eq_of_small (by decide) fun _ _ => decide_eq_false (by omega)
  rw [columnsOfLevels, bit_and, bit_allColumns, bit_not _ (by omega), bit_or, bit_or, bit_and,
    bit_and, bit_and, bit_shiftRight, lowest, middle, bit_readB, decide_eq_true col.isLt,
    Bool.and_true, columnLine]
  by_cases first : col.val < 2
  · have low : ¬2 ≤ col.val ∧ col.val ≠ 6 := by omega
    simp [first, low]
  · by_cases second : col.val < 6
    · have middle : 2 ≤ col.val ∧ col.val ≠ 6 := by omega
      simp [first, second, middle, Nat.add_comm]
    · have last : col.val = 6 := by omega
      simp [last]

theorem columnLine_group : (columnLine col).1 = .f ∨ (columnLine col).1 = .b := by
  revert col
  decide

end Pins

/-! ## The panel, access by access -/

namespace Panel

/-- One bit of the registers. -/
def bit (panel : Panel) (place : Place) : Bool :=
  Switches.bit (panel.register place.1) place.2

/-- A column is an input that pulls itself high. -/
def Listens (panel : Panel) (col : Fin cols) : Prop :=
  panel.bit (columnMode col) = false ∧ panel.bit (columnPull col) = true

/-- What an access can be answered with.  A column that listens is low if a closed switch connects
it to a driven row, and high if none does. -/
def Admits (panel : Panel) : Exchange vocabulary → Prop
  | ⟨.write .., _⟩ => True
  | ⟨.read register, value⟩ => value = panel.register register
  | ⟨.sample group, levels⟩ => ∀ col, panel.Listens col → (columnLine col).1 = group →
      Switches.bit levels (columnLine col).2 = !panel.isLow col

/-- The panel behind an access. -/
def next (panel : Panel) : Exchange vocabulary → Panel
  | ⟨.write register value, _⟩ => panel.setRegister register value
  | _ => panel

/-- The accesses can get these answers, and lead from one panel to another. -/
inductive Undergoes : Panel → Accesses → Panel → Prop where
  | nil (panel : Panel) : Undergoes panel [] panel
  | cons {panel after : Panel} {e : Exchange vocabulary} {rest : Accesses}
      (admits : panel.Admits e) (later : Undergoes (panel.next e) rest after) :
      Undergoes panel (e :: rest) after

/-- The groups that are sampled, each with the panel as it is then. -/
def samplings : Panel → Accesses → List (PinGroup × Panel)
  | _, [] => []
  | panel, ⟨.sample group, _⟩ :: rest => (group, panel) :: samplings panel rest
  | panel, ⟨.write register value, _⟩ :: rest => samplings (panel.setRegister register value) rest
  | panel, ⟨.read _, _⟩ :: rest => samplings panel rest

section Undergoes
variable {panel after mid : Panel} {first second said : Accesses}

theorem undergoes_nil_iff : Undergoes panel [] after ↔ after = panel := by
  constructor
  · rintro ⟨⟩
    rfl
  · rintro rfl
    exact .nil _

theorem undergoes_cons_iff {e : Exchange vocabulary} :
    Undergoes panel (e :: said) after ↔ panel.Admits e ∧ Undergoes (panel.next e) said after := by
  constructor
  · rintro ⟨⟩
    exact ⟨‹_›, ‹_›⟩
  · rintro ⟨admits, later⟩
    exact .cons admits later

theorem undergoes_append_iff :
    Undergoes panel (first ++ second) after ↔
      ∃ mid, Undergoes panel first mid ∧ Undergoes mid second after := by
  induction first generalizing panel with
  | nil => simp [undergoes_nil_iff]
  | cons e first ih =>
    simp only [List.cons_append, undergoes_cons_iff, ih]
    constructor
    · rintro ⟨admits, mid, before, later⟩
      exact ⟨mid, ⟨admits, before⟩, later⟩
    · rintro ⟨mid, ⟨admits, before⟩, later⟩
      exact ⟨admits, mid, before, later⟩

theorem samplings_cons (e : Exchange vocabulary) (rest : Accesses) :
    panel.samplings (e :: rest) = panel.samplings [e] ++ (panel.next e).samplings rest := by
  obtain ⟨⟨⟩ | ⟨⟩ | ⟨⟩, reply⟩ := e <;> rfl

theorem samplings_append (undergoes : Undergoes panel first mid) (second : Accesses) :
    panel.samplings (first ++ second) = panel.samplings first ++ mid.samplings second := by
  induction undergoes with
  | nil => rfl
  | cons _ _ ih =>
    rw [List.cons_append, samplings_cons, ih, ← List.append_assoc, ← samplings_cons]

end Undergoes

/-! ## Registers that change -/

/-- The panel with bits of a register set. -/
def raise (panel : Panel) (register : Register) (bits : UInt8) : Panel :=
  panel.setRegister register (panel.register register ||| bits)

/-- The panel with bits of a register cleared. -/
def lower (panel : Panel) (register : Register) (bits : UInt8) : Panel :=
  panel.setRegister register (panel.register register &&& ~~~bits)

/-- The panel once its pins are set up. -/
def ready (panel : Panel) : Panel :=
  (((((((panel.raise (.direction .b) drivenB).raise (.output .b) drivenB).raise
    (.direction .d) drivenD).raise (.output .d) drivenD).lower
    (.direction .f) readF).raise (.output .f) readF).lower
    (.direction .b) readB).raise (.output .b) readB

/-- The panel once no row is driven low. -/
def release (panel : Panel) : Panel :=
  (panel.raise (.output .b) drivenB).raise (.output .d) drivenD

/-- The panel once a single row is driven low. -/
def drive (panel : Panel) (row : Fin rows) : Panel :=
  panel.release.lower (.output (rowPin row).1) (rowPin row).2

section Changes
variable {panel : Panel} (register : Register) (bits : UInt8) (place : Place)

theorem bit_setRegister (value : UInt8) :
    (panel.setRegister register value).bit place =
      if place.1 = register then Switches.bit value place.2 else panel.bit place := by
  obtain ⟨⟨⟨⟩⟩ | ⟨⟨⟩⟩, i⟩ := place <;> obtain ⟨⟨⟩⟩ | ⟨⟨⟩⟩ := register <;> rfl

@[simp] theorem bit_raise :
    (panel.raise register bits).bit place =
      (panel.bit place || (decide (place.1 = register) && Switches.bit bits place.2)) := by
  rw [raise, bit_setRegister]
  by_cases here : place.1 = register
  · simp [here, bit, bit_or]
  · simp [here]

@[simp] theorem bit_lower :
    (panel.lower register bits).bit place =
      (panel.bit place && !(decide (place.1 = register) && Switches.bit bits place.2)) := by
  rw [lower, bit_setRegister]
  by_cases here : place.1 = register
  · simp [here, bit, bit_and_not]
  · simp [here]

theorem closed_setRegister (value : UInt8) :
    (panel.setRegister register value).closed = panel.closed := by
  obtain ⟨⟨⟩⟩ | ⟨⟨⟩⟩ := register <;> rfl

end Changes

/-! ## What is seen of a panel -/

/-- The level that each row is driven with, if it is driven. -/
def driveLevel (panel : Panel) (row : Fin rows) : Option Bool :=
  if panel.bit (rowMode row) then some (panel.bit (rowLevel row)) else none

/-- The closed switches of a row. -/
def columns (panel : Panel) (row : Fin rows) : UInt8 :=
  UInt8.ofBitVec (panel.closed.get row) &&& 0x7F

/-- The pins of the rows are outputs, and the columns listen. -/
structure Wired (panel : Panel) : Prop where
  drives : ∀ row, panel.bit (rowMode row) = true
  listens : ∀ col, panel.Listens col

/-- The same switches are closed, and all registers are the same but for the levels of rows. -/
structure Elsewhere (panel after : Panel) : Prop where
  closed : after.closed = panel.closed
  others : ∀ place, (∀ row, place ≠ rowLevel row) → after.bit place = panel.bit place

section Seen
variable {panel after mid : Panel} {row : Fin rows}

/-- A row is pulled low while its pin is an output and its level is low. -/
theorem isDriven_eq :
    panel.isDriven row = (panel.bit (rowMode row) && !panel.bit (rowLevel row)) := by
  have inside := rowLine_lt row
  simp only [isDriven, rowPin_eq, ne_eq, and_one_shiftLeft_eq_zero _ inside]
  simp [bit, rowMode, rowLevel]

theorem bit_columnLevel (col : Nat) (pin : UInt8) (i : Nat) :
    Switches.bit (panel.columnLevel col pin) i = (!panel.isLow col && Switches.bit pin i) := by
  unfold columnLevel
  by_cases low : panel.isLow col = true <;> simp [low, bit_zero]

/-- The levels that the panel itself gives. -/
theorem bit_levels (col : Fin cols) :
    Switches.bit (panel.levels (columnLine col).1) (columnLine col).2 = !panel.isLow col := by
  obtain ⟨col, inside⟩ := col
  have each : col = 0 ∨ col = 1 ∨ col = 2 ∨ col = 3 ∨ col = 4 ∨ col = 5 ∨ col = 6 := by
    have : col < 7 := inside
    omega
  rcases each with rfl | rfl | rfl | rfl | rfl | rfl | rfl <;>
    simp [columnLine, levels, bit_or, bit_and_not, bit_columnLevel, bit_readF, bit_readB] <;>
    simp [Switches.bit]

theorem bit_columns (row : Fin rows) (i : Nat) :
    Switches.bit (panel.columns row) i = (decide (i < cols) && panel.closed.isPressed row i) := by
  rw [columns, bit_and, bit_allColumns, Bool.and_comm, KeyRows.isPressed_of_lt _ _ row.isLt]
  rfl

theorem Elsewhere.refl (panel : Panel) : Elsewhere panel panel :=
  ⟨rfl, fun _ _ => rfl⟩

theorem Elsewhere.trans (h : Elsewhere panel mid) (h' : Elsewhere mid after) :
    Elsewhere panel after :=
  ⟨h'.closed.trans h.closed, fun place free => (h'.others place free).trans (h.others place free)⟩

theorem Elsewhere.columns_eq (h : Elsewhere panel after) : after.columns = panel.columns := by
  funext row
  unfold columns
  rw [h.closed]

/-- What is set up once for all is not the level of a row. -/
theorem Wired.elsewhere (wired : panel.Wired) (h : Elsewhere panel after) : after.Wired where
  drives row := (h.others _ (rowMode_ne_rowLevel row)).trans (wired.drives row)
  listens col := by
    obtain ⟨mode, pull⟩ := wired.listens col
    exact ⟨(h.others _ fun row => columnMode_ne_rowLevel row col).trans mode,
      (h.others _ fun row => columnPull_ne_rowLevel row col).trans pull⟩

theorem Wired.driveLevel_eq (wired : panel.Wired) (row : Fin rows) :
    panel.driveLevel row = some (panel.bit (rowLevel row)) :=
  if_pos (wired.drives row)

/-- **A row that alone is low shows its own switches**, and no others through them. -/
theorem isLow_of_alone (wired : panel.Wired)
    (alone : ∀ other, panel.bit (rowLevel other) = (other != row)) (col : Nat) :
    panel.isLow col = panel.closed.isPressed row col := by
  have driven (other : Fin rows) : panel.isDriven other = (other == row) := by
    rw [isDriven_eq, wired.drives, alone, Bool.true_and, bne, Bool.not_not]
  rw [isLow, KeyRows.isPressed_of_lt _ _ row.isLt, Bool.eq_iff_iff, List.any_eq_true]
  constructor
  · rintro ⟨other, -, low⟩
    rw [driven, Bool.and_eq_true, beq_iff_eq] at low
    obtain ⟨rfl, closed⟩ := low
    exact closed
  · intro closed
    refine ⟨row, List.mem_finRange row, ?_⟩
    rw [driven, beq_self_eq_true, Bool.true_and]
    exact closed

end Seen

section Effects
variable (panel : Panel) (row : Fin rows)

theorem wired_ready : panel.ready.Wired where
  drives row := by
    have inside : row.val < 6 := row.isLt
    by_cases first : row.val < 4
    · have apart : row.val ≠ 6 := by omega
      simp [ready, rowMode, rowLine, first, bit_drivenB, bit_readB, apart]
    · have last : 2 ≤ row.val - 2 ∧ row.val - 2 < 4 := by omega
      simp [ready, rowMode, rowLine, first, bit_drivenD, last]
  listens col := by
    by_cases first : col.val < 2
    · simp [Listens, ready, columnMode, columnPull, columnLine, first, bit_readF]
    · by_cases second : col.val < 6
      · have high : 4 ≤ col.val + 2 ∧ col.val + 2 < 8 := by omega
        simp [Listens, ready, columnMode, columnPull, columnLine, first, second, bit_readF, high]
      · simp [Listens, ready, columnMode, columnPull, columnLine, first, second, bit_readB]

theorem bit_release_rowLevel : panel.release.bit (rowLevel row) = true := by
  have inside : row.val < 6 := row.isLt
  by_cases first : row.val < 4
  · simp [release, rowLevel, rowLine, first, bit_drivenB]
  · have last : 2 ≤ row.val - 2 ∧ row.val - 2 < 4 := by omega
    simp [release, rowLevel, rowLine, first, bit_drivenD, last]

theorem elsewhere_release : Elsewhere panel panel.release where
  closed := (closed_setRegister _ _).trans (closed_setRegister _ _)
  others := by
    rintro ⟨register, i⟩ free
    have notB : ¬(register = .output .b ∧ i < 4) := by
      rintro ⟨rfl, low⟩
      exact free ⟨i, show i < 6 by omega⟩ (by simp [rowLevel, rowLine, low])
    have notD : ¬(register = .output .d ∧ 2 ≤ i ∧ i < 4) := by
      rintro ⟨rfl, high, low⟩
      exact free ⟨i + 2, show i + 2 < 6 by omega⟩
        (by simp [rowLevel, rowLine, show ¬i + 2 < 4 by omega])
    simp [release, bit_drivenB, bit_drivenD, ← Bool.decide_and, notB, notD]

theorem bit_drive (place : Place) :
    (panel.drive row).bit place = (panel.release.bit place && !decide (place = rowLevel row)) := by
  have here : place = rowLevel row ↔
      place.1 = .output (rowLine row).1 ∧ place.2 = (rowLine row).2 := Prod.ext_iff
  rw [drive, rowPin_eq, bit_lower, bit_one_shiftLeft (rowLine_lt row), ← Bool.decide_and,
    decide_eq_decide.mpr here]

theorem bit_drive_rowLevel (other : Fin rows) :
    (panel.drive row).bit (rowLevel other) = (other != row) := by
  rw [bit_drive, bit_release_rowLevel, Bool.true_and, decide_eq_decide.mpr (rowLevel_inj other row)]
  rfl

theorem elsewhere_drive : Elsewhere panel (panel.drive row) where
  closed := (closed_setRegister _ _).trans (elsewhere_release panel).closed
  others place free := by
    rw [bit_drive, decide_eq_false (free row), Bool.not_false, Bool.and_true]
    exact (elsewhere_release panel).others place free

end Effects

end Panel

/-! ## Work on the pins -/

open Panel

/-- Work on the pins, with what it did to the panel. -/
structure Worked {α : Type} (work : Pins α) (panel : Panel) (said : Accesses) (result : α)
    (after : Panel) : Prop where
  plays : Plays work said result
  undergoes : panel.Undergoes said after

/-- Work that always does the same to the panel, and samples nothing. -/
def Settles (work : Pins Unit) (change : Panel → Panel) : Prop :=
  ∀ panel said after, Worked work panel said () after →
    after = change panel ∧ panel.samplings said = []

section Worked
variable {α β : Type} {panel after : Panel} {said : Accesses}

theorem worked_done_iff {a b : α} :
    Worked (done a) panel said b after ↔ said = [] ∧ b = a ∧ after = panel := by
  constructor
  · rintro ⟨plays, undergoes⟩
    obtain ⟨rfl, rfl⟩ := plays_done_iff.mp plays
    exact ⟨rfl, rfl, undergoes_nil_iff.mp undergoes⟩
  · rintro ⟨rfl, rfl, rfl⟩
    exact ⟨.done _, .nil _⟩

theorem worked_bind_iff {work : Pins α} {next : α → Pins β} {b : β} :
    Worked (work.bind next) panel said b after ↔
      ∃ first second a mid, said = first ++ second ∧ Worked work panel first a mid ∧
        Worked (next a) mid second b after := by
  constructor
  · rintro ⟨plays, undergoes⟩
    obtain ⟨first, second, a, rfl, plays, plays'⟩ := plays_bind_iff.mp plays
    obtain ⟨mid, undergoes, undergoes'⟩ := undergoes_append_iff.mp undergoes
    exact ⟨first, second, a, mid, rfl, ⟨plays, undergoes⟩, ⟨plays', undergoes'⟩⟩
  · rintro ⟨first, second, a, mid, rfl, ⟨plays, undergoes⟩, ⟨plays', undergoes'⟩⟩
    exact ⟨plays_bind_iff.mpr ⟨first, second, a, rfl, plays, plays'⟩,
      undergoes_append_iff.mpr ⟨mid, undergoes, undergoes'⟩⟩

/-- A panel that gives its own levels is one that the work can meet. -/
theorem worked_transcribe (work : Pins α) (panel : Panel) :
    Worked work panel (work.transcribe partner panel).2.1 (work.transcribe partner panel).1
      (work.transcribe partner panel).2.2 := by
  refine ⟨plays_transcribe partner work panel, ?_⟩
  induction work generalizing panel with
  | done a => exact .nil panel
  | ask request next ih =>
    rw [transcribe_ask]
    cases request with
    | write register value => exact .cons trivial (ih _ _)
    | read register => exact .cons rfl (ih _ _)
    | sample group =>
      refine .cons ?_ (ih _ _)
      rintro col - rfl
      exact bit_levels col

end Worked

/-! ### Registers -/

section Settles
variable {work : Pins Unit} {change change' : Panel → Panel}

theorem settles_modify (register : Register) (f : UInt8 → UInt8) :
    Settles (modifyRegister register f) fun panel =>
      panel.setRegister register (f (panel.register register)) := by
  rintro panel said after ⟨plays, undergoes⟩
  obtain ⟨value, rest, rfl, written⟩ := plays_ask_iff.mp plays
  obtain ⟨_, rest, rfl, ended⟩ := plays_ask_iff.mp written
  obtain ⟨rfl, -⟩ := plays_done_iff.mp ended
  obtain ⟨rfl, later⟩ := undergoes_cons_iff.mp undergoes
  exact ⟨undergoes_nil_iff.mp (undergoes_cons_iff.mp later).2, rfl⟩

theorem settles_setBits (register : Register) (bits : UInt8) :
    Settles (setBits register bits) fun panel => panel.raise register bits :=
  settles_modify register _

theorem settles_clearBits (register : Register) (bits : UInt8) :
    Settles (clearBits register bits) fun panel => panel.lower register bits :=
  settles_modify register _

theorem Settles.bind {next : Pins Unit} (h : Settles work change) (h' : Settles next change') :
    Settles (work.bind fun _ => next) fun panel => change' (change panel) := by
  intro panel said after worked
  obtain ⟨first, second, ⟨⟩, mid, rfl, here, later⟩ := worked_bind_iff.mp worked
  obtain ⟨rfl, unsampled⟩ := h _ _ _ here
  obtain ⟨rfl, unsampled'⟩ := h' _ _ _ later
  exact ⟨rfl, by rw [samplings_append here.undergoes, unsampled, unsampled', List.append_nil]⟩

theorem settles_setUp : Settles setUp ready := by
  have columns := (settles_clearBits (.direction .f) readF).bind <|
    (settles_setBits (.output .f) readF).bind <| (settles_clearBits (.direction .b) readB).bind <|
      settles_setBits (.output .b) readB
  have rows := (settles_setBits (.direction .b) drivenB).bind <|
    (settles_setBits (.output .b) drivenB).bind <| (settles_setBits (.direction .d) drivenD).bind <|
      (settles_setBits (.output .d) drivenD).bind columns
  exact rows

theorem settles_releaseRows : Settles releaseRows release := by
  have both := (settles_setBits (.output .b) drivenB).bind (settles_setBits (.output .d) drivenD)
  exact both

theorem settles_driveRow (row : Fin rows) :
    Settles (driveRow row) fun panel => panel.drive row := by
  have single := settles_releaseRows.bind
    (settles_clearBits (.output (rowPin row).1) (rowPin row).2)
  exact single

end Settles

/-! ### Rows -/

/-- What is seen of the rows when a group is sampled. -/
def seen (sampling : PinGroup × Panel) : PinGroup × (Fin rows → Option Bool) :=
  (sampling.1, sampling.2.driveLevel)

/-- A single row is low, and all others are high. -/
def alone (row other : Fin rows) : Option Bool :=
  some (other != row)

/-- A row is sampled group by group. -/
def samplesOf (row : Fin rows) : List (PinGroup × (Fin rows → Option Bool)) :=
  [(.f, alone row), (.b, alone row)]

section Rows
variable {panel after : Panel} {said : Accesses} {row : Fin rows}

/-- What is sampled while a row alone is low are its switches. -/
theorem columnsOfLevels_eq (wired : panel.Wired)
    (alone : ∀ other, panel.bit (rowLevel other) = (other != row)) {levelsF levelsB : UInt8}
    (admitsF : panel.Admits ⟨.sample .f, levelsF⟩) (admitsB : panel.Admits ⟨.sample .b, levelsB⟩) :
    columnsOfLevels levelsF levelsB = panel.columns row := by
  refine eq_of_bit fun i _ => ?_
  rw [bit_columns]
  by_cases column : i < cols
  · rw [decide_eq_true column, Bool.true_and, ← isLow_of_alone wired alone]
    refine (bit_columnsOfLevels ⟨i, column⟩ levelsF levelsB).trans ?_
    rcases columnLine_group ⟨i, column⟩ with group | group
    · rw [if_pos group, admitsF ⟨i, column⟩ (wired.listens _) group, Bool.not_not]
    · have other : (columnLine ⟨i, column⟩).1 ≠ .f := by simp [group]
      rw [if_neg other, admitsB ⟨i, column⟩ (wired.listens _) group, Bool.not_not]
  · rw [columnsOfLevels, bit_and, bit_allColumns, decide_eq_false column, Bool.and_false,
      Bool.false_and]

theorem worked_readColumns (wired : panel.Wired)
    (alone : ∀ other, panel.bit (rowLevel other) = (other != row)) {sampled : UInt8}
    (h : Worked readColumns panel said sampled after) :
    sampled = panel.columns row ∧ after = panel ∧
      panel.samplings said = [(.f, panel), (.b, panel)] := by
  obtain ⟨plays, undergoes⟩ := h
  obtain ⟨levelsF, rest, rfl, later⟩ := plays_ask_iff.mp plays
  obtain ⟨levelsB, rest, rfl, ended⟩ := plays_ask_iff.mp later
  obtain ⟨rfl, rfl⟩ := plays_done_iff.mp ended
  obtain ⟨admitsF, undergoes⟩ := undergoes_cons_iff.mp undergoes
  obtain ⟨admitsB, undergoes⟩ := undergoes_cons_iff.mp undergoes
  exact ⟨columnsOfLevels_eq wired alone admitsF admitsB, undergoes_nil_iff.mp undergoes, rfl⟩

/-- Row after row, each is low while it is sampled. -/
theorem worked_sampleRows {list : List (Fin rows)} {sampled : List UInt8} (wired : panel.Wired)
    (h : Worked (sampleRows list) panel said sampled after) :
    sampled = list.map panel.columns ∧ Elsewhere panel after ∧
      (panel.samplings said).map seen = list.flatMap samplesOf := by
  induction list generalizing panel said sampled with
  | nil =>
    obtain ⟨rfl, rfl, rfl⟩ := worked_done_iff.mp h
    exact ⟨rfl, .refl _, rfl⟩
  | cons row rest ih =>
    obtain ⟨first, _, ⟨⟩, driven, rfl, drives, later⟩ := worked_bind_iff.mp h
    obtain ⟨second, _, columns, mid, rfl, reads, later⟩ := worked_bind_iff.mp later
    obtain ⟨third, _, more, _, rfl, samples, ended⟩ := worked_bind_iff.mp later
    obtain ⟨rfl, rfl, rfl⟩ := worked_done_iff.mp ended
    obtain ⟨rfl, unsampled⟩ := settles_driveRow row _ _ _ drives
    have elsewhere := elsewhere_drive panel row
    have wired' := wired.elsewhere elsewhere
    obtain ⟨rfl, rfl, twice⟩ := worked_readColumns wired' (bit_drive_rowLevel panel row) reads
    obtain ⟨rfl, elsewhere', others⟩ := ih wired' samples
    have level : (panel.drive row).driveLevel = alone row := by
      funext other
      rw [wired'.driveLevel_eq, bit_drive_rowLevel]
      rfl
    refine ⟨?_, elsewhere.trans elsewhere', ?_⟩
    · rw [elsewhere.columns_eq, List.map_cons]
    · rw [List.append_nil, samplings_append drives.undergoes, samplings_append reads.undergoes,
        unsampled, twice, List.map_append, List.map_append, others, List.flatMap_cons]
      simp only [List.map_nil, List.map_cons, List.nil_append, seen, level]
      rfl

end Rows

/-! ## A whole scan -/

/-- Whatever else became of the registers, the pins of the matrix are as they were. -/
structure Panel.SetAs (panel ready : Panel) : Prop where
  modes : ∀ row, panel.bit (rowMode row) = ready.bit (rowMode row)
  listens : ∀ col, panel.Listens col ↔ ready.Listens col

/-- What a scan gives, and how it treats the pins. -/
structure Scanned (panel : Panel) (said : Accesses) (sampled : KeyRows rows sampleBits)
    (after : Panel) : Prop where
  /-- A one for every closed switch, and nothing above the last column. -/
  switches : ∀ row col, sampled.isPressed row col =
    (decide (col < cols) && panel.closed.isPressed row col)
  /-- Row by row, and each is sampled while it alone is low. -/
  alone : (panel.samplings said).map seen = (List.finRange rows).flatMap samplesOf
  /-- No row is low in the end. -/
  released : ∀ row, after.driveLevel row = some true
  /-- Whatever is not the level of a row is as before. -/
  others : ∀ place, (∀ row, place ≠ rowLevel row) → after.bit place = panel.bit place

theorem scanned_of_wired {panel after : Panel} {said : Accesses}
    {sampled : KeyRows rows sampleBits} (wired : panel.Wired)
    (h : Worked scan panel said sampled after) : Scanned panel said sampled after := by
  obtain ⟨first, _, bytes, last, rfl, samples, later⟩ := worked_bind_iff.mp h
  obtain ⟨second, _, ⟨⟩, _, rfl, releases, ended⟩ := worked_bind_iff.mp later
  obtain ⟨rfl, rfl, rfl⟩ := worked_done_iff.mp ended
  obtain ⟨rfl, elsewhere, alone⟩ := worked_sampleRows wired samples
  obtain ⟨rfl, unsampled⟩ := settles_releaseRows _ _ _ releases
  have still := elsewhere.trans (elsewhere_release last)
  refine ⟨fun row col => ?_, ?_, fun row => ?_, still.others⟩
  · by_cases inside : row < rows
    · rw [← bit_columns ⟨row, inside⟩, KeyRows.isPressed_of_lt _ _ inside]
      simp [bit]
    · simp [KeyRows.isPressed, inside]
  · rw [List.append_nil, samplings_append samples.undergoes, unsampled, List.append_nil, alone]
  · rw [(wired.elsewhere still).driveLevel_eq, bit_release_rowLevel]

/-- **Once the pins are set up, every scan gives the closed switches**, however the other bits of
the registers change, and changes none of them itself. -/
theorem scanned_of_worked {initial ready panel after : Panel} {said said' : Accesses}
    {sampled : KeyRows rows sampleBits} (sets : Worked setUp initial said () ready)
    (kept : panel.SetAs ready) (scans : Worked scan panel said' sampled after) :
    Scanned panel said' sampled after := by
  obtain ⟨rfl, -⟩ := settles_setUp _ _ _ sets
  have wired := wired_ready initial
  exact scanned_of_wired
    ⟨fun row => (kept.modes row).trans (wired.drives row),
      fun col => (kept.listens col).mpr (wired.listens col)⟩ scans

/-- Three closed switches that make a corner, one elsewhere, and other bits here and there. -/
def cornered : Panel :=
  { closed := #v[0x41, 0x40, 0, 0, 0x01, 0], otherB := 0x80, otherF := 0x0C, directionB := 0x60,
    outputB := 0x20, directionD := 0x80, outputD := 0x81, directionF := 0xFF, outputF := 0x04 }

theorem scanned_of_worked_cornered :
    let sets := setUp.transcribe partner cornered
    let scans := scan.transcribe partner sets.2.2
    scans.1 = #v[0x41, 0x40, 0, 0, 0x01, 0] ∧ scans.2.2.outputB = 0x6F ∧
      Scanned sets.2.2 scans.2.1 scans.1 scans.2.2 := by
  have kept (panel : Panel) : panel.SetAs panel := ⟨fun _ => rfl, fun _ => Iff.rfl⟩
  refine ⟨by decide +kernel, by decide +kernel, ?_⟩
  exact scanned_of_worked (worked_transcribe setUp cornered) (kept _) (worked_transcribe scan _)

end SplitBoard.Switches

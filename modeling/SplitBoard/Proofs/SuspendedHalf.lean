import SplitBoard.Bus.Script
import SplitBoard.Proofs.Attention

/-!
# A half that is left alone

A side is suspended while its half sits in the bootloader.  Until it is taken up
again, the work of the cycles and the broadcasts go on without it: **nothing is
said to it, nothing is noticed of it, and what is known of it stays**
(`LeftAlone`).

What the half is like makes no difference either.  On two boards that differ at
that side only (`DifferAt`), the same is asked on the bus for as long as the same
is answered (`Overlooks`), which is chained along the work like a relation between
two runs.
-/

namespace SplitBoard.Board

open Dialogue Bus

/-! ## Calls -/

/-- The work that goes on while a half is suspended. -/
inductive Call where
  | scanCycle
  | syncLeds
  | setKeyscanInterval (interval : UInt8)
  | setSledCurrent (current : UInt8)
  | versions

/-- What comes of a call. -/
inductive Answer where
  | scanned (report : ScanReport)
  | synced
  | pushed (result : Except LinkError Unit)
  | versions (known : Option UInt8 × Option UInt8)

/-- Do what is called for. -/
def Call.perform : Call → StateT Board Wire Answer
  | scanCycle => do return .scanned (← Board.scanCycle)
  | syncLeds => do
    Board.syncLeds
    return .synced
  | setKeyscanInterval interval => do return .pushed (← Board.setKeyscanInterval interval)
  | setSledCurrent current => do return .pushed (← Board.setSledCurrent current)
  | versions => do return .versions (← Board.versions)

/-- One call after the other. -/
def performAll : List Call → StateT Board Wire (List Answer)
  | [] => return []
  | call :: calls => do
    let answer ← call.perform
    let answers ← performAll calls
    return answer :: answers

/-- The answer has nothing to say of the half on one side. -/
def Answer.Omits (side : Side) : Answer → Prop
  | scanned report => ∀ event ∈ report.events, event.side ≠ side
  | versions known =>
    match side with
    | .left => known.1 = none
    | .right => known.2 = none
  | _ => True

/-- The same answers, except for whether there are key changes to see, which may be those of a half
that is left alone. -/
def Answer.Resembles : Answer → Answer → Prop
  | scanned report, answer => ∃ report', answer = scanned report' ∧ report'.events = report.events
  | answer, answer' => answer' = answer

/-! ## What is said, and what stays -/

section Runs
variable {board after : Board} {said : Talk} {side : Side}

/-- Whom a call talks to, and what it leaves alone. -/
theorem respects_of_call {call : Call} {answer : Answer}
    (h : Plays (call.perform.run board) said (answer, after)) : board.Respects said after := by
  cases call with
  | scanCycle =>
    obtain ⟨report, scans, -⟩ := plays_map h
    exact (plays_scanCycle scans).respects
  | syncLeds =>
    obtain ⟨⟨⟩, syncs, -⟩ := plays_map h
    obtain ⟨left, right, rfl, does⟩ := plays_syncLeds_iff.mp syncs
    cases does_effect does with
    | sync acts => exact acts.respects Half.confined_sendNextDirtyBank
  | setKeyscanInterval interval =>
    obtain ⟨result, sets, -⟩ := plays_map h
    have settled : board.Respects [] { board with keyscanInterval := interval } :=
      respects_of_seat_eq (fun side => by cases side <;> rfl) nofun
    obtain ⟨left, right, rfl, acts⟩ := plays_onBoth (show Plays ((onBoth _).run _) said _ from sets)
    exact settled.append (acts.respects (Half.confined_send _))
  | setSledCurrent current =>
    obtain ⟨result, sets, -⟩ := plays_map h
    obtain ⟨left, right, rfl, acts⟩ := plays_onBoth sets
    exact acts.respects (Half.confined_send _)
  | versions =>
    obtain ⟨known, asks, -⟩ := plays_map h
    obtain ⟨left, right, _, _, mid, rfl, first, second, -⟩ := plays_versions asks
    exact (first.respects (Half.confined_readRegister _)).append
      (second.respects (Half.confined_readRegister _))

/-- What comes of a call says nothing of a half that is suspended. -/
theorem omits_of_call {call : Call} {answer : Answer}
    (h : Plays (call.perform.run board) said (answer, after))
    (suspended : (board.seat side).suspended = true) : answer.Omits side := by
  cases call with
  | scanCycle =>
    obtain ⟨report, scans, rfl⟩ := plays_map h
    intro event noticed same
    have active := (plays_scanCycle scans).active_of_event noticed
    rw [same] at active
    cases active.symm.trans suspended
  | versions =>
    obtain ⟨known, asks, rfl⟩ := plays_map h
    obtain ⟨left, right, _, _, mid, rfl, first, second, rfl⟩ := plays_versions asks
    cases side with
    | left =>
      obtain rfl := first.eq_none suspended
      rfl
    | right =>
      have still : (mid.seat .right).suspended = true :=
        ((first.respects (Half.confined_readRegister _)).suspended .right).trans suspended
      obtain rfl := second.eq_none still
      rfl
  | syncLeds =>
    obtain ⟨⟨⟩, -, rfl⟩ := plays_map h
    trivial
  | setKeyscanInterval interval =>
    obtain ⟨result, -, rfl⟩ := plays_map h
    trivial
  | setSledCurrent current =>
    obtain ⟨result, -, rfl⟩ := plays_map h
    trivial

/-- The induction is on the calls; a half that is suspended is so for all of them. -/
theorem respects_of_calls {calls : List Call} {answers : List Answer}
    (h : Plays ((performAll calls).run board) said (answers, after)) :
    board.Respects said after ∧
      ∀ side, (board.seat side).suspended = true → ∀ answer ∈ answers, answer.Omits side := by
  induction calls generalizing board said answers with
  | nil =>
    obtain ⟨rfl, ⟨⟩⟩ := plays_done_iff.mp h
    exact ⟨.refl _, fun _ _ => nofun⟩
  | cons call calls ih =>
    obtain ⟨first, rest, answer, mid, rfl, called, h'⟩ := plays_run_bind_iff.mp h
    obtain ⟨answers, others, rfl⟩ := plays_map h'
    obtain ⟨respects, omits⟩ := ih others
    have before := respects_of_call called
    refine ⟨before.append respects, fun side suspended => List.forall_mem_cons.mpr ⟨?_, ?_⟩⟩
    · exact omits_of_call called suspended
    · exact omits side ((before.suspended side).trans suspended)

end Runs

/-! ## Two runs -/

/-- Two boards that are the same but for one side, which both leave alone. -/
structure DifferAt (side : Side) (board board' : Board) : Prop where
  suspended : (board.seat side).suspended = true
  suspended' : (board'.seat side).suspended = true
  others : ∀ other, other ≠ side → board'.seat other = board.seat other
  layout : board'.layout = board.layout
  keyscanInterval : board'.keyscanInterval = board.keyscanInterval

/-- Work that asks the same on two such boards for as long as it is answered the same, with related
results, and leaves two such boards. -/
def Overlooks {α β : Type} (side : Side) (R : α → β → Prop) (work : StateT Board Wire α)
    (work' : StateT Board Wire β) : Prop :=
  ∀ board board', DifferAt side board board' →
    Alike (fun x x' => R x.1 x'.1 ∧ DifferAt side x.2 x'.2) (work.run board) (work'.run board')

section Overlooks
variable {α β γ δ : Type} {side other : Side} {R : α → β → Prop} {S : γ → δ → Prop}
  {board board' : Board}

theorem overlooks_pure {a : α} {b : β} (related : R a b) : Overlooks side R (pure a) (pure b) :=
  fun _ _ differ => .done ⟨related, differ⟩

theorem Overlooks.bind {work : StateT Board Wire α} {work' : StateT Board Wire β}
    {next : α → StateT Board Wire γ} {next' : β → StateT Board Wire δ}
    (h : Overlooks side R work work') (later : ∀ a b, R a b → Overlooks side S (next a) (next' b)) :
    Overlooks side S (work >>= next) (work' >>= next') := by
  intro board board' differ
  rw [StateT.run_bind, StateT.run_bind]
  refine (h board board' differ).bind ?_
  rintro ⟨a, after⟩ ⟨b, after'⟩ ⟨related, still⟩
  exact later a b related after after' still

theorem DifferAt.setSeat (differ : DifferAt side board board') (ne : other ≠ side) (seat : Seat) :
    DifferAt side (board.setSeat other seat) (board'.setSeat other seat) where
  suspended := by rw [seat_setSeat, if_neg (Ne.symm ne), differ.suspended]
  suspended' := by rw [seat_setSeat, if_neg (Ne.symm ne), differ.suspended']
  others third apart := by
    rw [seat_setSeat, seat_setSeat]
    split
    · rfl
    · exact differ.others third apart
  layout := by rw [layout_setSeat, layout_setSeat, differ.layout]
  keyscanInterval := by
    rw [keyscanInterval_setSeat, keyscanInterval_setSeat, differ.keyscanInterval]

/-- Half by half, the boards may change alike. -/
theorem DifferAt.mapHalf (differ : DifferAt side board board') {f f' : Half → Half}
    (alike : other ≠ side → f = f') :
    DifferAt side (board.mapHalf other f) (board'.mapHalf other f') := by
  by_cases here : other = side
  · subst here
    refine ⟨?_, ?_, fun third apart => ?_, ?_, ?_⟩
    · rw [seat_mapHalf, if_pos rfl]
      exact differ.suspended
    · rw [seat_mapHalf, if_pos rfl]
      exact differ.suspended'
    · rw [seat_mapHalf, seat_mapHalf, if_neg apart, if_neg apart, differ.others third apart]
    · exact (layout_setSeat board' other _).trans
        (differ.layout.trans (layout_setSeat board other _).symm)
    · rw [keyscanInterval_mapHalf, keyscanInterval_mapHalf, differ.keyscanInterval]
  · obtain rfl := alike here
    unfold Board.mapHalf
    rw [differ.others other here]
    exact differ.setSeat here _

theorem DifferAt.mapHalves (differ : DifferAt side board board') (f : Half → Half) :
    DifferAt side (board.mapHalves f) (board'.mapHalves f) := by
  have left : DifferAt side (board.mapHalf .left f) (board'.mapHalf .left f) :=
    differ.mapHalf fun _ => rfl
  exact left.mapHalf fun _ => rfl

/-- The half of a side that both boards leave alone is not worked on, and the other one is the
same. -/
theorem overlooks_onActive (op : HalfOp α) :
    Overlooks side Eq (onActive other op) (onActive other op) := by
  intro board board' differ
  rw [run_onActive, run_onActive]
  by_cases here : other = side
  · subst here
    rw [if_pos differ.suspended, if_pos differ.suspended']
    exact .done ⟨rfl, differ⟩
  · have same : board'.half other = board.half other :=
      congrArg Seat.half (differ.others other here)
    rw [differ.others other here, same]
    split
    · exact .done ⟨rfl, differ⟩
    · refine Alike.bind (.refl (R := Eq) (fun _ => rfl) _) ?_
      rintro ⟨result, half'⟩ _ rfl
      have worked : DifferAt side (board.mapHalf other fun _ => half')
          (board'.mapHalf other fun _ => half') := differ.mapHalf fun _ => rfl
      exact .done ⟨rfl, worked⟩

theorem overlooks_pollSide : Overlooks side Eq (pollSide other) (pollSide other) := by
  intro board board' differ
  rw [run_pollSide, run_pollSide]
  by_cases here : other = side
  · subst here
    rw [if_pos differ.suspended, if_pos differ.suspended']
    exact .done ⟨rfl, differ⟩
  · have same : board'.half other = board.half other :=
      congrArg Seat.half (differ.others other here)
    rw [differ.others other here, same, differ.layout]
    split
    · exact .done ⟨rfl, differ⟩
    · refine Alike.bind (.refl (R := Eq) (fun _ => rfl) _) ?_
      rintro ⟨result, half'⟩ _ rfl
      dsimp only
      split
      · exact .ask fun _ => .done ⟨rfl, differ.setSeat here _⟩
      · split
        · exact .ask fun _ => .done ⟨rfl, differ.setSeat here _⟩
        · exact .done ⟨rfl, differ.setSeat here _⟩

theorem overlooks_onBoth (op : HalfOp Unit) : Overlooks side Eq (onBoth op) (onBoth op) := by
  refine (overlooks_onActive op).bind ?_
  rintro left _ rfl
  refine (overlooks_onActive op).bind ?_
  rintro right _ rfl
  split <;> exact overlooks_pure rfl

theorem overlooks_askLayout : Overlooks side Eq askLayout askLayout := by
  refine (overlooks_onActive _).bind ?_
  rintro left _ rfl
  refine (overlooks_onActive _).bind ?_
  rintro right _ rfl
  split <;> exact overlooks_pure rfl

/-- The LED that only ISO boards have is the left half's own matter. -/
theorem DifferAt.resendAll (differ : DifferAt side board board') :
    DifferAt side board.resendAll board'.resendAll := by
  have blanked : DifferAt side
      (board.mapHalf .left fun half =>
        half.mapLeds (·.set board.profile.isoOnlyLed.toNat .black))
      (board'.mapHalf .left fun half =>
        half.mapLeds (·.set board'.profile.isoOnlyLed.toNat .black)) := by
    refine differ.mapHalf fun ne => ?_
    have same : board'.profile = board.profile :=
      congrArg (fun seat : Seat => seat.half.profile) (differ.others .left ne)
    rw [same]
  exact blanked.mapHalves fun half => half.mapLeds (·.markAllDirty)

theorem overlooks_startOver : Overlooks side Eq startOver startOver := by
  intro board board' differ
  rw [run_startOver, run_startOver, differ.layout]
  refine (overlooks_askLayout board board' differ).bind ?_
  rintro ⟨layout, asked⟩ ⟨_, asked'⟩ ⟨rfl, still⟩
  have differ : DifferAt side asked asked' := still
  refine Alike.bind (.refl (R := Eq) (fun _ => rfl) _) ?_
  rintro _ _ -
  dsimp only
  rw [differ.keyscanInterval]
  -- both boards take the layout on
  have settled : DifferAt side { asked with layout }
      { asked' with layout, keyscanInterval := asked.keyscanInterval } := by
    refine ⟨?_, ?_, fun other ne => ?_, rfl, rfl⟩
    · cases side <;> exact differ.suspended
    · cases side <;> exact differ.suspended'
    · cases other <;> exact differ.others _ ne
  refine (overlooks_onBoth _ _ _ settled).bind ?_
  rintro ⟨_, pushed⟩ ⟨_, pushed'⟩ ⟨-, differ⟩
  exact .done ⟨rfl, differ.resendAll⟩

theorem overlooks_scanCycle :
    Overlooks side (fun report report' => report'.events = report.events) scanCycle scanCycle := by
  refine overlooks_pollSide.bind ?_
  rintro left _ rfl
  refine overlooks_pollSide.bind ?_
  rintro right _ rfl
  -- in the end the keys are looked at, those of the side that is left alone among them
  have noted : ∀ events : List BoardEvent,
      Overlooks side (fun report report' => report'.events = report.events)
        (do return { events, keysChanged := (← get).hasKeyChanges : ScanReport })
        (do return { events, keysChanged := (← get).hasKeyChanges : ScanReport }) :=
    fun _ _ _ differ => .done ⟨rfl, differ⟩
  dsimp only
  split
  · exact overlooks_startOver.bind fun _ _ _ => noted _
  · exact noted _

theorem overlooks_call (call : Call) :
    Overlooks side Answer.Resembles call.perform call.perform := by
  cases call with
  | scanCycle =>
    refine overlooks_scanCycle.bind ?_
    intro report report' same
    exact overlooks_pure ⟨report', rfl, same⟩
  | syncLeds =>
    refine Overlooks.bind (R := Eq) ?_ fun _ _ _ => overlooks_pure rfl
    refine (overlooks_onActive _).bind fun _ _ _ => ?_
    exact (overlooks_onActive _).bind fun _ _ _ => overlooks_pure rfl
  | setKeyscanInterval interval =>
    refine Overlooks.bind (R := Eq) ?_ ?_
    · intro board board' differ
      refine overlooks_onBoth _ { board with keyscanInterval := interval }
        { board' with keyscanInterval := interval } ⟨?_, ?_, fun other ne => ?_, differ.layout, rfl⟩
      · cases side <;> exact differ.suspended
      · cases side <;> exact differ.suspended'
      · cases other <;> exact differ.others _ ne
    · rintro result _ rfl
      exact overlooks_pure rfl
  | setSledCurrent current =>
    refine (overlooks_onBoth _).bind ?_
    rintro result _ rfl
    exact overlooks_pure rfl
  | versions =>
    refine Overlooks.bind (R := Eq) ?_ ?_
    · refine (overlooks_onActive _).bind ?_
      rintro left _ rfl
      refine (overlooks_onActive _).bind ?_
      rintro right _ rfl
      exact overlooks_pure rfl
    · rintro known _ rfl
      exact overlooks_pure rfl

theorem overlooks_performAll (calls : List Call) :
    Overlooks side (List.Forall₂ Answer.Resembles) (performAll calls) (performAll calls) := by
  induction calls with
  | nil => exact overlooks_pure .nil
  | cons call calls ih =>
    refine (overlooks_call call).bind fun answer answer' resembles => ?_
    refine ih.bind fun answers answers' alike => ?_
    exact overlooks_pure (.cons resembles alike)

end Overlooks

/-! ## The suspended half -/

/-- What came of calls while a side was suspended. -/
structure LeftAlone (side : Side) (board : Board) (said : Talk) (answers : List Answer)
    (after : Board) : Prop where
  /-- Only the scanner of the other half is talked to, and that only if it is not suspended too. -/
  spoken : ∀ e ∈ said, ∀ address, e.request.address? = some address →
    (board.seat side.other).suspended = false ∧ address = (board.half side.other).address
  /-- What is known of the half stays, its colors apart. -/
  kept : ∃ leds, after.seat side = (board.seat side).recolor leds
  /-- Nothing is noticed of it or learnt from it. -/
  omitted : ∀ answer ∈ answers, answer.Omits side

/-- **A half that is suspended is left alone**, whatever is called for and whatever the bus answers;
and whatever it is like, the same is asked as long as the same is answered, and the answers differ
at most in whether there are key changes. -/
theorem leftAlone_of_suspended {side : Side} {board : Board} (calls : List Call)
    (suspended : (board.seat side).suspended = true) :
    (∀ said answers after, Plays ((performAll calls).run board) said (answers, after) →
      LeftAlone side board said answers after) ∧
    ∀ half' : Half,
      Alike (fun x x' => List.Forall₂ Answer.Resembles x.1 x'.1 ∧ DifferAt side x.2 x'.2)
        ((performAll calls).run board)
        ((performAll calls).run (board.setSeat side { board.seat side with half := half' })) := by
  constructor
  · intro said answers after plays
    obtain ⟨respects, omits⟩ := respects_of_calls plays
    refine ⟨fun e member address here => ?_, respects.kept side suspended, omits side suspended⟩
    obtain ⟨there, active, same⟩ := respects.spoken e member address here
    have opposite : there = side.other := by
      have ne : there ≠ side := by
        rintro rfl
        cases active.symm.trans suspended
      cases side <;> cases there <;> first | rfl | exact absurd rfl ne
    rw [opposite] at active same
    exact ⟨active, same⟩
  · intro half'
    refine overlooks_performAll calls _ _ ⟨suspended, ?_, fun other ne => ?_, ?_, ?_⟩
    · rw [seat_setSeat, if_pos rfl, suspended]
    · rw [seat_setSeat, if_neg ne]
    · exact layout_setSeat board side _
    · exact keyscanInterval_setSeat board side _

/-- A new board whose left half is suspended. -/
def leftSuspended : Board :=
  (Board.new .raise).suspend .left

/-- One cycle, and two questions besides. -/
def oneCycle : List Call := [.scanCycle, .syncLeds, .setKeyscanInterval 10, .versions]

/-- The right half comes and answers. -/
def rightBus : Script where
  replies := [[1, 0, 0, 0, 0, 0], [0], [7]]

/-- What comes of it. -/
@[irreducible]
def rightAnswers : (List Answer × Board) × List (Exchange vocabulary) × Script :=
  ((performAll oneCycle).run leftSuspended).transcribe Script.partner rightBus

/-- The right half is talked to nine times, and what the left one is like makes no difference. -/
theorem leftAlone_of_suspended_left :
    (leftSuspended.seat .left).suspended = true ∧
    rightAnswers.2.1.filterMap (·.request.address?) = List.replicate 9 89 ∧
    LeftAlone .left leftSuspended rightAnswers.2.1 rightAnswers.1.1 rightAnswers.1.2 ∧
    Alike (fun x x' => List.Forall₂ Answer.Resembles x.1 x'.1 ∧ DifferAt .left x.2 x'.2)
      ((performAll oneCycle).run leftSuspended)
      ((performAll oneCycle).run (leftSuspended.setSeat .left
        { leftSuspended.seat .left with half := leftSuspended.half .right })) := by
  have suspended : (leftSuspended.seat .left).suspended = true := by decide +kernel
  have plays : Plays ((performAll oneCycle).run leftSuspended) rightAnswers.2.1 rightAnswers.1 := by
    unfold rightAnswers
    exact plays_transcribe Script.partner _ rightBus
  obtain ⟨alone, alike⟩ := leftAlone_of_suspended oneCycle suspended
  refine ⟨suspended, by decide +kernel, ?_, alike _⟩
  exact alone rightAnswers.2.1 rightAnswers.1.1 rightAnswers.1.2 plays

end SplitBoard.Board

import SplitBoard.Board
import SplitBoard.Proofs.HalfChanges

/-!
# What an operation on the board can do

As for one half: each piece of work on the board is taken apart once, into what
was said, its result and the board it leaves (`Acts` on one side, `PollsSide`,
`StartsOver`, `Scans`).  A side that is suspended takes part in none of it.

**What the two halves do stays apart**: the talk of a scan is given in pieces,
each of them with one half.
-/

namespace SplitBoard

open Dialogue Bus

/-- The side of the half that came or went. -/
def BoardEvent.side : BoardEvent → Side
  | connected side => side
  | disconnected side => side

namespace Board

/-! ## Sides -/

section Sides
variable (board : Board) (side other : Side)

@[simp] theorem seat_setSeat (seat : Seat) :
    (board.setSeat side seat).seat other = if other = side then seat else board.seat other := by
  cases side <;> cases other <;> rfl

@[simp] theorem half_setSeat (seat : Seat) :
    (board.setSeat side seat).half other = if other = side then seat.half else board.half other := by
  cases side <;> cases other <;> rfl

@[simp] theorem keyscanInterval_setSeat (seat : Seat) :
    (board.setSeat side seat).keyscanInterval = board.keyscanInterval := by
  cases side <;> rfl

@[simp] theorem layout_setSeat (seat : Seat) : (board.setSeat side seat).layout = board.layout := by
  cases side <;> rfl

@[simp] theorem seat_mapHalf (f : Half → Half) :
    (board.mapHalf side f).seat other =
      if other = side then { board.seat side with half := f (board.half side) }
      else board.seat other :=
  seat_setSeat board side other _

@[simp] theorem half_mapHalf (f : Half → Half) :
    (board.mapHalf side f).half other =
      if other = side then f (board.half side) else board.half other :=
  half_setSeat board side other _

@[simp] theorem keyscanInterval_mapHalf (f : Half → Half) :
    (board.mapHalf side f).keyscanInterval = board.keyscanInterval :=
  keyscanInterval_setSeat board side _

end Sides

/-! ## Work on one side -/

/-- Work on one half, unless it is suspended. -/
inductive Acts {α : Type} (side : Side) (op : HalfOp α) (board : Board) :
    Talk → Option (Except LinkError α) → Board → Prop where
  | suspended (suspended : (board.seat side).suspended = true) : Acts side op board [] none board
  | active (active : (board.seat side).suspended = false) {said : Talk}
      {result : Except LinkError α} {half' : Half}
      (plays : Plays (Half.perform op (board.half side)) said (result, half')) :
      Acts side op board said (some result) (board.mapHalf side fun _ => half')

theorem run_onActive {α : Type} (side : Side) (op : HalfOp α) (board : Board) :
    (onActive side op).run board =
      if (board.seat side).suspended then .done (none, board)
      else (Half.perform op (board.half side)).bind fun (result, half) =>
        .done (some result, board.mapHalf side fun _ => half) := by
  unfold onActive
  change StateT.run (if (board.seat side).suspended = true then _ else _) board = _
  cases (board.seat side).suspended
  · change (Dialogue.bind _ _).bind _ = _
    rw [Dialogue.bind_assoc]
    rfl
  · rfl

theorem plays_onActive {α : Type} {side : Side} {op : HalfOp α} {board after : Board} {said : Talk}
    {result : Option (Except LinkError α)}
    (h : Plays ((onActive side op).run board) said (result, after)) :
    Acts side op board said result after := by
  rw [run_onActive] at h
  by_cases suspended : (board.seat side).suspended = true
  · rw [if_pos suspended] at h
    obtain ⟨rfl, ⟨⟩⟩ := plays_done_iff.mp h
    exact .suspended suspended
  · rw [if_neg suspended] at h
    obtain ⟨first, rest, ⟨r, half⟩, rfl, working, ending⟩ := plays_bind_iff.mp h
    obtain ⟨rfl, ⟨⟩⟩ := plays_done_iff.mp (show Plays (done _) rest _ from ending)
    rw [List.append_nil]
    exact .active (by simpa using suspended) working

/-- The other half has no part in it. -/
theorem Acts.half_of_ne {α : Type} {side other : Side} {op : HalfOp α} {board after : Board}
    {said : Talk} {result : Option (Except LinkError α)} (h : Acts side op board said result after)
    (ne : other ≠ side) : after.half other = board.half other := by
  cases h with
  | suspended => rfl
  | active => rw [half_mapHalf, if_neg ne]

/-- Putting keys where they belong changes nothing but keys. -/
theorem placeKeys_eq {α : Type} (half : Half) (side : Side) (layout : KeyLayout)
    (result : Except LinkError α) :
    half.placeKeys side layout result =
      { half with keys := (half.placeKeys side layout result).keys } := by
  unfold Half.placeKeys
  cases result <;> cases layout <;> rfl

@[simp] theorem online_placeKeys {α : Type} (half : Half) (side : Side) (layout : KeyLayout)
    (result : Except LinkError α) : (half.placeKeys side layout result).online = half.online := by
  rw [placeKeys_eq]

theorem run_pollSide (side : Side) (board : Board) :
    (pollSide side).run board =
      if (board.seat side).suspended then .done (none, board)
      else (Half.perform Half.readKeys (board.half side)).bind fun (result, half) =>
        if half.online ∧ ¬(board.seat side).online then
          .ask (.tell (.connected side)) fun _ =>
          .done (some (.connected side), board.setSeat side
            { board.seat side with half := half.placeKeys side board.layout result, online := true })
        else if ¬half.online ∧ (board.seat side).online then
          .ask (.tell (.disconnected side)) fun _ =>
          .done (some (.disconnected side), board.setSeat side
            { board.seat side with
              half := (half.placeKeys side board.layout result).mapKeys Keys.clear
              online := false })
        else
          .done (none, board.setSeat side
            { board.seat side with half := half.placeKeys side board.layout result }) := by
  unfold pollSide
  change StateT.run (if (board.seat side).suspended = true then _ else _) board = _
  by_cases suspended : (board.seat side).suspended = true
  · rw [if_pos suspended, if_pos suspended]
    rfl
  rw [if_neg suspended, if_neg suspended]
  change (Dialogue.bind _ _).bind _ = _
  rw [Dialogue.bind_assoc]
  congr 1
  funext ⟨result, half⟩
  -- the model looks at the half after its keys were placed
  simp only [← online_placeKeys half side board.layout result]
  change StateT.run (if _ then _ else _) board = _
  split
  · rfl
  · split <;> rfl

/-- Polling one half, unless it is suspended. -/
inductive PollsSide (side : Side) (board : Board) : Talk → Option BoardEvent → Board → Prop where
  | suspended (suspended : (board.seat side).suspended = true) : PollsSide side board [] none board
  | came (active : (board.seat side).suspended = false) (before : (board.seat side).online = false)
      {said : Talk} {result : Except LinkError (Keys halfRows halfCols)} {half' : Half}
      (polls : Half.Polls (board.half side) said result half') (here : half'.online = true) :
      PollsSide side board (said ++ [⟨.tell (.connected side), ()⟩]) (some (.connected side))
        (board.setSeat side
          { board.seat side with half := half'.placeKeys side board.layout result, online := true })
  | went (active : (board.seat side).suspended = false) (before : (board.seat side).online = true)
      {said : Talk} {result : Except LinkError (Keys halfRows halfCols)} {half' : Half}
      (polls : Half.Polls (board.half side) said result half') (gone : half'.online = false) :
      PollsSide side board (said ++ [⟨.tell (.disconnected side), ()⟩]) (some (.disconnected side))
        (board.setSeat side
          { board.seat side with
            half := (half'.placeKeys side board.layout result).mapKeys Keys.clear
            online := false })
  | stayed (active : (board.seat side).suspended = false) {said : Talk}
      {result : Except LinkError (Keys halfRows halfCols)} {half' : Half}
      (polls : Half.Polls (board.half side) said result half')
      (same : half'.online = (board.seat side).online) :
      PollsSide side board said none
        (board.setSeat side
          { board.seat side with half := half'.placeKeys side board.layout result })

theorem plays_pollSide {side : Side} {board after : Board} {said : Talk} {event : Option BoardEvent}
    (h : Plays ((pollSide side).run board) said (event, after)) :
    PollsSide side board said event after := by
  rw [run_pollSide] at h
  by_cases suspended : (board.seat side).suspended = true
  · rw [if_pos suspended] at h
    obtain ⟨rfl, ⟨⟩⟩ := plays_done_iff.mp h
    exact .suspended suspended
  rw [if_neg suspended] at h
  have active : (board.seat side).suspended = false := by simpa using suspended
  obtain ⟨first, rest, ⟨result, half'⟩, rfl, reading, noticing⟩ := plays_bind_iff.mp h
  have polls := Half.plays_readKeys reading
  by_cases came : half'.online = true ∧ ¬(board.seat side).online = true
  · simp only [if_pos came] at noticing
    obtain ⟨_, rest, rfl, told⟩ := plays_ask_iff.mp noticing
    obtain ⟨rfl, ⟨⟩⟩ := plays_done_iff.mp told
    exact .came active (by simpa using came.2) polls came.1
  by_cases went : ¬half'.online = true ∧ (board.seat side).online = true
  · simp only [if_neg came, if_pos went] at noticing
    obtain ⟨_, rest, rfl, told⟩ := plays_ask_iff.mp noticing
    obtain ⟨rfl, ⟨⟩⟩ := plays_done_iff.mp told
    exact .went active went.2 polls (by simpa using went.1)
  · simp only [if_neg came, if_neg went] at noticing
    obtain ⟨rfl, ⟨⟩⟩ := plays_done_iff.mp noticing
    rw [List.append_nil]
    -- neither came nor went
    refine .stayed active polls ?_
    rcases now : half'.online <;> rcases before : (board.seat side).online <;>
      simp [now, before] at came went ⊢

/-- What is noticed in a poll is of the half that was polled. -/
theorem PollsSide.of_event {side : Side} {board after : Board} {said : Talk} {event : BoardEvent}
    (h : PollsSide side board said (some event) after) :
    event.side = side ∧ (board.seat side).suspended = false := by
  cases h with
  | came active => exact ⟨rfl, active⟩
  | went active => exact ⟨rfl, active⟩

/-! ## Work on both sides -/

/-- Work on the left half, then on the right one. -/
def ActsBoth {α : Type} (op : HalfOp α) (board : Board) (left right : Talk) (after : Board) :
    Prop :=
  ∃ leftResult rightResult mid,
    Acts .left op board left leftResult mid ∧ Acts .right op mid right rightResult after

theorem pure_inj {β : Type} {b b' : β} (h : (pure b : StateT Board Wire β) = pure b')
    (board : Board) : b = b' := by
  have same : (done (b, board) : Wire (β × Board)) = done (b', board) := congrFun h board
  injection same with same
  exact (Prod.mk.inj same).1

/-- Whatever is made of the two results. -/
theorem plays_both {α β : Type} {op : HalfOp α}
    {gather : Option (Except LinkError α) → Option (Except LinkError α) → StateT Board Wire β}
    (pure? : ∀ left right, ∃ b, gather left right = pure b) {board after : Board} {said : Talk}
    {b : β}
    (h : Plays ((onActive .left op >>= fun left => onActive .right op >>= fun right =>
      gather left right).run board) said (b, after)) :
    ∃ left right leftResult rightResult mid, said = left ++ right ∧
      Acts .left op board left leftResult mid ∧ Acts .right op mid right rightResult after ∧
      gather leftResult rightResult = pure b := by
  obtain ⟨left, rest, leftResult, mid, rfl, first, h'⟩ := plays_run_bind_iff.mp h
  obtain ⟨right, last, rightResult, after', rfl, second, ending⟩ := plays_run_bind_iff.mp h'
  obtain ⟨b', gathered⟩ := pure? leftResult rightResult
  rw [gathered] at ending
  obtain ⟨rfl, ⟨⟩⟩ := plays_done_iff.mp ending
  rw [List.append_nil]
  exact ⟨left, right, leftResult, rightResult, mid, rfl, plays_onActive first,
    plays_onActive second, gathered⟩

section Both
variable {board after : Board} {said : Talk}

theorem plays_onBoth {op : HalfOp Unit} {result : Except LinkError Unit}
    (h : Plays ((onBoth op).run board) said (result, after)) :
    ∃ left right, said = left ++ right ∧ ActsBoth op board left right after := by
  obtain ⟨left, right, _, _, mid, split, first, second, -⟩ :=
    plays_both (fun left right => by split <;> exact ⟨_, rfl⟩) h
  exact ⟨left, right, split, _, _, mid, first, second⟩

/-- Of a half that does not answer the version is not known. -/
theorem plays_versions {result : Option UInt8 × Option UInt8}
    (h : Plays (versions.run board) said (result, after)) :
    ∃ left right leftResult rightResult mid, said = left ++ right ∧
      Acts .left Half.readVersion board left leftResult mid ∧
      Acts .right Half.readVersion mid right rightResult after ∧
      result = (leftResult.bind Except.toOption, rightResult.bind Except.toOption) := by
  obtain ⟨left, right, leftResult, rightResult, mid, split, first, second, gathered⟩ :=
    plays_both (fun _ _ => ⟨_, rfl⟩) h
  exact ⟨left, right, leftResult, rightResult, mid, split, first, second,
    (pure_inj gathered board).symm⟩

/-- One half that says so makes an ANSI board. -/
theorem plays_askLayout {layout : KeyLayout}
    (h : Plays (askLayout.run board) said (layout, after)) :
    ∃ left right leftResult rightResult mid, said = left ++ right ∧
      Acts .left Half.readLayout board left leftResult mid ∧
      Acts .right Half.readLayout mid right rightResult after ∧
      (layout = .ansi ↔ leftResult = some (.ok .ansi) ∨ rightResult = some (.ok .ansi)) := by
  obtain ⟨left, right, leftResult, rightResult, mid, split, first, second, gathered⟩ :=
    plays_both (fun left right => by split <;> exact ⟨_, rfl⟩) h
  refine ⟨left, right, leftResult, rightResult, mid, split, first, second, ?_⟩
  split at gathered
  · obtain rfl := pure_inj gathered board
    exact iff_of_true rfl (.inl rfl)
  · obtain rfl := pure_inj gathered board
    exact iff_of_true rfl (.inr rfl)
  · next noLeft noRight =>
    obtain rfl := pure_inj gathered board
    refine iff_of_false nofun ?_
    rintro (rfl | rfl)
    · exact noLeft rfl
    · exact noRight rfl

/-! ## Scanning -/

/-- Both halves are asked for their layout and told the scan interval, and everything is to be sent
again. -/
inductive StartsOver (board : Board) : Talk → Board → Prop where
  | intro {askLeft askRight notes pushLeft pushRight : Talk} {layout : KeyLayout}
      {asked pushed : Board} (asks : ActsBoth Half.readLayout board askLeft askRight asked)
      (quiet : ∀ e ∈ notes, e.request.address? = none)
      (pushes : ActsBoth (Half.setKeyscanInterval asked.keyscanInterval) { asked with layout }
        pushLeft pushRight pushed) :
      StartsOver board (askLeft ++ askRight ++ (notes ++ (pushLeft ++ pushRight))) pushed.resendAll

theorem run_startOver (board : Board) :
    startOver.run board =
      (askLayout.run board).bind fun (layout, asked) =>
      (if layout = board.layout then .done () else Wire.tell (.layoutChanged layout)).bind fun _ =>
      ((onBoth (Half.setKeyscanInterval asked.keyscanInterval)).run { asked with layout }).bind
        fun (_, pushed) => .done ((), pushed.resendAll) := by
  unfold startOver
  change (askLayout.run board).bind _ = _
  congr 1
  funext ⟨layout, asked⟩
  change StateT.run (if layout = board.layout then _ else _) asked = _
  by_cases same : layout = board.layout
  · simp only [if_pos same]
    rfl
  · simp only [if_neg same]
    rfl

/-- The halves are asked for their layout, that is told if it changed, the interval is pushed, and
everything is to be sent again. -/
theorem plays_startOver_cases (h : Plays (startOver.run board) said ((), after)) :
    ∃ asking notes pushing layout asked result pushed, said = asking ++ (notes ++ pushing) ∧
      Plays (askLayout.run board) asking (layout, asked) ∧
      (∀ e ∈ notes, e.request.address? = none) ∧
      Plays ((onBoth (Half.setKeyscanInterval asked.keyscanInterval)).run { asked with layout })
        pushing (result, pushed) ∧
      after = pushed.resendAll := by
  rw [run_startOver] at h
  obtain ⟨asking, rest, ⟨layout, asked⟩, rfl, asks, h'⟩ := plays_bind_iff.mp h
  obtain ⟨notes, rest, _, rfl, tells, h''⟩ := plays_bind_iff.mp h'
  obtain ⟨pushing, rest, ⟨result, pushed⟩, rfl, pushes, ending⟩ := plays_bind_iff.mp h''
  obtain ⟨rfl, ⟨⟩⟩ := plays_done_iff.mp (show Plays (done _) rest _ from ending)
  rw [List.append_nil]
  refine ⟨asking, notes, pushing, layout, asked, result, pushed, rfl, asks, ?_, pushes, rfl⟩
  by_cases same : layout = board.layout
  · rw [if_pos same] at tells
    obtain ⟨rfl, -⟩ := plays_done_iff.mp tells
    exact nofun
  · rw [if_neg same] at tells
    obtain ⟨_, rest, rfl, told⟩ := plays_ask_iff.mp tells
    obtain ⟨rfl, -⟩ := plays_done_iff.mp told
    intro e member
    rw [List.mem_singleton.mp member]
    rfl

theorem plays_startOver (h : Plays (startOver.run board) said ((), after)) :
    StartsOver board said after := by
  obtain ⟨_, notes, _, layout, asked, _, pushed, rfl, asking, quiet, pushing, rfl⟩ :=
    plays_startOver_cases h
  obtain ⟨askLeft, askRight, _, _, mid, rfl, asksLeft, asksRight, -⟩ := plays_askLayout asking
  obtain ⟨pushLeft, pushRight, rfl, pushes⟩ := plays_onBoth pushing
  exact .intro ⟨_, _, mid, asksLeft, asksRight⟩ quiet pushes

/-- Both halves are polled, and if one of them came they start over. -/
inductive Scans (board : Board) : Talk → ScanReport → Board → Prop where
  | noticed {left right : Talk} {leftEvent rightEvent : Option BoardEvent} {mid after : Board}
      (pollsLeft : PollsSide .left board left leftEvent mid)
      (pollsRight : PollsSide .right mid right rightEvent after)
      (none : (leftEvent.toList ++ rightEvent.toList).any BoardEvent.isArrival = false) :
      Scans board (left ++ right)
        ⟨leftEvent.toList ++ rightEvent.toList, after.hasKeyChanges⟩ after
  | appeared {left right rest : Talk} {leftEvent rightEvent : Option BoardEvent}
      {mid polled after : Board}
      (pollsLeft : PollsSide .left board left leftEvent mid)
      (pollsRight : PollsSide .right mid right rightEvent polled)
      (some : (leftEvent.toList ++ rightEvent.toList).any BoardEvent.isArrival = true)
      (startsOver : StartsOver polled rest after) :
      Scans board (left ++ right ++ rest)
        ⟨leftEvent.toList ++ rightEvent.toList, after.hasKeyChanges⟩ after

/-- One half is polled, then the other, and the rest is up to what was noticed. -/
theorem plays_scanCycle_cases {report : ScanReport}
    (h : Plays (scanCycle.run board) said (report, after)) :
    ∃ left right rest leftEvent rightEvent mid polled, said = left ++ (right ++ rest) ∧
      Plays ((pollSide .left).run board) left (leftEvent, mid) ∧
      Plays ((pollSide .right).run mid) right (rightEvent, polled) ∧
      report = ⟨leftEvent.toList ++ rightEvent.toList, after.hasKeyChanges⟩ ∧
      if (leftEvent.toList ++ rightEvent.toList).any BoardEvent.isArrival then
        Plays (startOver.run polled) rest ((), after)
      else rest = [] ∧ after = polled := by
  obtain ⟨left, rest, leftEvent, mid, rfl, pollsLeft, h'⟩ := plays_run_bind_iff.mp h
  obtain ⟨right, rest, rightEvent, polled, rfl, pollsRight, h''⟩ := plays_run_bind_iff.mp h'
  refine ⟨left, right, rest, leftEvent, rightEvent, mid, polled, rfl, pollsLeft, pollsRight, ?_⟩
  change Plays (StateT.run (if _ then _ else _) polled) rest _ at h''
  rcases arrival : (leftEvent.toList ++ rightEvent.toList).any BoardEvent.isArrival
  · rw [arrival] at h''
    obtain ⟨rfl, ⟨⟩⟩ := plays_done_iff.mp (show Plays (done _) rest _ from h'')
    exact ⟨rfl, rfl, rfl⟩
  · rw [arrival] at h''
    obtain ⟨rest, last, _, started, rfl, startsOver, ending⟩ := plays_run_bind_iff.mp h''
    obtain ⟨rfl, ⟨⟩⟩ := plays_done_iff.mp (show Plays (done _) last _ from ending)
    rw [List.append_nil]
    exact ⟨rfl, startsOver⟩

theorem plays_scanCycle {report : ScanReport}
    (h : Plays (scanCycle.run board) said (report, after)) : Scans board said report after := by
  obtain ⟨left, right, rest, leftEvent, rightEvent, mid, polled, rfl, first, second, rfl, later⟩ :=
    plays_scanCycle_cases h
  have pollsLeft := plays_pollSide first
  have pollsRight := plays_pollSide second
  rcases arrival : (leftEvent.toList ++ rightEvent.toList).any BoardEvent.isArrival
  · rw [arrival] at later
    obtain ⟨rfl, rfl⟩ : rest = [] ∧ after = polled := later
    rw [List.append_nil]
    exact .noticed pollsLeft pollsRight arrival
  · rw [arrival] at later
    rw [← List.append_assoc]
    exact .appeared pollsLeft pollsRight arrival (plays_startOver later)

end Both

/-! ## What becomes of the halves -/

/-- On each side, streaming apart, a chain of small changes. -/
def Changes (board after : Board) : Prop :=
  ∀ side, Half.Changes (board.half side) (after.half side)

section Changes
variable {board mid after : Board} {said : Talk}

theorem Changes.refl (board : Board) : board.Changes board := fun _ => .refl

theorem Changes.trans (h : board.Changes mid) (h' : mid.Changes after) : board.Changes after :=
  fun side => (h side).trans (h' side)

theorem changes_setSeat {side : Side} {seat : Seat}
    (h : Half.Changes (board.half side) seat.half) : board.Changes (board.setSeat side seat) := by
  intro other
  rw [half_setSeat]
  by_cases same : other = side
  · rw [if_pos same, same]
    exact h
  · rw [if_neg same]

theorem changes_mapHalf {side : Side} {f : Half → Half}
    (h : Half.Changes (board.half side) (f (board.half side))) :
    board.Changes (board.mapHalf side f) :=
  changes_setSeat h

theorem changes_mapHalves {f : Half → Half} (h : ∀ half, Half.Changes half (f half)) :
    board.Changes (board.mapHalves f) :=
  (changes_mapHalf (h _)).trans (changes_mapHalf (h _))

theorem Acts.changes {α : Type} {side : Side} {op : HalfOp α} {allowed : List UInt8 → Prop}
    {result : Option (Except LinkError α)} (h : Acts side op board said result after)
    (moves : Half.Moves op allowed) : board.Changes after := by
  cases h with
  | suspended => exact .refl board
  | active _ plays => exact changes_mapHalf (moves.changes plays)

theorem ActsBoth.changes {α : Type} {op : HalfOp α} {allowed : List UInt8 → Prop}
    {left right : Talk} (h : ActsBoth op board left right after) (moves : Half.Moves op allowed) :
    board.Changes after := by
  obtain ⟨_, _, mid, first, second⟩ := h
  exact (first.changes moves).trans (second.changes moves)

theorem changes_placeKeys {α : Type} (half : Half) (side : Side) (layout : KeyLayout)
    (result : Except LinkError α) : Half.Changes half (half.placeKeys side layout result) := by
  rw [placeKeys_eq]
  exact .single (.keys _)

theorem PollsSide.changes {side : Side} {event : Option BoardEvent}
    (h : PollsSide side board said event after) : board.Changes after := by
  cases h with
  | suspended => exact .refl board
  | came _ _ polls => exact changes_setSeat (polls.changes.trans (changes_placeKeys _ _ _ _))
  | @went _ _ _ result half' polls =>
    have placed := polls.changes.trans (changes_placeKeys half' side board.layout result)
    exact changes_setSeat (placed.tail (.keys _))
  | stayed _ polls => exact changes_setSeat (polls.changes.trans (changes_placeKeys _ _ _ _))

theorem changes_resendAll (board : Board) : board.Changes board.resendAll := by
  refine (changes_mapHalf ?_).trans (changes_mapHalves fun half => ?_)
  · exact .single (.color _ _)
  · exact .single (.resend half.dimming)

theorem StartsOver.changes (h : StartsOver board said after) : board.Changes after := by
  cases h with
  | intro asks _ pushes =>
    refine (asks.changes Half.moves_readLayout).trans (Changes.trans ?_ (changes_resendAll _))
    exact pushes.changes (Half.moves_send _)

theorem Scans.changes {report : ScanReport} (h : Scans board said report after) :
    board.Changes after := by
  cases h with
  | noticed pollsLeft pollsRight => exact pollsLeft.changes.trans pollsRight.changes
  | appeared pollsLeft pollsRight _ startsOver =>
    exact (pollsLeft.changes.trans pollsRight.changes).trans startsOver.changes

end Changes

end Board

end SplitBoard

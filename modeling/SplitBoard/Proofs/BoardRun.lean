import SplitBoard.Proofs.BoardOps
import SplitBoard.Proofs.UpdateOrder

/-!
# Runs of a board

A run is any number of operations on a new board, in any order, on a bus that
answers as it likes.  What happened is kept as a list of deeds, the newest
first, each with all that was said during it.

**Everything later theorems know of an operation is its `Effect`**, of which
there is one constructor for each kind; `does_effect` is the only place that
opens the operations.
-/

namespace SplitBoard.Board

open Dialogue Bus

/-- The operations besides polling and streaming. -/
inductive Work where
  | setKeyscanInterval (interval : UInt8)
  | setSledCurrent (current : UInt8)
  | versions
  | setLed (side : Side) (index : Nat) (color : Color)
  | fill (color : Color)
  | setBrightness (brightness : UInt8)
  | acknowledge
  | suspend (side : Side)
  | resume (side : Side)
  | flash (side : Side) (image : Firmware.Image)

/-- Carry the operation out, whatever its result. -/
def Work.perform : Work → StateT Board Wire Unit
  | setKeyscanInterval interval => do let _ ← Board.setKeyscanInterval interval
  | setSledCurrent current => do let _ ← Board.setSledCurrent current
  | versions => do let _ ← Board.versions
  | setLed side index color => modify fun board => board.setLed side index color
  | fill color => modify fun board => board.fill color
  | setBrightness brightness => modify fun board => board.setBrightness brightness
  | acknowledge => modify Board.acknowledge
  | suspend side => modify fun board => board.suspend side
  | resume side => modify fun board => board.resume side
  | flash side image => do let _ ← Board.flash side image

/-- An operation that was carried out, and what was said during it.  Of streaming it is known what
was said with which half. -/
inductive Deed where
  | scan (report : ScanReport) (said : Talk)
  | sync (left right : Talk)
  | work (work : Work) (said : Talk)

/-- The deed noticed that a half came. -/
def Deed.connects : Deed → Bool
  | .scan report _ => report.events.any BoardEvent.isArrival
  | _ => false

/-- What was streamed to the half on one side. -/
def Deed.streamed (side : Side) : Deed → Talk
  | .sync left right =>
    match side with
    | .left => left
    | .right => right
  | _ => []

/-- The deed can be done to a board, whatever the bus answers, and leaves another. -/
inductive Does (board : Board) : Deed → Board → Prop where
  | scan {report : ScanReport} {said : Talk} {after : Board}
      (plays : Plays (scanCycle.run board) said (report, after)) :
      Does board (.scan report said) after
  | sync {left right : Talk} {leftResult rightResult : Option (Except LinkError Bool)}
      {mid after : Board}
      (first : Plays ((onActive .left Half.sendNextDirtyBank).run board) left (leftResult, mid))
      (second : Plays ((onActive .right Half.sendNextDirtyBank).run mid) right
        (rightResult, after)) :
      Does board (.sync left right) after
  | work {work : Work} {said : Talk} {after : Board}
      (plays : Plays (work.perform.run board) said ((), after)) :
      Does board (.work work said) after

/-- Streaming is done exactly as it plays. -/
theorem plays_syncLeds_iff {board after : Board} {said : Talk} :
    Plays (syncLeds.run board) said ((), after) ↔
      ∃ left right, said = left ++ right ∧ Does board (.sync left right) after := by
  constructor
  · intro h
    obtain ⟨left, rest, _, mid, rfl, first, h'⟩ := plays_run_bind_iff.mp h
    obtain ⟨right, last, _, after', rfl, second, ending⟩ := plays_run_bind_iff.mp h'
    obtain ⟨rfl, ⟨⟩⟩ := plays_done_iff.mp ending
    rw [List.append_nil]
    exact ⟨left, right, rfl, .sync first second⟩
  · rintro ⟨left, right, rfl, ⟨⟩⟩
    rename_i first second
    refine plays_run_bind_iff.mpr ⟨left, right, _, _, rfl, first, ?_⟩
    refine plays_run_bind_iff.mpr ⟨right, [], _, _, (List.append_nil right).symm, second, ?_⟩
    exact plays_done_iff.mpr ⟨rfl, rfl⟩

/-- The boards that operations lead to from a new one, each with the deeds so far. -/
inductive Reaches (profile : Profile) : List Deed → Board → Prop where
  | new : Reaches profile [] (.new profile)
  | step {past : List Deed} {board after : Board} {deed : Deed}
      (reaches : Reaches profile past board) (does : Does board deed after) :
      Reaches profile (deed :: past) after

/-- What was said decides what an operation leaves. -/
theorem plays_unique {α : Type} {work : StateT Board Wire α} {board after after' : Board} {a a' : α}
    {said : Talk} (h : Plays (work.run board) said (a, after))
    (h' : Plays (work.run board) said (a', after')) : a = a' ∧ after = after' :=
  Prod.mk.inj (h.unique h' (Eq.refl (said ++ []))).2

theorem Does.unique {board after after' : Board} {deed : Deed} (h : Does board deed after)
    (h' : Does board deed after') : after = after' := by
  cases h with
  | scan plays =>
    cases h' with
    | scan plays' => exact (plays_unique plays plays').2
  | sync first second =>
    cases h' with
    | sync first' second' =>
      obtain ⟨-, rfl⟩ := plays_unique first first'
      exact (plays_unique second second').2
  | work plays =>
    cases h' with
    | work plays' => exact (plays_unique plays plays').2

/-- The deeds of a run decide where it ends. -/
theorem Reaches.unique {profile : Profile} {past : List Deed} {board board' : Board}
    (h : Reaches profile past board) (h' : Reaches profile past board') : board = board' := by
  induction h generalizing board' with
  | new =>
    cases h'
    rfl
  | step _ does ih =>
    cases h' with
    | step reaches' does' =>
      obtain rfl := ih reaches'
      exact does.unique does'

/-! ## What a deed does -/

/-- What a deed makes of a board. -/
inductive Effect (board : Board) : Deed → Board → Prop where
  | scan {said : Talk} {report : ScanReport} {after : Board} (scans : Scans board said report after) :
      Effect board (.scan report said) after
  | sync {left right : Talk} {after : Board}
      (acts : ActsBoth Half.sendNextDirtyBank board left right after) :
      Effect board (.sync left right) after
  | setKeyscanInterval {interval : UInt8} {left right : Talk} {after : Board}
      (acts : ActsBoth (Half.setKeyscanInterval interval)
        { board with keyscanInterval := interval } left right after) :
      Effect board (.work (.setKeyscanInterval interval) (left ++ right)) after
  | setSledCurrent {current : UInt8} {left right : Talk} {after : Board}
      (acts : ActsBoth (Half.setSledCurrent current) board left right after) :
      Effect board (.work (.setSledCurrent current) (left ++ right)) after
  | versions {left right : Talk} {after : Board}
      (acts : ActsBoth Half.readVersion board left right after) :
      Effect board (.work .versions (left ++ right)) after
  | setLed (side : Side) (index : Nat) (color : Color) :
      Effect board (.work (.setLed side index color) []) (board.setLed side index color)
  | fill (color : Color) : Effect board (.work (.fill color) []) (board.fill color)
  | setBrightness (brightness : UInt8) :
      Effect board (.work (.setBrightness brightness) []) (board.setBrightness brightness)
  | acknowledge : Effect board (.work .acknowledge []) board.acknowledge
  | suspend (side : Side) : Effect board (.work (.suspend side) []) (board.suspend side)
  | resume (side : Side) : Effect board (.work (.resume side) []) (board.resume side)
  | flash {side : Side} {image : Firmware.Image} {said : Talk}
      {result : Except Firmware.Failure Firmware.Report} {session : Firmware.Session}
      (updates : Plays ((Firmware.update image).run
        { half := (board.half side).mapKeys Keys.clear }) said (result, session)) :
      Effect board (.work (.flash side image) (⟨.tell (.flashing side), ()⟩ :: said))
        (board.setSeat side
          { half :=
              (Firmware.halfAfter ((board.half side).mapKeys Keys.clear) result).markUnavailable })

section Effects
variable {board after : Board} {said : Talk}

theorem run_flash (side : Side) (image : Firmware.Image) :
    (flash side image).run board =
      .ask (.tell (.flashing side)) fun _ =>
      ((Firmware.update image).run { half := (board.half side).mapKeys Keys.clear }).bind
        fun (result, session) => .done (result, board.setSeat side
          { half := session.half.markUnavailable }) := by
  unfold flash
  cases side
  · change ask (V := vocabulary) (.tell (.flashing .left)) _ = _
    congr 1
    funext _
    change (Dialogue.bind ((Firmware.update image).run _) _).bind _ = _
    rw [Dialogue.bind_assoc]
    rfl
  · change ask (V := vocabulary) (.tell (.flashing .right)) _ = _
    congr 1
    funext _
    change (Dialogue.bind ((Firmware.update image).run _) _).bind _ = _
    rw [Dialogue.bind_assoc]
    rfl

/-- Operations that stay off the bus. -/
theorem plays_modify {f : Board → Board}
    (h : Plays ((modify f : StateT Board Wire Unit).run board) said ((), after)) :
    said = [] ∧ after = f board := by
  obtain ⟨rfl, ⟨⟩⟩ := plays_done_iff.mp h
  exact ⟨rfl, rfl⟩

/-- What is made of the result of an operation does not change it. -/
theorem plays_map {α β : Type} {work : StateT Board Wire α} {f : α → β} {b : β}
    (h : Plays ((work >>= fun a => pure (f a)).run board) said (b, after)) :
    ∃ a, Plays (work.run board) said (a, after) ∧ b = f a := by
  obtain ⟨first, last, a, mid, rfl, works, ending⟩ := plays_run_bind_iff.mp h
  obtain ⟨rfl, ⟨⟩⟩ := plays_done_iff.mp ending
  rw [List.append_nil]
  exact ⟨a, works, rfl⟩

/-- The update decides what is left of the half. -/
theorem plays_flash_cases {side : Side} {image : Firmware.Image}
    {result : Except Firmware.Failure Firmware.Report}
    (h : Plays ((flash side image).run board) said (result, after)) :
    ∃ rest session, said = ⟨.tell (.flashing side), ()⟩ :: rest ∧
      Plays ((Firmware.update image).run { half := (board.half side).mapKeys Keys.clear }) rest
        (result, session) ∧
      after = board.setSeat side { half :=
        (Firmware.halfAfter ((board.half side).mapKeys Keys.clear) result).markUnavailable } := by
  rw [run_flash] at h
  obtain ⟨_, rest, rfl, told⟩ := plays_ask_iff.mp h
  obtain ⟨said, last, ⟨result', session⟩, rfl, updates, ending⟩ := plays_bind_iff.mp told
  obtain ⟨rfl, ⟨⟩⟩ := plays_done_iff.mp (show Plays (done _) last _ from ending)
  rw [List.append_nil, (Firmware.ends_of_plays updates).half]
  exact ⟨said, session, rfl, updates, rfl⟩

theorem plays_flash {side : Side} {image : Firmware.Image}
    {result : Except Firmware.Failure Firmware.Report}
    (h : Plays ((flash side image).run board) said (result, after)) :
    Effect board (.work (.flash side image) said) after := by
  obtain ⟨rest, session, rfl, updates, rfl⟩ := plays_flash_cases h
  exact .flash updates

theorem plays_perform {work : Work} (h : Plays (work.perform.run board) said ((), after)) :
    Effect board (.work work said) after := by
  cases work with
  | setKeyscanInterval interval =>
    obtain ⟨result, works, -⟩ := plays_map h
    change Plays ((onBoth (Half.setKeyscanInterval interval)).run
      { board with keyscanInterval := interval }) said (result, after) at works
    obtain ⟨left, right, rfl, acts⟩ := plays_onBoth works
    exact .setKeyscanInterval acts
  | setSledCurrent current =>
    obtain ⟨result, works, -⟩ := plays_map h
    obtain ⟨left, right, rfl, acts⟩ := plays_onBoth works
    exact .setSledCurrent acts
  | versions =>
    obtain ⟨result, works, -⟩ := plays_map h
    obtain ⟨left, right, _, _, mid, rfl, first, second, -⟩ := plays_versions works
    exact .versions ⟨_, _, mid, first, second⟩
  | flash side image =>
    obtain ⟨result, works, -⟩ := plays_map h
    exact plays_flash works
  | setLed side index color =>
    obtain ⟨rfl, rfl⟩ := plays_modify h
    exact .setLed side index color
  | fill color =>
    obtain ⟨rfl, rfl⟩ := plays_modify h
    exact .fill color
  | setBrightness brightness =>
    obtain ⟨rfl, rfl⟩ := plays_modify h
    exact .setBrightness brightness
  | acknowledge =>
    obtain ⟨rfl, rfl⟩ := plays_modify h
    exact .acknowledge
  | suspend side =>
    obtain ⟨rfl, rfl⟩ := plays_modify h
    exact .suspend side
  | resume side =>
    obtain ⟨rfl, rfl⟩ := plays_modify h
    exact .resume side

theorem does_effect {deed : Deed} (h : Does board deed after) : Effect board deed after := by
  cases h with
  | scan plays => exact .scan (plays_scanCycle plays)
  | sync first second => exact .sync ⟨_, _, _, plays_onActive first, plays_onActive second⟩
  | work plays => exact plays_perform plays

/-! ## What becomes of the halves in a run -/

theorem changes_halfAfter (half : Half) (result : Except Firmware.Failure Firmware.Report) :
    Half.Changes half (Firmware.halfAfter half result) := by
  unfold Firmware.halfAfter
  split
  · exact .head (.crcErrors _) (Half.changes_markUnavailable _)
  · exact Half.changes_markUnavailable half

theorem changes_setLed (board : Board) (side : Side) (index : Nat) (color : Color) :
    board.Changes (board.setLed side index color) := by
  unfold setLed
  split
  · exact .refl board
  · exact changes_mapHalf (.single (.color index color))

/-- What holds between a board and itself with one color changed holds of a fill. -/
theorem fillSide_induction {R : Board → Board → Prop} {side : Side} {color : Color}
    (refl : ∀ board, R board board)
    (trans : ∀ {board mid after}, R board mid → R mid after → R board after)
    (each : ∀ board index, R board (board.setLed side index color)) (board : Board) :
    R board (board.fillSide side color) := by
  unfold fillSide
  generalize List.range (board.half side).leds.count = indices
  induction indices generalizing board with
  | nil => exact refl board
  | cons index rest ih => exact trans (each board index) (ih _)

theorem changes_fillSide (board : Board) (side : Side) (color : Color) :
    board.Changes (board.fillSide side color) :=
  fillSide_induction .refl .trans (fun board index => changes_setLed board side index color) board

theorem Effect.changes {deed : Deed} (h : Effect board deed after)
    (other : ∀ left right, deed ≠ .sync left right) : board.Changes after := by
  cases h with
  | scan scans => exact scans.changes
  | sync => exact absurd rfl (other _ _)
  | setKeyscanInterval acts => exact acts.changes (Half.moves_send _)
  | setSledCurrent acts => exact acts.changes (Half.moves_send _)
  | versions acts => exact acts.changes (Half.moves_readRegister _)
  | setLed side index color => exact changes_setLed board side index color
  | fill color =>
    exact (changes_fillSide board .left color).trans (changes_fillSide _ .right color)
  | setBrightness brightness => exact changes_mapHalves fun _ => .single (.resend _)
  | acknowledge => exact changes_mapHalves fun _ => .single (.keys _)
  | suspend side => exact changes_setSeat .refl
  | resume side => exact changes_setSeat (Half.changes_markUnavailable _)
  | @flash side _ _ result =>
    -- the keys are released first, whatever comes of the update
    refine changes_setSeat (.head (.keys (board.half side).keys.clear) ?_)
    exact (changes_halfAfter _ result).trans (Half.changes_markUnavailable _)

theorem Acts.streams {side : Side} {result : Option (Except LinkError Bool)}
    (h : Acts side Half.sendNextDirtyBank board said result after) :
    said = [] ∧ after.half side = board.half side ∨
      ∃ result', Half.Streams (board.half side) said result' (after.half side) := by
  cases h with
  | suspended => exact .inl ⟨rfl, rfl⟩
  | @active _ _ result' half' plays =>
    refine .inr ⟨result', ?_⟩
    rw [half_mapHalf, if_pos rfl]
    exact Half.plays_sendNextDirtyBank plays

/-- Streaming works on each half once, unless it is suspended. -/
theorem streams_sync {left right : Talk}
    (acts : ActsBoth Half.sendNextDirtyBank board left right after) (side : Side) :
    (Deed.sync left right).streamed side = [] ∧ after.half side = board.half side ∨
      ∃ result, Half.Streams (board.half side) ((Deed.sync left right).streamed side) result
        (after.half side) := by
  obtain ⟨_, _, mid, first, second⟩ := acts
  cases side with
  | left =>
    have same : after.half .left = mid.half .left := second.half_of_ne (by decide)
    rw [same]
    exact first.streams
  | right =>
    have same : mid.half .right = board.half .right := first.half_of_ne (by decide)
    rw [← same]
    exact second.streams

end Effects

/-- On each side there is a sound half. -/
def Sound (profile : Profile) (board : Board) : Prop :=
  ∀ side, (board.half side).Sound profile side.select

theorem Sound.of_changes {profile : Profile} {board after : Board} (h : board.Sound profile)
    (changes : board.Changes after) : after.Sound profile :=
  fun side => (changes side).sound (h side)

theorem Sound.address_eq {profile : Profile} {board : Board} (h : board.Sound profile)
    (side : Side) : (board.half side).address = profile.scannerAddress side.select := by
  rw [(h side).address_eq]
  cases side <;> rfl

theorem Reaches.sound {profile : Profile} {past : List Deed} {board : Board}
    (h : Reaches profile past board) : board.Sound profile := by
  intro side
  induction h with
  | new => cases side <;> exact Half.sound_new profile _
  | @step past board after deed _ does ih =>
    have effect := does_effect does
    -- streaming is the one deed that is no chain of small changes
    by_cases other : ∀ left right, deed ≠ .sync left right
    · exact (effect.changes other side).sound ih
    · obtain ⟨left, right, rfl⟩ : ∃ left right, deed = .sync left right := by
        simpa using other
      cases effect with
      | sync acts =>
        rcases streams_sync acts side with ⟨-, same⟩ | ⟨_, streams⟩
        · rw [same]
          exact ih
        · exact streams.sound ih

/-! ## Runs on a given bus -/

/-- What a board can be told to do. -/
inductive Order where
  | scan
  | sync
  | work (work : Work)

section Orders
variable {σ : Type} (partner : Partner vocabulary σ)

/-- Carry an order out on a bus. -/
def carryOut (board : Board) (state : σ) : Order → Deed × Board × σ
  | .scan =>
    let ((report, after), said, state) := (scanCycle.run board).transcribe partner state
    (.scan report said, after, state)
  | .sync =>
    let ((_, mid), left, state) :=
      ((onActive .left Half.sendNextDirtyBank).run board).transcribe partner state
    let ((_, after), right, state) :=
      ((onActive .right Half.sendNextDirtyBank).run mid).transcribe partner state
    (.sync left right, after, state)
  | .work work =>
    let ((_, after), said, state) := (work.perform.run board).transcribe partner state
    (.work work said, after, state)

theorem does_carryOut (board : Board) (state : σ) (order : Order) :
    Does board (carryOut partner board state order).1 (carryOut partner board state order).2.1 := by
  cases order with
  | scan => exact .scan (plays_transcribe _ _ _)
  | sync => exact .sync (plays_transcribe _ _ _) (plays_transcribe _ _ _)
  | work work => exact .work (plays_transcribe _ _ _)

/-- The deeds that orders to a new board lead to, and the board; the newest first. -/
def history (profile : Profile) (state : σ) : List Order → List Deed × Board × σ
  | [] => ([], .new profile, state)
  | order :: earlier =>
    let (past, board, state) := history profile state earlier
    let (deed, after, state) := carryOut partner board state order
    (deed :: past, after, state)

theorem reaches_history (profile : Profile) (state : σ) (orders : List Order) :
    Reaches profile (history partner profile state orders).1
      (history partner profile state orders).2.1 := by
  induction orders with
  | nil => exact .new
  | cons order earlier ih => exact .step ih (does_carryOut partner _ _ order)

end Orders

end SplitBoard.Board

import SplitBoard.Proofs.BoardFrames
import SplitBoard.Proofs.LayoutAnswers
import SplitBoard.Proofs.LedCoherence

/-!
# The LED that ANSI boards lack

An ANSI board lacks one LED of the left half, but the driver would go on showing
its last color.  Two places see to it that it is dark: painting passes it over
while the board is an ANSI board, and starting over blanks it whatever the layout
is then.  **A board becomes an ANSI board by starting over only, so the LED is dark
on every ANSI board** (`keepsDark_of_reaches`).

Painting passes over this one LED and no other (`led?_setLed`, `led?_fill`).
-/

namespace SplitBoard.Board

open Dialogue Bus

/-- The LED is the one that the board lacks. -/
def Lacks (board : Board) (side : Side) (index : Nat) : Prop :=
  side = .left ∧ index = board.profile.isoOnlyLed.toNat ∧ board.layout = .ansi

instance (board : Board) (side : Side) (index : Nat) : Decidable (board.Lacks side index) :=
  inferInstanceAs (Decidable (side = .left ∧ index = board.profile.isoOnlyLed.toNat ∧
    board.layout = .ansi))

variable {profile : Profile} {board mid after : Board} {said : Talk}

/-! ## Painting -/

section Painting
variable {side other : Side} {color : Color}

theorem setLed_of_lacks {index : Nat} (lacks : board.Lacks side index) :
    board.setLed side index color = board :=
  if_pos lacks

theorem setLed_of_not_lacks {index : Nat} (has : ¬board.Lacks side index) :
    board.setLed side index color =
      board.mapHalf side fun half => half.mapLeds (·.set index color) :=
  if_neg has

/-- Two boards with the same LEDs, whatever these show, of which they lack the same one. -/
structure SameLeds (board after : Board) : Prop where
  layout : after.layout = board.layout
  profile : after.profile = board.profile
  count : ∀ side, (after.half side).leds.count = (board.half side).leds.count

theorem SameLeds.refl (board : Board) : board.SameLeds board := ⟨rfl, rfl, fun _ => rfl⟩

theorem SameLeds.trans (h : board.SameLeds mid) (h' : mid.SameLeds after) :
    board.SameLeds after where
  layout := h'.layout.trans h.layout
  profile := h'.profile.trans h.profile
  count side := (h'.count side).trans (h.count side)

theorem SameLeds.lacks_iff (h : board.SameLeds after) {index : Nat} :
    after.Lacks side index ↔ board.Lacks side index := by
  unfold Lacks
  rw [h.layout, h.profile]

theorem sameLeds_setLed (board : Board) (side : Side) (index : Nat) (color : Color) :
    board.SameLeds (board.setLed side index color) := by
  by_cases lacks : board.Lacks side index
  · rw [setLed_of_lacks lacks]
    exact .refl board
  · rw [setLed_of_not_lacks lacks]
    refine ⟨layout_setSeat board side _, by cases side <;> rfl, fun other => ?_⟩
    rw [half_mapHalf]
    split
    · next same =>
      rw [same]
      exact LedBuffer.count_set _ index color
    · rfl

theorem sameLeds_fillSide (board : Board) (side : Side) (color : Color) :
    board.SameLeds (board.fillSide side color) :=
  fillSide_induction .refl .trans (fun board index => sameLeds_setLed board side index color) board

/-- The LED shows the color, unless the board lacks it, and the others show what they showed. -/
theorem led?_setLed (sound : board.Sound profile) (index place : Nat) :
    (board.setLed side index color).led? other place =
      if (other = side ∧ place = index) ∧ ¬board.Lacks other place ∧
          place < (board.half other).leds.count then some color
      else board.led? other place := by
  by_cases lacks : board.Lacks side index
  · rw [setLed_of_lacks lacks, if_neg]
    rintro ⟨⟨rfl, rfl⟩, has, -⟩
    exact has lacks
  rw [setLed_of_not_lacks lacks, led?, half_mapHalf]
  by_cases here : other = side
  · subst here
    rw [if_pos rfl]
    refine (LedBuffer.get?_set (sound other).leds index color place).trans ?_
    by_cases same : place = index
    · subst same
      simp [lacks, led?]
    · simp [same, led?]
  · rw [if_neg here, if_neg fun painted => here painted.1.1]
    rfl

/-- The induction is on the LEDs that are still to be painted.  Painting them changes neither which
LED the board lacks nor how many there are. -/
theorem led?_foldl_setLed (sound : board.Sound profile) (indices : List Nat) (place : Nat) :
    (indices.foldl (fun board index => board.setLed side index color) board).led? other place =
      if (other = side ∧ place ∈ indices) ∧ ¬board.Lacks other place ∧
          place < (board.half other).leds.count then some color
      else board.led? other place := by
  induction indices generalizing board with
  | nil => simp
  | cons first indices ih =>
    have same := sameLeds_setLed board side first color
    rw [List.foldl_cons, ih (sound.of_changes (changes_setLed board side first color)),
      led?_setLed sound]
    simp only [same.lacks_iff, same.count, ← ite_or, List.mem_cons]
    refine if_congr ?_ rfl rfl
    grind

theorem led?_fillSide (sound : board.Sound profile) (place : Nat) :
    (board.fillSide side color).led? other place =
      if other = side ∧ ¬board.Lacks other place ∧ place < (board.half other).leds.count then
        some color
      else board.led? other place := by
  refine (led?_foldl_setLed sound _ place).trans ?_
  by_cases here : other = side
  · subst here
    by_cases inside : place < (board.half other).leds.count <;> simp [inside]
  · simp [here]

/-- Every LED shows the color, unless the board lacks it. -/
theorem led?_fill (sound : board.Sound profile) (place : Nat) :
    (board.fill color).led? side place =
      if ¬board.Lacks side place ∧ place < (board.half side).leds.count then some color
      else board.led? side place := by
  have same := sameLeds_fillSide board .left color
  refine (led?_fillSide (sound.of_changes (changes_fillSide board .left color)) place).trans ?_
  simp only [led?_fillSide sound, same.lacks_iff, same.count]
  cases side <;> simp

theorem sameLeds_fill (board : Board) (color : Color) : board.SameLeds (board.fill color) :=
  (sameLeds_fillSide board .left color).trans (sameLeds_fillSide _ .right color)

end Painting

/-! ## What shows the same -/

/-- No LED shows another color, and the layout is the same. -/
structure SameLook (board after : Board) : Prop where
  layout : after.layout = board.layout
  colors : ∀ side index, after.led? side index = board.led? side index

theorem SameLook.refl (board : Board) : board.SameLook board := ⟨rfl, fun _ _ => rfl⟩

theorem SameLook.trans (h : board.SameLook mid) (h' : mid.SameLook after) :
    board.SameLook after where
  layout := h'.layout.trans h.layout
  colors side index := (h'.colors side index).trans (h.colors side index)

theorem sameLook_setSeat {side : Side} {seat : Seat}
    (colors : ∀ index, seat.half.leds.get? index = (board.half side).leds.get? index) :
    board.SameLook (board.setSeat side seat) := by
  refine ⟨layout_setSeat board side seat, fun other index => ?_⟩
  rw [led?, half_setSeat]
  split
  · next same =>
    rw [same]
    exact colors index
  · rfl

theorem sameLook_mapHalf {side : Side} {f : Half → Half}
    (colors : ∀ half index, (f half).leds.get? index = half.leds.get? index) :
    board.SameLook (board.mapHalf side f) :=
  sameLook_setSeat (colors (board.half side))

theorem sameLook_mapHalves {f : Half → Half}
    (colors : ∀ half index, (f half).leds.get? index = half.leds.get? index) :
    board.SameLook (board.mapHalves f) :=
  (sameLook_mapHalf colors).trans (sameLook_mapHalf colors)

theorem Acts.sameLook {α : Type} {side : Side} {op : HalfOp α} {allowed : List UInt8 → Prop}
    {result : Option (Except LinkError α)} (h : Acts side op board said result after)
    (moves : Half.Moves op allowed) : board.SameLook after := by
  cases h with
  | suspended => exact .refl board
  | active _ plays =>
    refine sameLook_setSeat fun index => ?_
    exact congrArg (·.get? index) (moves _ _ _ _ plays).1.leds_eq

theorem ActsBoth.sameLook {α : Type} {op : HalfOp α} {allowed : List UInt8 → Prop}
    {left right : Talk} (h : ActsBoth op board left right after) (moves : Half.Moves op allowed) :
    board.SameLook after := by
  obtain ⟨_, _, mid, first, second⟩ := h
  exact (first.sameLook moves).trans (second.sameLook moves)

theorem PollsSide.sameLook {side : Side} {event : Option BoardEvent}
    (h : PollsSide side board said event after) : board.SameLook after := by
  -- keys are all that changes besides the availability
  have leds : ∀ {half half' : Half} {said : Talk}
      {result : Except LinkError (Keys halfRows halfCols)} (index : Nat),
      Half.Polls half said result half' →
      (half'.placeKeys side board.layout result).leds.get? index = half.leds.get? index := by
    intro half half' said result index polls
    rw [placeKeys_eq]
    exact congrArg (·.get? index) polls.moved.leds_eq
  cases h with
  | suspended => exact .refl board
  | came _ _ polls => exact sameLook_setSeat fun index => leds index polls
  | went _ _ polls => exact sameLook_setSeat fun index => leds index polls
  | stayed _ polls => exact sameLook_setSeat fun index => leds index polls

theorem get?_of_streams {half half' : Half} {result : Except LinkError Bool}
    (h : Half.Streams half said result half') (index : Nat) :
    half'.leds.get? index = half.leds.get? index := by
  cases h with
  | clean => rfl
  | sent _ sends =>
    refine (LedBuffer.get?_clearDirty _ _ index).trans ?_
    rw [sends.moved.leds_eq]
    rfl
  | unsent _ sends =>
    rw [sends.moved.leds_eq]
    rfl

theorem sameLook_sync {left right : Talk}
    (acts : ActsBoth Half.sendNextDirtyBank board left right after) : board.SameLook after := by
  refine ⟨acts.layout_eq, fun side index => ?_⟩
  rcases streams_sync acts side with ⟨-, same⟩ | ⟨_, streams⟩
  · rw [led?, same]
    rfl
  · exact get?_of_streams streams index

/-! ## Dark LEDs -/

/-- On an ANSI board the LED that only ISO boards have shows nothing but darkness. -/
def Dark (profile : Profile) (board : Board) : Prop :=
  board.layout = .ansi → ∀ color, board.led? .left profile.isoOnlyLed.toNat = some color →
    color = .black

theorem SameLook.dark (h : board.SameLook after) (dark : board.Dark profile) :
    after.Dark profile := by
  intro ansi color shows
  rw [h.layout] at ansi
  rw [h.colors] at shows
  exact dark ansi color shows

theorem Sound.lacks (h : board.Sound profile) (ansi : board.layout = .ansi) :
    board.Lacks .left profile.isoOnlyLed.toNat :=
  ⟨rfl, congrArg (·.isoOnlyLed.toNat) (h .left).profile_eq.symm, ansi⟩

theorem Dark.setLed (dark : board.Dark profile) (sound : board.Sound profile) (side : Side)
    (index : Nat) (color : Color) : (board.setLed side index color).Dark profile := by
  intro ansi shown shows
  rw [(sameLeds_setLed board side index color).layout] at ansi
  rw [led?_setLed sound, if_neg fun painted => painted.2.1 (sound.lacks ansi)] at shows
  exact dark ansi shown shows

theorem Dark.fill (dark : board.Dark profile) (sound : board.Sound profile) (color : Color) :
    (board.fill color).Dark profile := by
  intro ansi shown shows
  rw [(sameLeds_fill board color).layout] at ansi
  rw [led?_fill sound, if_neg fun painted => painted.1 (sound.lacks ansi)] at shows
  exact dark ansi shown shows

/-- Whatever the layout is. -/
theorem dark_resendAll (sound : board.Sound profile) : board.resendAll.Dark profile := by
  intro _ color shows
  have inside := LedBuffer.lt_count_of_get? shows
  exact Option.some.inj (shows.symm.trans (get?_resendAll sound inside))

/-- **No operation lights the LED of an ANSI board.**  Only starting over changes the layout. -/
theorem Effect.dark {deed : Deed} (h : Effect board deed after) (sound : board.Sound profile)
    (dark : board.Dark profile) : after.Dark profile := by
  cases h with
  | scan scans =>
    cases scans with
    | noticed pollsLeft pollsRight =>
      exact (pollsLeft.sameLook.trans pollsRight.sameLook).dark dark
    | appeared pollsLeft pollsRight _ startsOver =>
      have polled := sound.of_changes (pollsLeft.changes.trans pollsRight.changes)
      obtain ⟨pushed, told, rfl⟩ := startsOver.resends polled
      exact dark_resendAll told
  | sync acts => exact (sameLook_sync acts).dark dark
  | @setKeyscanInterval interval _ _ _ acts =>
    have kept : board.SameLook { board with keyscanInterval := interval } :=
      ⟨rfl, fun side _ => by cases side <;> rfl⟩
    exact (kept.trans (acts.sameLook (Half.moves_send _))).dark dark
  | setSledCurrent acts => exact (acts.sameLook (Half.moves_send _)).dark dark
  | versions acts => exact (acts.sameLook (Half.moves_readRegister _)).dark dark
  | setLed side index color => exact dark.setLed sound side index color
  | fill color => exact dark.fill sound color
  | setBrightness brightness =>
    have kept : board.SameLook (board.setBrightness brightness) :=
      sameLook_mapHalves fun _ _ => rfl
    exact kept.dark dark
  | acknowledge =>
    have kept : board.SameLook board.acknowledge := sameLook_mapHalves fun _ _ => rfl
    exact kept.dark dark
  | suspend side =>
    have kept : board.SameLook (board.suspend side) := sameLook_setSeat fun _ => rfl
    exact kept.dark dark
  | resume side =>
    have kept : board.SameLook (board.resume side) := sameLook_setSeat fun _ => rfl
    exact kept.dark dark
  | @flash side _ _ result =>
    refine (sameLook_setSeat fun index => ?_).dark dark
    unfold Firmware.halfAfter
    split <;> rfl

theorem dark_of_reaches {past : List Deed} (reaches : Reaches profile past board) :
    board.Dark profile := by
  induction reaches with
  | new => exact nofun
  | step reaches does ih => exact (does_effect does).dark reaches.sound ih

/-- What becomes of the LEDs that are painted. -/
structure KeepsDark (profile : Profile) (board : Board) : Prop where
  /-- An ANSI board keeps the LED dark that only ISO boards have. -/
  dark : board.layout = .ansi → profile.isoOnlyLed.toNat < (board.half .left).leds.count →
    board.led? .left profile.isoOnlyLed.toNat = some .black
  /-- Every other LED shows the color that it is given, and nothing else changes. -/
  painted : ∀ side index color other place,
    (board.setLed side index color).led? other place =
      if (other = side ∧ place = index) ∧
          ¬(other = .left ∧ place = profile.isoOnlyLed.toNat ∧ board.layout = .ansi) ∧
          place < (board.half other).leds.count then some color
      else board.led? other place
  /-- So it does if all are given one. -/
  filled : ∀ color side place,
    (board.fill color).led? side place =
      if ¬(side = .left ∧ place = profile.isoOnlyLed.toNat ∧ board.layout = .ansi) ∧
          place < (board.half side).leds.count then some color
      else board.led? side place

/-- **The LED that an ANSI board lacks is dark, and painting reaches all others**, whatever was done
and whatever the bus answered. -/
theorem keepsDark_of_reaches {past : List Deed} (reaches : Reaches profile past board) :
    KeepsDark profile board := by
  have sound := reaches.sound
  have profile_eq : board.profile = profile := (sound .left).profile_eq
  refine ⟨fun ansi inside => ?_, fun side index color other place => ?_,
    fun color side place => ?_⟩
  · obtain ⟨color, shows⟩ := (reaches.sound .left).leds.exists_get? inside
    rw [dark_of_reaches reaches ansi color shows] at shows
    exact shows
  · subst profile_eq
    exact led?_setLed sound index place
  · subst profile_eq
    exact led?_fill sound place

/-- The left half says that it is an ANSI half, and everything is painted. -/
theorem keepsDark_of_reaches_filled :
    let run := history Script.partner .raise
      { replies := [[1, 0, 0, 0, 0, 0], [1, 0, 0, 0, 0, 0], [1], [0]] }
      [.work (.fill ⟨9, 9, 9⟩), .scan]
    Reaches .raise run.1 run.2.1 ∧ run.2.1.layout = .ansi ∧
      run.2.1.led? .right 19 = some ⟨9, 9, 9⟩ ∧ KeepsDark .raise run.2.1 := by
  have reaches := reaches_history Script.partner .raise
    { replies := [[1, 0, 0, 0, 0, 0], [1, 0, 0, 0, 0, 0], [1], [0]] }
    [.work (.fill ⟨9, 9, 9⟩), .scan]
  exact ⟨reaches, by decide +kernel, by decide +kernel, keepsDark_of_reaches reaches⟩

end SplitBoard.Board

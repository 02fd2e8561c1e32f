import SplitBoard.Proofs.HalfOps
import Mathlib.Logic.Relation

/-!
# Small changes of a half

Whatever an operation on the board does to a half, streaming apart, is a chain of
a few kinds of small changes (`Change`).  A property of halves that each small
change keeps is kept by all of them, so nothing has to be proved operation by
operation.
-/

namespace SplitBoard.Half

open Dialogue Bus

/-- A small change: of the availability, the keys, the error count, one color, or of the brightness,
where every bank is to be sent again. -/
inductive Change (half : Half) : Half → Prop where
  | availability {half' : Half} (moved : half.Moved half')
      (consistent : half.Consistent → half'.Consistent) : Change half half'
  | keys (keys : Keys halfRows halfCols) : Change half { half with keys }
  | crcErrors (crcErrors : UInt16) : Change half { half with crcErrors }
  | color (index : Nat) (color : Color) : Change half (half.mapLeds (·.set index color))
  | resend (dimming : UInt8) :
      Change half { half with dimming, leds := half.leds.markAllDirty }

/-- A chain of small changes. -/
abbrev Changes : Half → Half → Prop := Relation.ReflTransGen Change

variable {half half' : Half} {said : Talk}

theorem changes_markUnavailable (half : Half) : Changes half half.markUnavailable :=
  .single (.availability (moved_markUnavailable half) fun _ => consistent_markUnavailable half)

theorem Moves.changes {α : Type} {op : HalfOp α} {allowed : List UInt8 → Prop} (h : Moves op allowed)
    {result : Except LinkError α} (plays : Plays (perform op half) said (result, half')) :
    Changes half half' := by
  obtain ⟨moved, consistent, -⟩ := h half half' said result plays
  exact .single (.availability moved consistent)

theorem Polls.changes {result : Except LinkError (Keys halfRows halfCols)}
    (h : Polls half said result half') : Changes half half' :=
  .trans (.single (.keys half'.keys)) (.single (.availability h.moved h.consistent))

/-! ## Sound halves -/

/-- What holds of a half at all times. -/
structure Sound (profile : Profile) (select : UInt8) (half : Half) : Prop where
  profile_eq : half.profile = profile
  select_eq : half.select = select &&& 3
  consistent : half.Consistent
  leds : half.leds.WellFormed

variable {profile : Profile} {select : UInt8}

theorem sound_new (profile : Profile) (select : UInt8) : (new select profile).Sound profile select :=
  ⟨rfl, rfl, consistent_new select profile, LedBuffer.wellFormed_new profile.leds⟩

theorem Sound.address_eq (h : half.Sound profile select) :
    half.address = profile.scannerAddress (select &&& 3) := by
  rw [address, h.profile_eq, h.select_eq]

theorem Sound.of_moved (h : half.Sound profile select) (moved : half.Moved half')
    (consistent : half'.Consistent) : half'.Sound profile select := by
  refine ⟨?_, ?_, consistent, ?_⟩
  · rw [moved]
    exact h.profile_eq
  · rw [moved]
    exact h.select_eq
  · rw [moved]
    exact h.leds

theorem Change.sound (h : Change half half') (sound : half.Sound profile select) :
    half'.Sound profile select := by
  cases h with
  | availability moved consistent => exact sound.of_moved moved (consistent sound.consistent)
  | keys => exact ⟨sound.profile_eq, sound.select_eq, sound.consistent, sound.leds⟩
  | crcErrors => exact ⟨sound.profile_eq, sound.select_eq, sound.consistent, sound.leds⟩
  | color index color =>
    exact ⟨sound.profile_eq, sound.select_eq, sound.consistent,
      LedBuffer.wellFormed_set sound.leds index color⟩
  | resend =>
    exact ⟨sound.profile_eq, sound.select_eq, sound.consistent, sound.leds.of_layout rfl rfl⟩

theorem Changes.sound (h : Changes half half') (sound : half.Sound profile select) :
    half'.Sound profile select := by
  induction h with
  | refl => exact sound
  | tail _ change ih => exact change.sound ih

theorem Streams.sound {result : Except LinkError Bool} (h : Streams half said result half')
    (sound : half.Sound profile select) : half'.Sound profile select := by
  -- whose turn it is does not matter
  have turned : ∀ bank, (half.passTurn bank).Sound profile select := fun bank =>
    ⟨sound.profile_eq, sound.select_eq, sound.consistent, sound.leds.of_layout rfl rfl⟩
  cases h with
  | clean => exact sound
  | @sent bank _ _ _ sends =>
    have arrived := (turned bank).of_moved sends.moved (sends.consistent (turned bank).consistent)
    exact ⟨arrived.profile_eq, arrived.select_eq, arrived.consistent,
      LedBuffer.wellFormed_clearDirty arrived.leds bank⟩
  | @unsent bank _ _ _ _ sends =>
    exact (turned bank).of_moved sends.moved (sends.consistent (turned bank).consistent)

end SplitBoard.Half

import SplitBoard.Proofs.Attention

/-!
# Where the layout comes from

A half that is asked for its layout says so in one byte, which is read in a
transaction of its own behind the command.  **A board that starts over is an ANSI
board exactly if one of the halves it may talk to said so in this byte**
(`layout_of_startOver`): nothing else that is said reads one byte from a half
(`Unread`), so no other answer can be taken for it.
-/

namespace SplitBoard

open Dialogue Bus

/-- The half at an address was sent a command and answered it with one byte. -/
def Reports (address command byte : UInt8) (said : Talk) : Prop :=
  ∃ (before later : Talk) (pause : Nat) (delivery : Delivery 1),
    said = before ++ ⟨.write address [command], Transmission.complete⟩ :: ⟨.wait pause, ()⟩ ::
      ⟨.read address 1, delivery⟩ :: later ∧ delivery.bytes = [byte]

/-- No single byte was read. -/
def Unread (said : Talk) : Prop :=
  ∀ e ∈ said, ∀ address, e.request ≠ .read address 1

/-- A single byte was read, and it was this one. -/
def ReadByte (byte : UInt8) (said : Talk) : Prop :=
  ∃ (address : UInt8) (delivery : Delivery 1),
    ⟨.read address 1, delivery⟩ ∈ said ∧ delivery.bytes = [byte]

section Talk
variable {address command byte : UInt8} {said first second : Talk}

theorem Reports.readByte (h : Reports address command byte said) : ReadByte byte said := by
  obtain ⟨before, later, pause, delivery, rfl, bytes⟩ := h
  exact ⟨address, delivery, by simp, bytes⟩

theorem Reports.append_left (h : Reports address command byte first) :
    Reports address command byte (first ++ second) := by
  obtain ⟨before, later, pause, delivery, rfl, bytes⟩ := h
  exact ⟨before, later ++ second, pause, delivery, by simp, bytes⟩

theorem Reports.append_right (h : Reports address command byte second) :
    Reports address command byte (first ++ second) := by
  obtain ⟨before, later, pause, delivery, rfl, bytes⟩ := h
  exact ⟨first ++ before, later, pause, delivery, by simp, bytes⟩

theorem unread_append (h : Unread first) (h' : Unread second) : Unread (first ++ second) :=
  List.forall_mem_append.mpr ⟨h, h'⟩

theorem unread_of_quiet (quiet : ∀ e ∈ said, e.request.address? = none) : Unread said := by
  intro e member address read
  have silent := quiet e member
  rw [read] at silent
  cases silent

theorem readByte_append :
    ReadByte byte (first ++ second) ↔ ReadByte byte first ∨ ReadByte byte second := by
  constructor
  · rintro ⟨address, delivery, member, bytes⟩
    rcases List.mem_append.mp member with before | after
    · exact .inl ⟨address, delivery, before, bytes⟩
    · exact .inr ⟨address, delivery, after, bytes⟩
  · rintro (⟨address, delivery, member, bytes⟩ | ⟨address, delivery, member, bytes⟩)
    · exact ⟨address, delivery, List.mem_append_left _ member, bytes⟩
    · exact ⟨address, delivery, List.mem_append_right _ member, bytes⟩

theorem Unread.not_readByte (h : Unread said) : ¬ReadByte byte said := by
  rintro ⟨address, delivery, member, -⟩
  exact h _ member address rfl

end Talk

namespace Half

section Reads
variable {half half' : Half} {said : Talk}

theorem Consults.unread {available : Bool} (h : Consults half said available half') :
    Unread said :=
  fun e member address => h.noReads e member address 1

theorem Sends.unread {request : List UInt8} {result : Except LinkError Unit}
    (h : Sends request half said result half') : Unread said :=
  fun e member address => h.noReads e member address 1

/-- Key data are more than one byte. -/
theorem Polls.unread {result : Except LinkError (Keys halfRows halfCols)}
    (h : Polls half said result half') : Unread said := by
  have long : ∀ (half : Half) (address : UInt8),
      Request.read half.address keyDataLength ≠ .read address 1 := by
    intro half address same
    injection same with _ lengths
    cases lengths
  cases h with
  | unavailable consults => exact consults.unread
  | bad consults =>
    refine unread_append consults.unread ?_
    exact List.forall_mem_cons.mpr ⟨long _, List.forall_mem_cons.mpr ⟨nofun, nofun⟩⟩
  | good consults =>
    exact unread_append consults.unread (List.forall_mem_cons.mpr ⟨long _, nofun⟩)

/-- The byte that answers a command is its result. -/
theorem Answers.readByte_iff {command byte : UInt8} {result : Except LinkError (List UInt8)}
    (h : Answers command 1 half said result half') :
    ReadByte byte said ↔ result = .ok [byte] := by
  cases h with
  | unsent sends => exact iff_of_false sends.unread.not_readByte nofun
  | @short said half₁ sends delivery short =>
    refine iff_of_false ?_ nofun
    rw [readByte_append, or_iff_right sends.unread.not_readByte]
    rintro ⟨address, other, member, bytes⟩
    obtain ⟨-, rfl⟩ : address = half₁.address ∧ other = delivery := by simpa using member
    exact short (decide_eq_true (by rw [bytes]; rfl))
  | @full said half₁ sends delivery full =>
    rw [readByte_append, or_iff_right sends.unread.not_readByte]
    constructor
    · rintro ⟨address, other, member, bytes⟩
      obtain ⟨-, rfl⟩ : address = half'.address ∧ other = delivery := by simpa using member
      rw [bytes]
    · intro ok
      exact ⟨half'.address, delivery, by simp, Except.ok.inj ok⟩

theorem Answers.reports {command byte : UInt8}
    (h : Answers command 1 half said (.ok [byte]) half') :
    Reports half.address command byte said := by
  generalize result : Except.ok [byte] = result at h
  cases h with
  | unsent => cases result
  | short => cases result
  | @full said half₁ sends delivery full =>
    have bytes : [byte] = delivery.bytes := Except.ok.inj result
    cases sends with
    | @acknowledged said half₂ consults =>
      rw [List.append_assoc, consults.moved.address_eq.symm]
      exact ⟨said, [], _, delivery, rfl, bytes.symm⟩

/-- An answer has all its bytes. -/
theorem Answers.length_eq {command : UInt8} {length : Nat} {bytes : List UInt8}
    (h : Answers command length half said (.ok bytes) half') : bytes.length = length := by
  cases h with
  | full _ full => exact of_decide_eq_true full

/-- A half that says so in its answer is an ANSI half, and no other is. -/
theorem ansi_of_readLayout {result : Except LinkError KeyLayout}
    (plays : Plays (perform readLayout half) said (result, half')) :
    (result = .ok .ansi ↔ ReadByte 1 said) ∧
      (result = .ok .ansi → Reports half.address Command.layout 1 said) := by
  obtain ⟨register, reads, rfl⟩ := plays_perform_map plays
  obtain ⟨answer, asks, rfl⟩ := plays_perform_map reads
  have answers := plays_readAnswer asks
  have ansi : ((answer.map fun bytes => bytes.headD 0).map KeyLayout.ofReport = .ok .ansi) ↔
      answer = .ok [1] := by
    rcases answer with error | bytes
    · exact ⟨nofun, nofun⟩
    · obtain ⟨byte, rfl⟩ := List.length_eq_one_iff.mp answers.length_eq
      change Except.ok (KeyLayout.ofReport byte) = Except.ok .ansi ↔ _
      unfold KeyLayout.ofReport
      by_cases one : byte = 1
      · rw [if_pos one, one]
        exact iff_of_true rfl rfl
      · rw [if_neg one]
        refine iff_of_false nofun fun same => one ?_
        exact (List.cons.inj (Except.ok.inj same)).1
  rw [ansi]
  refine ⟨answers.readByte_iff.symm, ?_⟩
  rintro rfl
  exact answers.reports

end Reads

end Half

namespace Board

section Boards
variable {board after : Board} {said : Talk} {side : Side}

theorem PollsSide.unread {event : Option BoardEvent} (h : PollsSide side board said event after) :
    Unread said := by
  have noted : ∀ note : Note, Unread [⟨.tell note, ()⟩] := fun note =>
    List.forall_mem_cons.mpr ⟨nofun, nofun⟩
  cases h with
  | suspended => exact nofun
  | came _ _ polls => exact unread_append polls.unread (noted _)
  | went _ _ polls => exact unread_append polls.unread (noted _)
  | stayed _ polls => exact polls.unread

theorem Acts.unread_send {request : List UInt8} {result : Option (Except LinkError Unit)}
    (h : Acts side (Half.send request) board said result after) : Unread said := by
  cases h with
  | suspended => exact nofun
  | active _ plays => exact (Half.plays_send plays).unread

/-- One side is asked, and it is an ANSI half exactly if the byte that was read says so. -/
theorem Acts.ansi_iff {result : Option (Except LinkError KeyLayout)}
    (h : Acts side Half.readLayout board said result after) :
    (result = some (.ok .ansi) ↔ ReadByte 1 said) ∧
      (result = some (.ok .ansi) → (board.seat side).suspended = false ∧
        Reports (board.half side).address Half.Command.layout 1 said) := by
  cases h with
  | suspended => exact ⟨iff_of_false nofun (Unread.not_readByte nofun), nofun⟩
  | active active plays =>
    obtain ⟨read, reported⟩ := Half.ansi_of_readLayout plays
    rw [Option.some.injEq]
    exact ⟨read, fun ansi => ⟨active, reported ansi⟩⟩

theorem Acts.layout_eq {α : Type} {op : HalfOp α} {result : Option (Except LinkError α)}
    (h : Acts side op board said result after) : after.layout = board.layout := by
  cases h with
  | suspended => rfl
  | active => exact layout_setSeat board side _

theorem ActsBoth.layout_eq {α : Type} {op : HalfOp α} {left right : Talk}
    (h : ActsBoth op board left right after) : after.layout = board.layout := by
  obtain ⟨_, _, mid, first, second⟩ := h
  exact second.layout_eq.trans first.layout_eq

theorem layout_resendAll (board : Board) : board.resendAll.layout = board.layout := rfl

/-- **A board that starts over is an ANSI board exactly if a half said so**, one that is not
suspended; and exactly if that byte was read at all. -/
theorem layout_of_startOver (plays : Plays (startOver.run board) said ((), after)) :
    (after.layout = .ansi ↔ ReadByte 1 said) ∧
      (after.layout = .ansi → ∃ side, (board.seat side).suspended = false ∧
        Reports (board.half side).address Half.Command.layout 1 said) := by
  obtain ⟨_, notes, _, layout, asked, _, pushed, rfl, asking, quiet, pushing, rfl⟩ :=
    plays_startOver_cases plays
  obtain ⟨askLeft, askRight, _, _, mid, rfl, asksLeft, asksRight, ansi⟩ := plays_askLayout asking
  obtain ⟨pushLeft, pushRight, rfl, _, _, midway, pushesLeft, pushesRight⟩ := plays_onBoth pushing
  have settled : pushed.resendAll.layout = layout :=
    (layout_resendAll pushed).trans (pushesRight.layout_eq.trans pushesLeft.layout_eq)
  have later : Unread (notes ++ (pushLeft ++ pushRight)) :=
    unread_append (unread_of_quiet quiet)
      (unread_append pushesLeft.unread_send pushesRight.unread_send)
  obtain ⟨readLeft, reportsLeft⟩ := asksLeft.ansi_iff
  obtain ⟨readRight, reportsRight⟩ := asksRight.ansi_iff
  rw [settled, ansi]
  constructor
  · rw [readByte_append, or_iff_left later.not_readByte, readByte_append, readLeft, readRight]
  · rintro (left | right)
    · obtain ⟨active, reported⟩ := reportsLeft left
      exact ⟨.left, active, reported.append_left.append_left⟩
    · obtain ⟨active, reported⟩ := reportsRight right
      have respects := asksLeft.respects Half.confined_readLayout
      rw [respects.suspended] at active
      rw [respects.address] at reported
      exact ⟨.right, active, reported.append_right.append_left⟩

end Boards

end Board

end SplitBoard

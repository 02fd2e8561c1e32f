import SplitBoard.Bus.Wire

/-!
# Phases of an update, read off what was said

Two steps of an update may send the same bytes: nothing keeps a profile from
giving two commands one code.  What a transaction is for is therefore read off
the phases told before it, not off its bytes.

**Everything here is newest first**, as a recording partner keeps it, so the
phase under way is the head of the phases told.
-/

namespace SplitBoard.Firmware

/-- The phase that a request tells, if it tells one. -/
def phaseTold? : Bus.Request → Option Phase
  | .tell (.phase phase) => some phase
  | _ => none

/-- The phases told. -/
def phasesTold (past : Bus.Talk) : List Phase :=
  past.filterMap fun e => phaseTold? e.request

/-- The phase under way. -/
def phaseOf (past : Bus.Talk) : Phase :=
  (phasesTold past).headD .idle

/-- The transactions of a phase. -/
def during (phase : Phase) : Bus.Talk → Bus.Talk
  | [] => []
  | e :: past =>
    if e.request.address?.isSome ∧ phaseOf past = phase then e :: during phase past
    else during phase past

variable {past : Bus.Talk} {e : Exchange Bus.vocabulary} {phase : Phase}

@[simp] theorem phasesTold_nil : phasesTold [] = [] := rfl

@[simp] theorem during_nil : during phase [] = [] := rfl

theorem phaseOf_eq {rest : List Phase} (h : phasesTold past = phase :: rest) :
    phaseOf past = phase := by
  rw [phaseOf, h, List.headD_cons]

/-- What is no transaction belongs to no phase. -/
theorem during_cons_of_none (h : e.request.address? = none) :
    during phase (e :: past) = during phase past := by
  rw [during, if_neg fun both => by simp [h] at both]

/-- A transaction belongs to the phase under way. -/
theorem during_cons_of_some {address : UInt8} (h : e.request.address? = some address) :
    during phase (e :: past) =
      if phaseOf past = phase then e :: during phase past else during phase past := by
  simp only [during, h, Option.isSome_some, true_and]

section Requests
variable (address : UInt8) (bytes : List UInt8) (n : Nat)

@[simp] theorem phasesTold_write (status : Transmission) :
    phasesTold (⟨.write address bytes, status⟩ :: past) = phasesTold past := rfl

@[simp] theorem phasesTold_hold (status : Transmission) :
    phasesTold (⟨.hold address bytes, status⟩ :: past) = phasesTold past := rfl

@[simp] theorem phasesTold_read (delivery : Delivery n) :
    phasesTold (⟨.read address n, delivery⟩ :: past) = phasesTold past := rfl

@[simp] theorem phasesTold_wait (reply : Unit) :
    phasesTold (⟨.wait n, reply⟩ :: past) = phasesTold past := rfl

@[simp] theorem phasesTold_phase (told : Phase) (reply : Unit) :
    phasesTold (⟨.tell (.phase told), reply⟩ :: past) = told :: phasesTold past := rfl

@[simp] theorem phaseOf_write (status : Transmission) :
    phaseOf (⟨.write address bytes, status⟩ :: past) = phaseOf past := rfl

@[simp] theorem phaseOf_hold (status : Transmission) :
    phaseOf (⟨.hold address bytes, status⟩ :: past) = phaseOf past := rfl

@[simp] theorem phaseOf_read (delivery : Delivery n) :
    phaseOf (⟨.read address n, delivery⟩ :: past) = phaseOf past := rfl

@[simp] theorem phaseOf_wait (reply : Unit) :
    phaseOf (⟨.wait n, reply⟩ :: past) = phaseOf past := rfl

@[simp] theorem phaseOf_phase (told : Phase) (reply : Unit) :
    phaseOf (⟨.tell (.phase told), reply⟩ :: past) = told := rfl

@[simp] theorem during_write (status : Transmission) :
    during phase (⟨.write address bytes, status⟩ :: past) =
      if phaseOf past = phase then ⟨.write address bytes, status⟩ :: during phase past
      else during phase past :=
  during_cons_of_some rfl

@[simp] theorem during_hold (status : Transmission) :
    during phase (⟨.hold address bytes, status⟩ :: past) =
      if phaseOf past = phase then ⟨.hold address bytes, status⟩ :: during phase past
      else during phase past :=
  during_cons_of_some rfl

@[simp] theorem during_read (delivery : Delivery n) :
    during phase (⟨.read address n, delivery⟩ :: past) =
      if phaseOf past = phase then ⟨.read address n, delivery⟩ :: during phase past
      else during phase past :=
  during_cons_of_some rfl

@[simp] theorem during_wait (reply : Unit) :
    during phase (⟨.wait n, reply⟩ :: past) = during phase past :=
  during_cons_of_none rfl

@[simp] theorem during_tell (note : Note) (reply : Unit) :
    during phase (⟨.tell note, reply⟩ :: past) = during phase past :=
  during_cons_of_none rfl

end Requests

end SplitBoard.Firmware

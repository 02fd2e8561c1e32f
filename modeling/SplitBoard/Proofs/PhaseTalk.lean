import SplitBoard.Proofs.Availability
import SplitBoard.Proofs.UpdateCourse

/-!
# What is sent in a phase

What was sent in a phase is found by the phases told: a stretch of talk in which
no phase is told belongs to the phase before it (`sentIn_told`), and a phase that
was never told has no transactions (`sentIn_eq_nil`).  The stretches that an
update is made of tell the phases that they begin with, and no pages.
-/

namespace SplitBoard.Firmware

open Half (transactions transactions_append)

/-! ## What was sent, and what was told -/

/-- The page that a request tells to be done, of how many. -/
def pageTold? : Bus.Request → Option (Nat × Nat)
  | .tell (.page written total) => some (written, total)
  | _ => none

/-- The pages told to be done, in order. -/
def pagesTold (said : Bus.Talk) : List (Nat × Nat) :=
  said.filterMap fun e => pageTold? e.request

/-- The transactions of a phase, in order. -/
def sentIn (phase : Phase) (said : Bus.Talk) : Bus.Talk :=
  (during phase said.reverse).reverse

/-- Neither a phase nor a page is told. -/
structure Quiet (said : Bus.Talk) : Prop where
  phases : phasesTold said = []
  pages : pagesTold said = []

section Talk
variable {said later past : Bus.Talk} {phase : Phase}

theorem phasesTold_append : phasesTold (said ++ later) = phasesTold said ++ phasesTold later :=
  List.filterMap_append

theorem pagesTold_append : pagesTold (said ++ later) = pagesTold said ++ pagesTold later :=
  List.filterMap_append

theorem Quiet.append (h : Quiet said) (h' : Quiet later) : Quiet (said ++ later) := by
  constructor
  · rw [phasesTold_append, h.phases, h'.phases]
    rfl
  · rw [pagesTold_append, h.pages, h'.pages]
    rfl

/-- What is said while no phase is told belongs to the phase under way. -/
theorem during_append (quiet : phasesTold later = []) :
    during phase (later ++ past) =
      if phaseOf past = phase then transactions later ++ during phase past
      else during phase past := by
  induction later with
  | nil =>
    rw [List.nil_append]
    split <;> rfl
  | cons e later ih =>
    have none : ∀ x ∈ e :: later, phaseTold? x.request = none := List.filterMap_eq_nil_iff.mp quiet
    have quiet : phasesTold later = [] :=
      List.filterMap_eq_nil_iff.mpr fun x member => none x (List.mem_cons_of_mem e member)
    have under : phaseOf (later ++ past) = phaseOf past := by
      rw [phaseOf, phasesTold_append, quiet, List.nil_append, ← phaseOf]
    rw [List.cons_append, during, under, ih quiet]
    by_cases same : phaseOf past = phase
    · rw [if_pos same, if_pos same]
      by_cases sent : e.request.address?.isSome = true
      · have more : transactions (e :: later) = e :: transactions later :=
          List.filter_cons_of_pos sent
        rw [if_pos ⟨sent, same⟩, more, List.cons_append]
      · have none : transactions (e :: later) = transactions later := List.filter_cons_of_neg sent
        rw [if_neg (fun both => sent both.1), none]
    · rw [if_neg (fun both => same both.2), if_neg same, if_neg same]

theorem phasesTold_reverse : phasesTold said.reverse = (phasesTold said).reverse :=
  List.filterMap_reverse

/-- The same, with what was said in the order in which it was said. -/
theorem sentIn_append (quiet : phasesTold later = []) :
    sentIn phase (said ++ later) =
      if phaseOf said.reverse = phase then sentIn phase said ++ transactions later
      else sentIn phase said := by
  have back : phasesTold later.reverse = [] := by
    rw [phasesTold_reverse, quiet]
    rfl
  rw [sentIn, List.reverse_append, during_append back]
  split
  · rw [List.reverse_append, transactions, List.filter_reverse, List.reverse_reverse]
    rfl
  · rfl

/-- A phase that is told begins a new stretch of transactions. -/
theorem sentIn_told (begun : Phase) (quiet : phasesTold later = []) :
    sentIn phase (said ++ told (.phase begun) :: later) =
      if begun = phase then sentIn phase said ++ transactions later else sentIn phase said := by
  have note : sentIn phase (said ++ [told (.phase begun)]) = sentIn phase said := by
    rw [sentIn, List.reverse_concat, during_tell]
    rfl
  rw [List.append_cons, sentIn_append quiet, List.reverse_concat, phaseOf_phase, note]

/-- Nothing was sent in a phase that was never told. -/
theorem sentIn_eq_nil (never : phase ∉ phasesTold said) (other : phase ≠ .idle) :
    sentIn phase said = [] := by
  have nothing : ∀ past : Bus.Talk, phase ∉ phasesTold past → during phase past = [] := by
    intro past
    induction past with
    | nil => exact fun _ => rfl
    | cons e past ih =>
      intro never
      have before : phase ∉ phasesTold past := by
        intro member
        obtain ⟨e', among, here⟩ := List.mem_filterMap.mp member
        exact never (List.mem_filterMap.mpr ⟨e', List.mem_cons_of_mem e among, here⟩)
      have elsewhere : phaseOf past ≠ phase := by
        rintro rfl
        unfold phaseOf at before other
        rcases told : phasesTold past with _ | ⟨last, earlier⟩
        · rw [told] at other
          exact other rfl
        · rw [told] at before
          exact before List.mem_cons_self
      rw [during, if_neg (fun both => elsewhere both.2), ih before]
  rw [sentIn, nothing said.reverse, List.reverse_nil]
  rw [phasesTold_reverse, List.mem_reverse]
  exact never

/-- Notes at the end are no transactions. -/
theorem sentIn_append_notes (notes : transactions later = []) (quiet : phasesTold later = []) :
    sentIn phase (said ++ later) = sentIn phase said := by
  rw [sentIn_append quiet, notes, List.append_nil, ite_self]

end Talk

/-! ## Stretches of an update -/

section Stretches
variable {image : Image} {half : Half} {said : Bus.Talk} {version : UInt8} {crc : UInt16}

theorem quiet_talk (image : Image) (half : Half) (asking : Asking) :
    Quiet (asking.talk image half) := by
  cases asking <;> exact ⟨rfl, rfl⟩

theorem quiet_failedTalk (image : Image) (half : Half) (failed : List Asking) :
    Quiet (failedTalk image half failed) := by
  induction failed with
  | nil => exact ⟨rfl, rfl⟩
  | cons asking failed ih =>
    rw [failedTalk, List.flatMap_cons, ← failedTalk]
    exact ((quiet_talk image half asking).append ⟨rfl, rfl⟩).append ih

theorem phasesTold_opening (image : Image) (half : Half) (old : Delivery 3) (asking : Asking) :
    phasesTold (opening image half old asking) = [.verifying] := by
  have quiet := quiet_talk image half asking
  change .verifying :: phasesTold (asking.talk image half) = _
  rw [quiet.phases]

theorem pagesTold_opening (image : Image) (half : Half) (old : Delivery 3) (asking : Asking) :
    pagesTold (opening image half old asking) = [] :=
  (quiet_talk image half asking).pages

theorem phasesTold_erasing (begun : Bus.Talk) (status : Transmission) :
    phasesTold (begun ++ told (.reported half.bootloaderAddress version crc) ::
      erasing half status) = phasesTold begun ++ [.erasing] :=
  phasesTold_append

theorem pagesTold_erasing (begun : Bus.Talk) (status : Transmission) :
    pagesTold (begun ++ told (.reported half.bootloaderAddress version crc) ::
      erasing half status) = pagesTold begun := by
  rw [pagesTold_append]
  exact List.append_nil _

theorem Begins.phases (h : Begins image half said version crc) :
    phasesTold said = [.verifying, .erasing] := by
  obtain ⟨-⟩ := h
  rw [phasesTold_erasing, phasesTold_opening]
  rfl

theorem Begins.pages (h : Begins image half said version crc) : pagesTold said = [] := by
  obtain ⟨-⟩ := h
  rw [pagesTold_erasing, pagesTold_opening]

/-- Before the pages nothing is written. -/
theorem Begins.sentIn_eq_nil (h : Begins image half said version crc) :
    sentIn .writing said = [] :=
  Firmware.sentIn_eq_nil (by rw [h.phases]; decide) (by decide)

/-- What is told at the end belongs to phases of its own. -/
theorem sentIn_conclusion (said : Bus.Talk) (half : Half) (phase last : Phase)
    (result : Except Failure Report) (notDone : phase ≠ .done) (notFailed : phase ≠ .failed) :
    sentIn phase (said ++ conclusion half last result) = sentIn phase said := by
  rcases result with failure | report
  · rw [conclusion, List.append_cons, sentIn_told .failed rfl, if_neg notFailed.symm,
      sentIn_append_notes rfl rfl]
  · rw [conclusion, sentIn_told .done rfl, if_neg notDone.symm]

end Stretches

end SplitBoard.Firmware

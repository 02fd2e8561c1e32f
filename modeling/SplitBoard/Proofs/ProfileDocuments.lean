import SplitBoard.Profile.Document
import SplitBoard.Proofs.Declarations
import SplitBoard.Proofs.TomlTrees
import Mathlib

/-!
# Profiles come back from their documents

A profile is its gamma table and the numbers that a document can hold, each under a path
of its own (`numbers`, `eq_of_numbers`).  A document that has some of these numbers,
whichever they are and however it is laid out, is read as **these numbers on top of the
reference halves**.  Every choice of numbers can be printed as such a document, and with
all of them it is the document that `print` gives.

Reading and printing is left to a library, of which only that is used which
`Toml.Library.Faithful` says.
-/

namespace SplitBoard

open Toml (Declaration Library Number)

namespace Profile

/-! ## Numbers -/

/-- Every number that a document can hold. -/
def numbers : List (Number Profile) := [
  ⟨["scanner_address_base"], fun p => p.scannerBase.toNat⟩,
  ⟨["bootloader_address_base"], fun p => p.bootloaderBase.toNat⟩,
  ⟨["settle_delay_us"], fun p => p.settleDelay.toNat⟩,
  ⟨["retry_backoff"], fun p => p.retryBackoff.toNat⟩,
  ⟨["keyscan_interval"], fun p => p.keyscanInterval.toNat⟩,
  ⟨["red_channel"], fun p => p.redChannel.toNat⟩,
  ⟨["red_compensation"], fun p => p.redCompensation.toNat⟩,
  ⟨["iso_only_led"], fun p => p.isoOnlyLed.toNat⟩,
  ⟨["leds", "count"], fun p => p.leds.count.toNat⟩,
  ⟨["leds", "per_bank"], fun p => p.leds.perBank.toNat⟩,
  ⟨["flasher", "page_size"], fun p => p.flasher.pageSize.toNat⟩,
  ⟨["flasher", "frame_size"], fun p => p.flasher.frameSize.toNat⟩,
  ⟨["flasher", "blank"], fun p => p.flasher.blank.toNat⟩,
  ⟨["flasher", "delay_ms"], fun p => p.flasher.delay.toNat⟩,
  ⟨["flasher", "erase_delay_ms"], fun p => p.flasher.eraseDelay.toNat⟩,
  ⟨["flasher", "crc_settle_ms"], fun p => p.flasher.crcSettle.toNat⟩,
  ⟨["flasher", "frame_ack"], fun p => p.flasher.frameAck.toNat⟩,
  ⟨["flasher", "reverify_attempts"], fun p => p.flasher.reverifyAttempts.toNat⟩,
  ⟨["flasher", "reverify_delay_ms"], fun p => p.flasher.reverifyDelay.toNat⟩,
  ⟨["flasher", "commands", "page_address"], fun p => p.flasher.commands.pageAddress.toNat⟩,
  ⟨["flasher", "commands", "continue_page"], fun p => p.flasher.commands.continuePage.toNat⟩,
  ⟨["flasher", "commands", "execute"], fun p => p.flasher.commands.execute.toNat⟩,
  ⟨["flasher", "commands", "erase_program"], fun p => p.flasher.commands.eraseProgram.toNat⟩,
  ⟨["flasher", "commands", "get_version_and_crc"],
    fun p => p.flasher.commands.getVersionAndCrc.toNat⟩]

theorem numbers_declaration : declaration.numbers = numbers := rfl

theorem tables_declaration :
    declaration.tables = [[], ["leds"], ["flasher"], ["flasher", "commands"]] := rfl

theorem default_declaration : declaration.default = raise := rfl

/-- The numbers and the gamma table are all there is to a profile. -/
theorem eq_of_numbers {p q : Profile} (gamma : p.gamma = q.gamma)
    (same : ∀ n ∈ numbers, n.get p = n.get q) : p = q := by
  simp only [numbers, List.forall_mem_cons, UInt8.toNat_inj, UInt16.toNat_inj, UInt32.toNat_inj]
    at same
  rcases p with ⟨_, _, _, _, _, _, _, _, ⟨_, _⟩, _, ⟨_, _, _, _, _, _, _, _, _, ⟨_, _, _, _, _⟩⟩⟩
  rcases q with ⟨_, _, _, _, _, _, _, _, ⟨_, _⟩, _, ⟨_, _, _, _, _, _, _, _, _, ⟨_, _, _, _, _⟩⟩⟩
  grind

/-- Every field has a key and a place of its own. -/
theorem lawful_declaration : declaration.Lawful := by
  repeat' first
    | exact .filledFrom _
    | exact fun _ _ => rfl
    | rfl
    | apply Declaration.Lawful.byte
    | apply Declaration.Lawful.word
    | apply Declaration.Lawful.long
    | apply Declaration.Lawful.table
    | apply Declaration.Apart.number
    | apply Declaration.Apart.table
    | decide

theorem keeps_gamma : declaration.Keeps gamma := by
  repeat' first
    | exact trivial
    | exact fun _ _ => rfl
    | apply And.intro

/-! ## Documents -/

/-- The document has the profile's value of each chosen number, and nothing in the place of the
others. Where a table may stand there is nothing else. -/
structure Holds (document : Toml.Entries) (chosen : List String → Bool) (p : Profile) : Prop where
  table : ∀ path ∈ [["leds"], ["flasher"], ["flasher", "commands"]], ∀ value,
    (Toml.Value.table document).find? path = some value → ∃ entries, value = .table entries
  number : ∀ n ∈ numbers, (Toml.Value.table document).find? n.path =
    if chosen n.path then some (.integer (n.get p)) else none

section Documents

variable {library : Library} {document : Toml.Entries} {chosen : List String → Bool} {p : Profile}

theorem holds_iff : declaration.Holds (.table document) chosen p ↔ Holds document chosen p := by
  constructor
  · rintro ⟨table, number⟩
    rw [tables_declaration] at table
    rw [numbers_declaration] at number
    exact ⟨(List.forall_mem_cons.mp table).2, number⟩
  · rintro ⟨table, number⟩
    rw [← numbers_declaration] at number
    refine ⟨?_, number⟩
    rw [tables_declaration]
    exact List.forall_mem_cons.mpr
      ⟨fun value there => ⟨document, (Option.some_inj.mp there).symm⟩, table⟩

/-- The chosen numbers of one profile, on top of the reference halves. -/
theorem Holds.parse (holds : Holds document chosen p) (faithful : library.Faithful) {text : String}
    (read : library.read text = some document) :
    ∃ q, parse library text = some q ∧ q.gamma = raise.gamma ∧
      ∀ n ∈ numbers, n.get q = if chosen n.path then n.get p else n.get raise := by
  obtain ⟨q, decoded, overlay⟩ :=
    Declaration.exists_overlay faithful lawful_declaration (holds_iff.mpr holds)
  refine ⟨q, ?_, ?_, ?_⟩
  · rw [Profile.parse, read]
    exact decoded
  · rw [overlay.kept gamma keeps_gamma, default_declaration]
  · rw [← numbers_declaration, ← default_declaration]
    exact overlay.number

/-- Every choice of numbers can be printed. -/
theorem exists_text (faithful : library.Faithful) (chosen : List String → Bool) (p : Profile) :
    ∃ text document, library.write (declaration.tree chosen p) = some text ∧
      library.read text = some document ∧ Holds document chosen p := by
  obtain ⟨text, document, written, read, holds⟩ := Declaration.exists_text faithful
    lawful_declaration (by decide) (by decide) chosen p
  exact ⟨text, document, written, read, holds_iff.mp holds⟩

end Documents

/-! ## Profiles come back -/

/-- Any text that has the chosen numbers of a profile, and only these, is read as these numbers on
top of the reference halves.  There is such a text for every choice, and a profile is printed as a
text that is read as the profile itself.  All of this is so with any library that keeps what
libraries promise. -/
theorem parse_chosen (library : Library) (faithful : library.Faithful) (p : Profile)
    (builtin : p.gamma = raise.gamma) (chosen : List String → Bool) :
    (∀ text document, library.read text = some document → Holds document chosen p →
      ∃ q, parse library text = some q ∧ q.gamma = raise.gamma ∧
        ∀ n ∈ numbers, n.get q = if chosen n.path then n.get p else n.get raise) ∧
    (∃ text document, library.read text = some document ∧ Holds document chosen p) ∧
    ∃ text, p.print library = some text ∧ parse library text = some p := by
  refine ⟨fun text document read holds => holds.parse faithful read, ?_, ?_⟩
  · obtain ⟨text, document, -, read, holds⟩ := exists_text faithful chosen p
    exact ⟨text, document, read, holds⟩
  · obtain ⟨text, document, written, read, holds⟩ := exists_text faithful (fun _ => true) p
    obtain ⟨q, parsed, gamma, same⟩ := holds.parse faithful read
    rw [← Declaration.encode_eq faithful] at written
    rw [eq_of_numbers (gamma.trans builtin.symm) same] at parsed
    exact ⟨text, written, parsed⟩

/-- The largest values come back, and a document with one of them leaves the others alone. -/
theorem parse_chosen_largest :
    Toml.library.Faithful ∧
    ∃ p : Profile, p.gamma = raise.gamma ∧ p.settleDelay = 0xFFFFFFFF ∧
      (∃ text, p.print Toml.library = some text ∧ parse Toml.library text = some p) ∧
      ∃ q, parse Toml.library "leds.per_bank = 0xFF # for one bank" = some q ∧
        q.leds.perBank.toNat = 255 ∧ q.settleDelay.toNat = 40 := by
  let p : Profile := { raise with settleDelay := 0xFFFFFFFF, leds := ⟨72, 255⟩ }
  have read : Toml.library.read "leds.per_bank = 0xFF # for one bank" =
      some [("leds", .table [("per_bank", .integer 255)])] := by
    change Toml.parse "leds.per_bank = 0xFF # for one bank".toList = _
    cbv
  have holds : Holds [("leds", .table [("per_bank", .integer 255)])]
      (fun path => path = ["leds", "per_bank"]) p := by
    constructor
    · simp [Toml.Value.find?, Toml.lookup_cons_eq_ite]
    · simp only [numbers, List.forall_mem_cons]
      simp [Toml.Value.find?, Toml.lookup_cons_eq_ite, p]
  obtain ⟨reads, -, whole⟩ := parse_chosen Toml.library Toml.faithful_library p rfl
    fun path => path = ["leds", "per_bank"]
  obtain ⟨q, parsed, -, same⟩ := reads _ _ read holds
  have perBank := same ⟨["leds", "per_bank"], fun p => p.leds.perBank.toNat⟩ (by simp [numbers])
  have settleDelay := same ⟨["settle_delay_us"], fun p => p.settleDelay.toNat⟩ (by simp [numbers])
  exact ⟨Toml.faithful_library, p, rfl, rfl, whole, q, parsed, perBank, settleDelay⟩

end Profile
end SplitBoard

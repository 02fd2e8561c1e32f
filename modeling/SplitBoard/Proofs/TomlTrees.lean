import SplitBoard.Proofs.TomlLines
import SplitBoard.Proofs.TomlTables
import SplitBoard.Toml.Standard

/-!
# Printed trees are read

A printed tree leads through a reading line by line, and leaves the document with the
tree in its place (`exists_leads`).  The induction is on the tree, with the tables around
it as they are: its numbers are added to the table that is open, and each table in it is
opened under the tree before it.  So **the library keeps what a library promises**
(`faithful_library`).
-/

namespace SplitBoard.Toml

namespace Reading

/-- Text leads from one reading to another, whatever follows it. -/
def Leads (reading : Reading) (text : List Char) (next : Reading) : Prop :=
  ∀ rest final, next.Reads rest final → reading.Reads (text ++ rest) final

section Leads

variable {reading middle next : Reading} {first second : List Char}

theorem Leads.nil (reading : Reading) : reading.Leads [] reading :=
  fun _ _ following => following

theorem Leads.append (h : reading.Leads first middle) (h' : middle.Leads second next) :
    reading.Leads (first ++ second) next := by
  intro rest final following
  rw [List.append_assoc]
  exact h _ _ (h' _ _ following)

end Leads

end Reading

namespace Tree

variable {tree : Tree} {key : String}

/-- The table that a tree is when it has been read. -/
def draft : Tree → Draft
  | empty => {}
  | number before key n => before.draft.add key (.value (.integer n))
  | table before key inner => before.draft.add key inner.draft.item

theorem isDotted_draft (tree : Tree) : tree.draft.isDotted = false := by
  induction tree with
  | empty => rfl
  | number _ _ _ ih => exact ih
  | table _ _ _ ih => exact ih

theorem find?_draft_of_notMem (fresh : key ∉ tree.keys) : tree.draft.find? key = none := by
  induction tree with
  | empty => rfl
  | number before _ _ ih =>
    obtain ⟨other, before⟩ := not_or.mp (mt List.mem_cons.mpr fresh)
    rw [draft, Draft.find?_add, if_neg other, ih before]
  | table before _ _ ih =>
    obtain ⟨other, before⟩ := not_or.mp (mt List.mem_cons.mpr fresh)
    rw [draft, Draft.find?_add, if_neg other, ih before]

/-! ## Reading the lines -/

/-- **A printed tree is read into its place.** As long as there are only numbers, the place itself
stays open. -/
theorem exists_leads (printable : tree.Printable) {around : Around} (free : around.Free)
    (bare : ∀ key ∈ around.path, IsBareKey key)
    (short : around.path.length + tree.depth ≤ depthLimit) :
    ∃ next, (around.opened {}).Leads (tree.lines around.path) next ∧
      next.close = some (around.plug tree.draft) ∧
      (tree.isFlat = true → next = around.opened tree.draft) := by
  induction printable generalizing around with
  | empty => exact ⟨_, .nil _, around.close_opened free _, fun _ => rfl⟩
  | @number before key n _ flat bareKey fresh fits ih =>
    obtain ⟨_, leads, -, still⟩ := ih free bare short
    obtain rfl := still flat
    have plain : (around.opened before.draft).current = before.draft := by cases around <;> rfl
    have defined : (around.opened before.draft).define [key] (.integer n) =
        some (around.opened (number before key n).draft) := by
      rw [Reading.define_key (by rw [plain, isDotted_draft])
        (by rw [plain, find?_draft_of_notMem fresh])]
      cases around <;> rfl
    refine ⟨around.opened (number before key n).draft, ?_, around.close_opened free _, fun _ => rfl⟩
    exact leads.append fun _ _ following => .number bareKey fits defined following
  | @table before key inner _ bareKey fresh _ ih inside =>
    have deep : (table before key inner).depth = max before.depth (inner.depth + 1) := rfl
    obtain ⟨_, leads, closed, -⟩ := ih free bare (by omega)
    have opened := around.openTable_of_close closed free (find?_draft_of_notMem fresh)
    have bareKeys : ∀ k ∈ around.path ++ [key], IsBareKey k :=
      List.forall_mem_append.mpr ⟨bare, List.forall_mem_singleton.mpr bareKey⟩
    have length : (around.path ++ [key]).length = around.path.length + 1 := by
      rw [List.length_append, List.length_singleton]
    obtain ⟨last, leadsInside, closedInside, -⟩ := @inside ((key, before.draft) :: around)
      (List.forall_mem_cons.mpr ⟨find?_draft_of_notMem fresh, free⟩) bareKeys
      (by rw [Around.path, length]; omega)
    refine ⟨last, leads.append (Reading.Leads.append ?_ leadsInside), closedInside, fun flat => ?_⟩
    · exact fun _ _ following => .header bareKeys (by simp) (by rw [length]; omega) opened following
    · simp [isFlat] at flat

theorem head?_append_ne {c : Char} {first second : List Char} (h : first.head? ≠ some c)
    (h' : second.head? ≠ some c) : (first ++ second).head? ≠ some c := by
  rw [List.head?_append]
  cases start : first.head? with
  | none => rwa [Option.none_or]
  | some d =>
    rw [Option.some_or, ← start]
    exact h

/-- The lines begin with a name or with an empty line. -/
theorem head?_lines_ne (printable : tree.Printable) (path : List String) :
    (tree.lines path).head? ≠ some '\uFEFF' := by
  induction printable with
  | empty => simp [lines]
  | @number before key n _ _ bare _ _ ih =>
    obtain ⟨c, text, spelled, head⟩ := bare.exists_cons
    refine head?_append_ne ih ?_
    rw [numberLine, spelled, List.cons_append, List.head?_cons]
    rintro ⟨⟩
    cases head
  | table _ _ _ _ ih => exact head?_append_ne ih (by simp [headerLines])

theorem dropByteOrderMark_lines (printable : tree.Printable) (path : List String) :
    dropByteOrderMark (tree.lines path) = tree.lines path := by
  unfold dropByteOrderMark
  split
  · next marked =>
    have unmarked := head?_lines_ne printable path
    rw [marked] at unmarked
    exact absurd rfl unmarked
  · rfl

theorem parse_text (printable : tree.Printable) (short : tree.depth ≤ depthLimit) :
    parse tree.text.toList = some (finishEntries tree.draft.entries) := by
  obtain ⟨final, leads, closed, -⟩ := @exists_leads tree printable [] nofun nofun
    (by rw [Around.path, List.length_nil, Nat.zero_add]; exact short)
  have read : Reading.lines {} ((tree.lines []).length + 1) (tree.lines []) = some final := by
    have reads := leads [] final (.nil final)
    rw [List.append_nil] at reads
    exact reads _ (Nat.lt_succ_self _)
  rw [parse, text, String.toList_ofList, dropByteOrderMark_lines printable]
  simp only [read, closed, Option.bind_eq_bind, Option.bind_some]
  rfl

/-! ## What the document says -/

theorem lookup_finishEntries (entries : List (String × Item)) (key : String) :
    (finishEntries entries).lookup key = (entries.lookup key).map Item.finish := by
  induction entries with
  | nil => rfl
  | cons e entries ih =>
    rw [finishEntries, lookup_cons_eq_ite, ih, lookup_cons_eq_ite]
    split <;> rfl

/-- Only the entries under the keys of a tree matter for it. -/
theorem Among.congr {entries others : Entries} (among : tree.Among entries)
    (same : ∀ key ∈ tree.keys, others.lookup key = entries.lookup key) : tree.Among others := by
  induction tree with
  | empty => trivial
  | number before key n ih =>
    obtain ⟨here, earlier⟩ := List.forall_mem_cons.mp same
    exact ⟨ih among.1 earlier, here.trans among.2⟩
  | table before key inner ih =>
    obtain ⟨here, earlier⟩ := List.forall_mem_cons.mp same
    obtain ⟨amongBefore, inside, found, rest⟩ := among
    exact ⟨ih amongBefore earlier, inside, here.trans found, rest⟩

/-- What was added last is found under its key, and all else as before. -/
theorem lookup_add (draft : Draft) (key : String) (item : Item) (other : String) :
    (finishEntries (draft.add key item).entries).lookup other =
      if other = key then some item.finish else (finishEntries draft.entries).lookup other :=
  lookup_cons_eq_ite other key item.finish (finishEntries draft.entries)

theorem lookup_of_notMem (fresh : key ∉ tree.keys) :
    (finishEntries tree.draft.entries).lookup key = none := by
  rw [lookup_finishEntries, show tree.draft.entries.lookup key = none from
    find?_draft_of_notMem fresh]
  rfl

/-- The document that a printed tree is read as says what the tree says. -/
theorem shownBy_draft (printable : tree.Printable) :
    tree.ShownBy (finishEntries tree.draft.entries) := by
  refine ⟨?_, fun key fresh => lookup_of_notMem fresh⟩
  induction printable with
  | empty => trivial
  | @number before key n _ _ _ fresh _ ih =>
    refine ⟨Among.congr ih fun other earlier => ?_, (lookup_add ..).trans (if_pos rfl)⟩
    exact (lookup_add ..).trans (if_neg (ne_of_mem_of_not_mem earlier fresh))
  | @table before key inner _ _ fresh _ ih inside =>
    refine ⟨Among.congr ih fun other earlier => ?_, _, (lookup_add ..).trans (if_pos rfl), inside,
      fun other => lookup_of_notMem⟩
    exact (lookup_add ..).trans (if_neg (ne_of_mem_of_not_mem earlier fresh))

end Tree

/-- The library keeps what a library promises. -/
theorem faithful_library : library.Faithful where
  read_write tree printable short :=
    ⟨tree.text, _, rfl, Tree.parse_text printable short, Tree.shownBy_draft printable⟩
  decode_filledFrom _ _ := rfl
  decode_number before key bound get set entries n found fits := by
    have inside : (0 : Int) ≤ n ∧ (n : Int) < bound := ⟨Int.natCast_nonneg n, Int.ofNat_lt.mpr fits⟩
    change (before.read _).bind _ = (before.read _).map _
    cases before.read (.table entries) <;> simp [member, found, inside]
  decode_number_missing before key bound get set entries missing := by
    change (before.read _).bind _ = before.read _
    cases before.read (.table entries) <;> simp [member, missing]
  decode_table before key type get set entries inner found := by
    change (before.read _).bind _ = (before.read _).bind _
    cases before.read (.table entries) with
    | none => rfl
    | some s => cases decoded : type.read inner <;> simp [member, found, library, decoded]
  decode_table_missing before key type get set entries missing := by
    change (before.read _).bind _ = before.read _
    cases before.read (.table entries) <;> simp [member, missing]
  encode_filledFrom _ _ := rfl
  encode_number _ _ _ _ _ _ := rfl
  encode_table _ _ _ _ _ _ := rfl

end SplitBoard.Toml

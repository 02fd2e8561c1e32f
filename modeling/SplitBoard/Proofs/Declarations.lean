import SplitBoard.Toml.Library
import Mathlib.Data.List.Basic

/-!
# Records that are filled in

A declaration is lawful if its fields are what they seem: under a key of its own, each
is read as it was written, writing one leaves the others alone, and a record inside is
filled in from the same values whether its table is empty or missing (`Lawful`).

**A document that holds some of the numbers of a record, whichever they are, is decoded
as these numbers on top of the record that missing fields are filled in from**
(`exists_overlay`).  A document without one of the tables holds none of the numbers in
it, so tables need no choice of their own.
-/

namespace SplitBoard.Toml

/-- What stands under a path of keys, if anything. -/
def Value.find? : (path : List String) → Value → Option Value
  | [], value => some value
  | key :: path, .table entries => (entries.lookup key).bind (find? path)
  | _ :: _, _ => none

theorem Value.find?_cons (key : String) (path : List String) (entries : Entries) :
    (Value.table entries).find? (key :: path) = (entries.lookup key).bind (find? path) := rfl

/-- Below a key the path goes on in what stands there. -/
theorem Value.find?_of_lookup {key : String} {entries : Entries} {inner : Value}
    (found : entries.lookup key = some inner) (path : List String) :
    (Value.table entries).find? (key :: path) = inner.find? path := by
  rw [find?_cons, found, Option.bind_some]

theorem Value.find?_singleton (key : String) (entries : Entries) :
    (Value.table entries).find? [key] = entries.lookup key := by
  rw [find?_cons]
  cases entries.lookup key <;> rfl

namespace Declaration

/-! ## Laws -/

/-- Writing the fields does not change what is observed. -/
def Keeps {σ β : Type} : Declaration σ → (σ → β) → Prop
  | filledFrom _, _ => True
  | number before _ _ _ set, observe => before.Keeps observe ∧ ∀ s n, observe (set s n) = observe s
  | table before _ _ _ set, observe => before.Keeps observe ∧ ∀ s t, observe (set s t) = observe s

/-- One more field has a key of its own, and neither it nor the fields before it can tell that the
others are written. -/
structure Apart {σ β : Type} (before : Declaration σ) (key : String) (get : σ → β)
    (set : σ → β → σ) : Prop where
  fresh : key ∉ before.keys
  keeps : before.Keeps get
  kept : ∀ n ∈ before.numbers, ∀ s b, n.get (set s b) = n.get s

/-- Every field is what it seems. -/
inductive Lawful : {σ : Type} → Declaration σ → Prop where
  | filledFrom {σ : Type} (default : σ) : Lawful (filledFrom default)
  | number {σ : Type} {before : Declaration σ} {key : String} {bound : Nat} {get : σ → Nat}
      {set : σ → Nat → σ} (lawful : before.Lawful) (apart : before.Apart key get set)
      (get_lt : ∀ s, get s < bound) (get_set : ∀ s n, n < bound → get (set s n) = n) :
      Lawful (before.number key bound get set)
  | table {σ τ : Type} {before : Declaration σ} {key : String} {type : Declaration τ} {get : σ → τ}
      {set : σ → τ → σ} (lawful : before.Lawful) (apart : before.Apart key get set)
      (inside : type.Lawful) (same : get before.default = type.default)
      (get_set : ∀ s t, get (set s t) = t) : Lawful (before.table key type get set)

/-! ## Documents -/

/-- The document has the record's value of each chosen number, and nothing in the place of the
others. Where a table may stand there is nothing else. -/
structure Holds {σ : Type} (declaration : Declaration σ) (document : Value)
    (chosen : List String → Bool) (p : σ) : Prop where
  table : ∀ path ∈ declaration.tables, ∀ value, document.find? path = some value →
    ∃ entries, value = .table entries
  number : ∀ n ∈ declaration.numbers, document.find? n.path =
    if chosen n.path then some (.integer (n.get p)) else none

/-- One record has the chosen numbers of another one, and is filled in otherwise. -/
structure Overlay {σ : Type} (declaration : Declaration σ) (chosen : List String → Bool)
    (p q : σ) : Prop where
  number : ∀ n ∈ declaration.numbers,
    n.get q = if chosen n.path then n.get p else n.get declaration.default
  kept : ∀ {β : Type} (observe : σ → β), declaration.Keeps observe →
    observe q = observe declaration.default

section Fields

variable {σ τ : Type} {before : Declaration σ} {key : String} {bound : Nat}
  {chosen : List String → Bool} {entries : Entries} {p q : σ}

section Number

variable {get : σ → Nat} {set : σ → Nat → σ}

theorem forall_numbers_number {P : Number σ → Prop} :
    (∀ n ∈ (before.number key bound get set).numbers, P n) ↔
      (∀ n ∈ before.numbers, P n) ∧ P ⟨[key], get⟩ := by
  rw [numbers, List.forall_mem_append, List.forall_mem_singleton]

theorem Holds.before_number (holds : (before.number key bound get set).Holds (.table entries)
    chosen p) : before.Holds (.table entries) chosen p :=
  ⟨holds.table, (forall_numbers_number.mp holds.number).1⟩

theorem Holds.lookup_number (holds : (before.number key bound get set).Holds (.table entries)
    chosen p) :
    entries.lookup key = if chosen [key] then some (.integer (get p)) else none := by
  rw [← Value.find?_singleton]
  exact (forall_numbers_number.mp holds.number).2

/-- A number is written over what was filled in. -/
theorem Overlay.number_chosen (overlay : before.Overlay chosen p q)
    (apart : before.Apart key get set) (get_set : get (set q (get p)) = get p)
    (isChosen : chosen [key] = true) :
    (before.number key bound get set).Overlay chosen p (set q (get p)) where
  number := by
    rw [forall_numbers_number]
    refine ⟨fun n among => ?_, ?_⟩
    · rw [apart.kept n among]
      exact overlay.number n among
    · rw [if_pos isChosen]
      exact get_set
  kept observe keeps := (keeps.2 q _).trans (overlay.kept observe keeps.1)

theorem Overlay.number_missing (overlay : before.Overlay chosen p q)
    (apart : before.Apart key get set) (missing : ¬ chosen [key]) :
    (before.number key bound get set).Overlay chosen p q where
  number := by
    rw [forall_numbers_number]
    refine ⟨overlay.number, ?_⟩
    rw [if_neg missing]
    exact overlay.kept get apart.keeps
  kept observe keeps := overlay.kept observe keeps.1

end Number

section Table

variable {type : Declaration τ} {get : σ → τ} {set : σ → τ → σ}

theorem forall_numbers_table {P : Number σ → Prop} :
    (∀ n ∈ (before.table key type get set).numbers, P n) ↔ (∀ n ∈ before.numbers, P n) ∧
      ∀ n ∈ type.numbers, P ⟨key :: n.path, fun s => n.get (get s)⟩ := by
  rw [numbers, List.forall_mem_append, List.forall_mem_map]

theorem forall_tables_table {P : List String → Prop} :
    (∀ path ∈ (before.table key type get set).tables, P path) ↔
      (∀ path ∈ before.tables, P path) ∧ ∀ path ∈ type.tables, P (key :: path) := by
  rw [tables, List.forall_mem_append, List.forall_mem_map]

theorem nil_mem_tables (declaration : Declaration σ) : [] ∈ declaration.tables := by
  induction declaration with
  | filledFrom => exact List.mem_singleton_self _
  | number _ _ _ _ _ ih => exact ih
  | table _ _ _ _ _ ih => exact List.mem_append_left _ ih

variable (holds : (before.table key type get set).Holds (.table entries) chosen p)
include holds

theorem Holds.before_table : before.Holds (.table entries) chosen p :=
  ⟨(forall_tables_table.mp holds.table).1, (forall_numbers_table.mp holds.number).1⟩

/-- Without the table, none of its numbers is chosen. -/
theorem Holds.not_chosen (missing : entries.lookup key = none) :
    ∀ n ∈ type.numbers, ¬ chosen (key :: n.path) := by
  intro n among isChosen
  have held := (forall_numbers_table.mp holds.number).2 n among
  rw [Value.find?_cons, missing, if_pos isChosen] at held
  cases held

/-- What stands in the place of the record is a table that holds the numbers chosen in it. -/
theorem Holds.inside {inner : Value} (found : entries.lookup key = some inner) :
    ∃ inside, inner = .table inside ∧
      type.Holds (.table inside) (fun path => chosen (key :: path)) (get p) := by
  have under := Value.find?_of_lookup found
  have tables := (forall_tables_table.mp holds.table).2
  obtain ⟨inside, rfl⟩ := tables [] type.nil_mem_tables inner (under [])
  refine ⟨inside, rfl, fun path among value there => ?_, fun n among => ?_⟩
  · exact tables path among value ((under path).trans there)
  · rw [← under]
    exact (forall_numbers_table.mp holds.number).2 n among

omit holds

/-- A record is written over what was filled in. -/
theorem Overlay.table_there {t : τ} (overlay : before.Overlay chosen p q)
    (apart : before.Apart key get set) (same : get before.default = type.default)
    (get_set : get (set q t) = t)
    (inside : type.Overlay (fun path => chosen (key :: path)) (get p) t) :
    (before.table key type get set).Overlay chosen p (set q t) where
  number := by
    rw [forall_numbers_table]
    refine ⟨fun n among => ?_, fun n among => ?_⟩
    · rw [apart.kept n among]
      exact overlay.number n among
    · change n.get (get (set q t)) = _
      rw [get_set, inside.number n among, ← same]
      rfl
  kept observe keeps := (keeps.2 q _).trans (overlay.kept observe keeps.1)

theorem Overlay.table_missing (overlay : before.Overlay chosen p q)
    (apart : before.Apart key get set)
    (missing : ∀ n ∈ type.numbers, ¬ chosen (key :: n.path)) :
    (before.table key type get set).Overlay chosen p q where
  number := by
    rw [forall_numbers_table]
    refine ⟨overlay.number, fun n among => ?_⟩
    rw [if_neg (missing n among)]
    exact congrArg n.get (overlay.kept get apart.keeps)
  kept observe keeps := overlay.kept observe keeps.1

end Table

section Laws

theorem Lawful.byte (lawful : before.Lawful) {get : σ → UInt8} {set : σ → UInt8 → σ}
    (apart : before.Apart key (fun s => (get s).toNat) fun s n => set s (.ofNat n))
    (get_set : ∀ s b, get (set s b) = b) : (before.byte key get set).Lawful :=
  .number lawful apart (fun s => (get s).toNat_lt) fun s n fits => by
    rw [get_set]
    exact UInt8.toNat_ofNat_of_lt' fits

theorem Lawful.word (lawful : before.Lawful) {get : σ → UInt16} {set : σ → UInt16 → σ}
    (apart : before.Apart key (fun s => (get s).toNat) fun s n => set s (.ofNat n))
    (get_set : ∀ s b, get (set s b) = b) : (before.word key get set).Lawful :=
  .number lawful apart (fun s => (get s).toNat_lt) fun s n fits => by
    rw [get_set]
    exact UInt16.toNat_ofNat_of_lt' fits

theorem Lawful.long (lawful : before.Lawful) {get : σ → UInt32} {set : σ → UInt32 → σ}
    (apart : before.Apart key (fun s => (get s).toNat) fun s n => set s (.ofNat n))
    (get_set : ∀ s b, get (set s b) = b) : (before.long key get set).Lawful :=
  .number lawful apart (fun s => (get s).toNat_lt) fun s n fits => by
    rw [get_set]
    exact UInt32.toNat_ofNat_of_lt' fits

section Apart

variable {β : Type} {get : σ → β} {set : σ → β → σ}

theorem Apart.filledFrom (default : σ) : (filledFrom default).Apart key get set :=
  ⟨List.not_mem_nil, trivial, List.forall_mem_nil _⟩

theorem Apart.number (apart : before.Apart key get set) {first : String} {bound : Nat}
    {getFirst : σ → Nat} {setFirst : σ → Nat → σ} (other : key ≠ first)
    (keeps : ∀ s n, get (setFirst s n) = get s) (kept : ∀ s b, getFirst (set s b) = getFirst s) :
    (before.number first bound getFirst setFirst).Apart key get set :=
  ⟨List.not_mem_cons_of_ne_of_not_mem other apart.fresh, ⟨apart.keeps, keeps⟩,
    forall_numbers_number.mpr ⟨apart.kept, kept⟩⟩

theorem Apart.table (apart : before.Apart key get set) {τ : Type} {first : String}
    {type : Declaration τ} {getFirst : σ → τ} {setFirst : σ → τ → σ} (other : key ≠ first)
    (keeps : ∀ s t, get (setFirst s t) = get s) (kept : ∀ s b, getFirst (set s b) = getFirst s) :
    (before.table first type getFirst setFirst).Apart key get set :=
  ⟨List.not_mem_cons_of_ne_of_not_mem other apart.fresh, ⟨apart.keeps, keeps⟩,
    forall_numbers_table.mpr ⟨apart.kept, fun n _ s b => congrArg n.get (kept s b)⟩⟩

end Apart

end Laws

end Fields

/-- **Only what a document holds decides, not how it is laid out.** The induction is on the fields,
and on those of the records inside. -/
theorem exists_overlay {library : Library} (faithful : library.Faithful) {σ : Type}
    {declaration : Declaration σ} (lawful : declaration.Lawful) {entries : Entries}
    {chosen : List String → Bool} {p : σ}
    (holds : declaration.Holds (.table entries) chosen p) :
    ∃ q, library.decode declaration (.table entries) = some q ∧ declaration.Overlay chosen p q := by
  induction lawful generalizing entries chosen with
  | filledFrom default =>
    exact ⟨default, faithful.decode_filledFrom _ _, List.forall_mem_nil _, fun _ _ => rfl⟩
  | @number _ before key bound get set _ apart get_lt get_set ih =>
    obtain ⟨q, decoded, overlay⟩ := ih holds.before_number
    have found := holds.lookup_number
    by_cases isChosen : chosen [key]
    · rw [if_pos isChosen] at found
      refine ⟨set q (get p), ?_, overlay.number_chosen apart (get_set q _ (get_lt p)) isChosen⟩
      rw [faithful.decode_number _ _ _ _ _ _ _ found (get_lt p), decoded]
      rfl
    · rw [if_neg isChosen] at found
      refine ⟨q, ?_, overlay.number_missing apart isChosen⟩
      rw [faithful.decode_number_missing _ _ _ _ _ _ found, decoded]
  | @table _ _ before key type get set _ apart _ same get_set ih inside =>
    obtain ⟨q, decoded, overlay⟩ := ih holds.before_table
    cases found : entries.lookup key with
    | none =>
      refine ⟨q, ?_, overlay.table_missing apart (holds.not_chosen found)⟩
      rw [faithful.decode_table_missing _ _ _ _ _ _ found, decoded]
    | some inner =>
      obtain ⟨entries, rfl, held⟩ := holds.inside found
      obtain ⟨t, decodedInside, inner⟩ := inside held
      refine ⟨set q t, ?_, overlay.table_there apart same (get_set q t) inner⟩
      rw [faithful.decode_table _ _ _ _ _ _ _ found, decoded, Option.bind_some, decodedInside]
      rfl

/-! ## Printed records -/

/-- Whether every choice of numbers can be printed: the keys are bare, the numbers fit into 64 bits
with sign, and no number comes behind a record. -/
def isPrintable {σ : Type} : Declaration σ → Bool
  | filledFrom _ => true
  | number before key bound .. =>
    before.isPrintable && before.isFlat && IsBareKey key && bound ≤ 0x8000000000000000
  | table before key type .. => before.isPrintable && IsBareKey key && type.isPrintable

section Trees

variable {σ : Type} {chosen : List String → Bool}

theorem keys_tree_subset (declaration : Declaration σ) (s : σ) :
    (declaration.tree chosen s).keys ⊆ declaration.keys := by
  induction declaration generalizing chosen with
  | filledFrom => exact List.Subset.refl _
  | number before key bound get set ih =>
    rw [tree]
    split
    · exact List.cons_subset_cons key (ih s)
    · exact List.subset_cons_of_subset key (ih s)
  | table before key type get set ih => exact List.cons_subset_cons key (ih s)

theorem isFlat_tree {declaration : Declaration σ} (flat : declaration.isFlat = true) (s : σ) :
    (declaration.tree chosen s).isFlat = true := by
  induction declaration generalizing chosen with
  | filledFrom => rfl
  | number before key bound get set ih =>
    rw [tree]
    split <;> exact ih flat s
  | table => cases flat

theorem depth_tree_le (declaration : Declaration σ) (s : σ) :
    (declaration.tree chosen s).depth ≤ declaration.depth := by
  induction declaration generalizing chosen with
  | filledFrom => exact Nat.le_refl 0
  | number before key bound get set ih =>
    rw [tree]
    split <;> exact ih s
  | table before key type get set ih inside =>
    have outer := @ih chosen s
    have inner := @inside (fun path => chosen (key :: path)) (get s)
    simp only [tree, Tree.depth, depth]
    omega

theorem printable_tree {declaration : Declaration σ} (lawful : declaration.Lawful)
    (printable : declaration.isPrintable = true) (s : σ) :
    (declaration.tree chosen s).Printable := by
  induction lawful generalizing chosen with
  | filledFrom => exact .empty
  | number _ apart get_lt _ ih =>
    simp only [isPrintable, Bool.and_eq_true, decide_eq_true_eq] at printable
    obtain ⟨⟨⟨printable, flat⟩, bare⟩, fits⟩ := printable
    rw [tree]
    split
    · exact .number (ih printable s) (isFlat_tree flat s) bare
        (fun again => apart.fresh (keys_tree_subset _ s again)) (Nat.lt_of_lt_of_le (get_lt s) fits)
    · exact ih printable s
  | table _ apart _ _ _ ih inside =>
    simp only [isPrintable, Bool.and_eq_true, decide_eq_true_eq] at printable
    obtain ⟨⟨printable, bare⟩, printableInside⟩ := printable
    exact .table (ih printable s) bare (fun again => apart.fresh (keys_tree_subset _ s again))
      (inside printableInside _)

/-- What is encoded is the tree of all numbers. -/
theorem encode_eq {library : Library} (faithful : library.Faithful) (declaration : Declaration σ)
    (s : σ) : library.encode declaration s = declaration.tree (fun _ => true) s := by
  induction declaration with
  | filledFrom => exact faithful.encode_filledFrom _ s
  | number _ _ _ _ _ ih => rw [faithful.encode_number, ih, tree, if_pos rfl]
  | table _ _ _ get _ ih inside => rw [faithful.encode_table, ih, inside, tree]

/-- The key of its own does not matter to the fields before it. -/
theorem Apart.absent_before {β : Type} {before : Declaration σ} {key : String} {get : σ → β}
    {set : σ → β → σ} (apart : before.Apart key get set) {tree : Tree} {entries : Entries}
    (absent : ∀ other ∈ key :: before.keys, other ∉ key :: tree.keys →
      entries.lookup other = none) :
    ∀ other ∈ before.keys, other ∉ tree.keys → entries.lookup other = none := by
  intro other declared missing
  refine absent other (List.mem_cons_of_mem _ declared) ?_
  refine List.not_mem_cons_of_ne_of_not_mem ?_ missing
  exact ne_of_mem_of_not_mem declared apart.fresh

/-- A document that says what the tree says holds the numbers chosen for it. -/
theorem holds_of_among {declaration : Declaration σ} (lawful : declaration.Lawful)
    {entries : Entries} {p : σ} (among : (declaration.tree chosen p).Among entries)
    (absent : ∀ key ∈ declaration.keys, key ∉ (declaration.tree chosen p).keys →
      entries.lookup key = none) : declaration.Holds (.table entries) chosen p := by
  induction lawful generalizing entries chosen with
  | filledFrom =>
    refine ⟨?_, List.forall_mem_nil _⟩
    rintro path among value there
    obtain rfl := List.mem_singleton.mp among
    exact ⟨entries, (Option.some_inj.mp there).symm⟩
  | @number _ before key bound get set _ apart _ _ ih =>
    by_cases isChosen : chosen [key]
    · rw [tree, if_pos isChosen] at among absent
      obtain ⟨amongBefore, found⟩ := among
      have holds := ih amongBefore (apart.absent_before absent)
      refine ⟨holds.table, forall_numbers_number.mpr ⟨holds.number, ?_⟩⟩
      rw [Value.find?_singleton, if_pos isChosen]
      exact found
    · rw [tree, if_neg isChosen] at among absent
      have holds := ih among fun other declared =>
        absent other (List.mem_cons_of_mem _ declared)
      refine ⟨holds.table, forall_numbers_number.mpr ⟨holds.number, ?_⟩⟩
      rw [Value.find?_singleton, if_neg isChosen]
      exact absent key List.mem_cons_self fun again => apart.fresh (keys_tree_subset _ p again)
  | @table _ _ before key type get set _ apart _ _ _ ih inside =>
    obtain ⟨amongBefore, inner, found, amongInside, absentInside⟩ := among
    have holds := ih amongBefore (apart.absent_before absent)
    have held := inside amongInside fun other _ => absentInside other
    have under := Value.find?_of_lookup found
    refine ⟨forall_tables_table.mpr ⟨holds.table, fun path declared => ?_⟩,
      forall_numbers_table.mpr ⟨holds.number, fun n declared => ?_⟩⟩
    · rw [under]
      exact held.table path declared
    · rw [under]
      exact held.number n declared

/-- Every choice of numbers can be printed as a document that holds them. -/
theorem exists_text {library : Library} (faithful : library.Faithful)
    {declaration : Declaration σ} (lawful : declaration.Lawful)
    (printable : declaration.isPrintable = true) (shallow : declaration.depth ≤ depthLimit)
    (chosen : List String → Bool) (p : σ) :
    ∃ text entries, library.write (declaration.tree chosen p) = some text ∧
      library.read text = some entries ∧ declaration.Holds (.table entries) chosen p := by
  obtain ⟨text, entries, written, read, among, absent⟩ := faithful.read_write _
    (printable_tree lawful printable p) (Nat.le_trans (depth_tree_le declaration p) shallow)
  exact ⟨text, entries, written, read, holds_of_among lawful among fun key _ => absent key⟩

end Trees

end Declaration
end SplitBoard.Toml

import SplitBoard.Dialogue

/-!
# The conduct of a dialogue

Three ways to speak about dialogues without fixing who answers.  `Plays` is taken
apart constructor by constructor (`plays_done_iff`, `plays_ask_iff`, and
`plays_bind_iff` for sequences).  `Follows` says that every question keeps a rule
which may look at everything said before it, and that the end meets a goal; it is
computed along the dialogue, so a loop is treated by one induction with the past
as its state.  `Alike` compares two dialogues question by question.

**The past is a list with the newest exchange first**, as a recording partner
keeps it.
-/

namespace SplitBoard.Dialogue

variable {V : Vocabulary} {α β σ : Type}

theorem plays_done_iff {a b : α} {said : List (Exchange V)} :
    Plays (done a) said b ↔ said = [] ∧ b = a := by
  constructor
  · rintro ⟨⟩
    exact ⟨rfl, rfl⟩
  · rintro ⟨rfl, rfl⟩
    exact .done _

theorem plays_ask_iff {request : V.Request} {next : V.Reply request → Dialogue V α}
    {said : List (Exchange V)} {a : α} :
    Plays (ask request next) said a ↔
      ∃ reply rest, said = ⟨request, reply⟩ :: rest ∧ Plays (next reply) rest a := by
  constructor
  · rintro ⟨⟩
    exact ⟨_, _, rfl, ‹_›⟩
  · rintro ⟨reply, rest, rfl, h⟩
    exact .ask reply h

/-- The answers decide how a dialogue goes on, and where it ends. -/
theorem Plays.unique {d : Dialogue V α} {said said' rest rest' : List (Exchange V)} {a b : α}
    (h : Plays d said a) (h' : Plays d said' b) (same : said ++ rest = said' ++ rest') :
    said = said' ∧ a = b := by
  induction h generalizing said' with
  | done a =>
    cases h'
    exact ⟨rfl, rfl⟩
  | ask reply _ ih =>
    cases h' with
    | ask reply' other =>
      obtain ⟨here, later⟩ := List.cons.inj same
      cases here
      obtain ⟨rfl, rfl⟩ := ih other later
      exact ⟨rfl, rfl⟩

/-- Two parts that pass a state on. -/
theorem plays_run_bind_iff {τ : Type} {work : StateT τ (Dialogue V) α}
    {next : α → StateT τ (Dialogue V) β} {state after : τ} {said : List (Exchange V)} {b : β} :
    Plays ((work >>= next).run state) said (b, after) ↔
      ∃ first second a mid, said = first ++ second ∧ Plays (work.run state) first (a, mid) ∧
        Plays ((next a).run mid) second (b, after) := by
  rw [StateT.run_bind, bind_eq, plays_bind_iff]
  constructor
  · rintro ⟨first, second, ⟨a, mid⟩, rfl, h, h'⟩
    exact ⟨first, second, a, mid, rfl, h, h'⟩
  · rintro ⟨first, second, a, mid, rfl, h, h'⟩
    exact ⟨first, second, (a, mid), rfl, h, h'⟩

/-- A recording partner keeps what was said before, and answers as without it. -/
theorem run_recording (partner : Partner V σ) (d : Dialogue V α) (state : σ) :
    ∃ said, Plays d said (d.run partner state).1 ∧ ∀ past,
      d.run partner.recording (past, state) =
        ((d.run partner state).1, said.reverse ++ past, (d.run partner state).2) := by
  induction d generalizing state with
  | done a => exact ⟨[], .done a, fun _ => rfl⟩
  | ask request next ih =>
    obtain ⟨said, hplays, hrun⟩ := ih (partner request state).1 (partner request state).2
    refine ⟨⟨request, (partner request state).1⟩ :: said, .ask _ hplays, fun past => ?_⟩
    rw [List.reverse_cons, List.append_assoc]
    exact hrun _

/-- **Every run plays**: a transcript is a play of the dialogue. -/
theorem plays_transcribe (partner : Partner V σ) (d : Dialogue V α) (state : σ) :
    Plays d (d.transcribe partner state).2.1 (d.transcribe partner state).1 := by
  obtain ⟨said, hplays, hrun⟩ := run_recording partner d state
  unfold transcribe
  rw [hrun]
  simpa using hplays

/-- A transcript begins with the first exchange, and goes on with the transcript of the rest. -/
theorem transcribe_ask (partner : Partner V σ) (request : V.Request)
    (next : V.Reply request → Dialogue V α) (state : σ) :
    (ask request next).transcribe partner state =
      let (reply, state) := partner request state
      let (a, said, after) := (next reply).transcribe partner state
      (a, ⟨request, reply⟩ :: said, after) := by
  obtain ⟨said, -, hrun⟩ := run_recording partner (next (partner request state).1)
    (partner request state).2
  have first : (ask request next).run partner.recording ([], state) =
      (next (partner request state).1).run partner.recording
        ([⟨request, (partner request state).1⟩], (partner request state).2) := rfl
  simp only [transcribe, first, hrun]
  simp

/-- Two dialogues that ask the same questions for as long as they get the same answers, and end with
related results. -/
inductive Alike (R : α → β → Prop) : Dialogue V α → Dialogue V β → Prop where
  | done {a : α} {b : β} (related : R a b) : Alike R (done a) (done b)
  | ask {request : V.Request} {next : V.Reply request → Dialogue V α}
      {next' : V.Reply request → Dialogue V β} (alike : ∀ reply, Alike R (next reply) (next' reply)) :
      Alike R (ask request next) (ask request next')

theorem Alike.refl {R : α → α → Prop} (related : ∀ a, R a a) (d : Dialogue V α) : Alike R d d := by
  induction d with
  | done a => exact .done (related a)
  | ask request next ih => exact .ask ih

/-- Related results may be gone on with, as long as that is alike. -/
theorem Alike.bind {γ δ : Type} {R : α → β → Prop} {S : γ → δ → Prop} {d : Dialogue V α}
    {d' : Dialogue V β} {f : α → Dialogue V γ} {f' : β → Dialogue V δ} (h : Alike R d d')
    (later : ∀ a b, R a b → Alike S (f a) (f' b)) : Alike S (d.bind f) (d'.bind f') := by
  induction h with
  | done related => exact later _ _ related
  | ask _ ih => exact .ask ih

/-- What the last exchange says, of those that say anything. -/
def lastSaid? (f : Exchange V → Option α) (said : List (Exchange V)) : Option α :=
  said.reverse.findSome? f

theorem lastSaid?_append {f : Exchange V → Option α} {first second : List (Exchange V)} :
    lastSaid? f (first ++ second) = (lastSaid? f second).or (lastSaid? f first) := by
  rw [lastSaid?, List.reverse_append, List.findSome?_append]
  rfl

theorem lastSaid?_singleton {f : Exchange V → Option α} (e : Exchange V) :
    lastSaid? f [e] = f e :=
  List.findSome?_singleton

theorem lastSaid?_cons {f : Exchange V → Option α} (e : Exchange V) (said : List (Exchange V)) :
    lastSaid? f (e :: said) = (lastSaid? f said).or (f e) := by
  change lastSaid? f ([e] ++ said) = _
  rw [lastSaid?_append, lastSaid?_singleton]

theorem exists_mem_of_lastSaid? {f : Exchange V → Option α} {said : List (Exchange V)} {a : α}
    (h : lastSaid? f said = some a) : ∃ e ∈ said, f e = some a := by
  obtain ⟨e, member, here⟩ := List.exists_of_findSome?_eq_some h
  exact ⟨e, List.mem_reverse.mp member, here⟩

theorem isSome_lastSaid? {f : Exchange V → Option α} {said : List (Exchange V)} {e : Exchange V}
    (member : e ∈ said) (speaks : (f e).isSome = true) : (lastSaid? f said).isSome = true := by
  rw [lastSaid?, List.findSome?_isSome_iff]
  exact ⟨e, List.mem_reverse.mpr member, speaks⟩

/-- Whatever the other side answers, every question keeps the rule, and the end meets the goal.
Both look at what was said before, the newest first. -/
def Follows (rule : List (Exchange V) → V.Request → Prop) :
    Dialogue V α → List (Exchange V) → (List (Exchange V) → α → Prop) → Prop
  | done a, past, goal => goal past a
  | ask request next, past, goal =>
    rule past request ∧ ∀ reply, (next reply).Follows rule (⟨request, reply⟩ :: past) goal

variable {rule : List (Exchange V) → V.Request → Prop} {past : List (Exchange V)}

@[simp] theorem follows_done {a : α} {goal : List (Exchange V) → α → Prop} :
    (done a).Follows rule past goal ↔ goal past a := Iff.rfl

@[simp] theorem follows_ask {request : V.Request} {next : V.Reply request → Dialogue V α}
    {goal : List (Exchange V) → α → Prop} :
    (ask request next).Follows rule past goal ↔
      rule past request ∧ ∀ reply, (next reply).Follows rule (⟨request, reply⟩ :: past) goal :=
  Iff.rfl

theorem follows_bind {d : Dialogue V α} {f : α → Dialogue V β}
    {goal : List (Exchange V) → β → Prop} :
    (d.bind f).Follows rule past goal ↔
      d.Follows rule past fun past a => (f a).Follows rule past goal := by
  induction d generalizing past with
  | done a => rfl
  | ask request next ih => simp [ih]

theorem Follows.mono {d : Dialogue V α} {goal goal' : List (Exchange V) → α → Prop}
    (h : d.Follows rule past goal) (imp : ∀ past a, goal past a → goal' past a) :
    d.Follows rule past goal' := by
  induction d generalizing past with
  | done a => exact imp past a h
  | ask request next ih => exact ⟨h.1, fun reply => ih reply (h.2 reply)⟩

/-- A play of a dialogue that follows a rule meets the goal at its end. -/
theorem Follows.goal_of_plays {d : Dialogue V α} {goal : List (Exchange V) → α → Prop}
    (h : d.Follows rule past goal) {said : List (Exchange V)} {a : α} (hplays : Plays d said a) :
    goal (said.reverse ++ past) a := by
  induction hplays generalizing past with
  | done a => exact h
  | ask reply _ ih =>
    rw [List.reverse_cons, List.append_assoc]
    exact ih (h.2 reply)

/-- In a play of a dialogue that follows a rule, every question keeps it. -/
theorem Follows.rule_of_plays {d : Dialogue V α} {goal : List (Exchange V) → α → Prop}
    (h : d.Follows rule past goal) {said : List (Exchange V)} {a : α} (hplays : Plays d said a)
    {before after : List (Exchange V)} {e : Exchange V} (hsaid : said = before ++ e :: after) :
    rule (before.reverse ++ past) e.request := by
  induction hplays generalizing past before with
  | done a => simp at hsaid
  | ask reply _ ih =>
    rcases before with _ | ⟨first, before⟩
    · obtain ⟨rfl, -⟩ := List.cons.inj hsaid
      exact h.1
    · obtain ⟨rfl, hrest⟩ := List.cons.inj hsaid
      rw [List.reverse_cons, List.append_assoc]
      exact ih (h.2 reply) hrest

end SplitBoard.Dialogue

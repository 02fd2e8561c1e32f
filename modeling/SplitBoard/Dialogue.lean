/-!
# Dialogues

A dialogue is the behaviour of a party that asks questions, one after another, of something it does
not control: a bus, a set of hardware registers, a file system. It holds no answers of its own. What
the other side says is a `Partner`, and running a dialogue against a partner plays the two against
each other.

**A dialogue is a value, so a statement about it can range over every behaviour of the other side.**
`Plays` says which exchanges and which result a dialogue can end with, whoever answers, and
`Partner.recording` shows that every run plays.
-/

namespace SplitBoard

/-- What can be asked, and for each question the type of its answers. -/
structure Vocabulary where
  Request : Type
  Reply : Request → Type

/-- A party that asks and finally ends with a result. -/
inductive Dialogue (V : Vocabulary) (α : Type) where
  | done (result : α)
  | ask (request : V.Request) (next : V.Reply request → Dialogue V α)

/-- A question together with the answer it got. -/
structure Exchange (V : Vocabulary) where
  request : V.Request
  reply : V.Reply request

/-- The other side: it answers any question at any time, and answering may change its state. -/
def Partner (V : Vocabulary) (σ : Type) : Type :=
  (request : V.Request) → σ → V.Reply request × σ

/-- The same partner, which also keeps what was said, newest first. -/
def Partner.recording {V : Vocabulary} {σ : Type} (partner : Partner V σ) :
    Partner V (List (Exchange V) × σ) :=
  fun request (said, state) =>
    let (reply, state) := partner request state
    (reply, ⟨request, reply⟩ :: said, state)

namespace Dialogue

variable {V W : Vocabulary} {α β γ σ : Type}

/-- Go on with `f` once the first dialogue has its result. -/
protected def bind : Dialogue V α → (α → Dialogue V β) → Dialogue V β
  | done a, f => f a
  | ask request next, f => ask request fun reply => (next reply).bind f

instance : Monad (Dialogue V) where
  pure := done
  bind := Dialogue.bind

/-- Ask one question and end with its answer. -/
def say (request : V.Request) : Dialogue V (V.Reply request) :=
  ask request done

/-- Play the dialogue against a partner that starts in the given state. -/
def run (partner : Partner V σ) : Dialogue V α → σ → α × σ
  | done a, state => (a, state)
  | ask request next, state =>
    let (reply, state) := partner request state
    (next reply).run partner state

/-- Play the dialogue and also give everything that was said, in order. -/
def transcribe (partner : Partner V σ) (dialogue : Dialogue V α) (state : σ) :
    α × List (Exchange V) × σ :=
  let (result, said, state) := dialogue.run partner.recording ([], state)
  (result, said.reverse, state)

/-- Put every question to an interpreter, which answers it by a dialogue of its own. -/
def through (interpret : (request : V.Request) → Dialogue W (V.Reply request)) :
    Dialogue V α → Dialogue W α
  | done a => done a
  | ask request next => (interpret request).bind fun reply => (next reply).through interpret

/-- The dialogue can end with this result after exactly these exchanges. -/
inductive Plays : Dialogue V α → List (Exchange V) → α → Prop where
  | done (a : α) : Plays (done a) [] a
  | ask {request : V.Request} {next : V.Reply request → Dialogue V α}
      (reply : V.Reply request) {said : List (Exchange V)} {a : α}
      (rest : Plays (next reply) said a) :
      Plays (ask request next) (⟨request, reply⟩ :: said) a

@[simp] theorem pure_eq (a : α) : (pure a : Dialogue V α) = done a := rfl

@[simp] theorem bind_eq (d : Dialogue V α) (f : α → Dialogue V β) : (d >>= f) = d.bind f := rfl

@[simp] theorem done_bind (a : α) (f : α → Dialogue V β) : (done a).bind f = f a := rfl

@[simp] theorem ask_bind (request : V.Request) (next : V.Reply request → Dialogue V α)
    (f : α → Dialogue V β) :
    (ask request next).bind f = ask request fun reply => (next reply).bind f := rfl

theorem bind_done (d : Dialogue V α) : d.bind done = d := by
  induction d with
  | done => rfl
  | ask request next ih => simp [ih]

theorem bind_assoc (d : Dialogue V α) (f : α → Dialogue V β) (g : β → Dialogue V γ) :
    (d.bind f).bind g = d.bind fun a => (f a).bind g := by
  induction d with
  | done => rfl
  | ask request next ih => simp [ih]

instance : LawfulMonad (Dialogue V) :=
  LawfulMonad.mk' (Dialogue V) bind_done (fun _ _ => rfl) bind_assoc

/-- Running two dialogues in a row is running the second from where the first one ended. -/
theorem run_bind (partner : Partner V σ) (d : Dialogue V α) (f : α → Dialogue V β) (state : σ) :
    (d.bind f).run partner state =
      (f (d.run partner state).1).run partner (d.run partner state).2 := by
  induction d generalizing state with
  | done => rfl
  | ask request next ih => simp [run, ih]

/-- A dialogue in two parts plays the exchanges of the one, then those of the other. -/
theorem plays_bind_iff {d : Dialogue V α} {f : α → Dialogue V β} {said : List (Exchange V)}
    {b : β} :
    Plays (d.bind f) said b ↔
      ∃ first second a, said = first ++ second ∧ Plays d first a ∧ Plays (f a) second b := by
  constructor
  · intro h
    induction d generalizing said with
    | done a => exact ⟨[], said, a, rfl, .done a, h⟩
    | ask request next ih =>
      cases h with
      | ask reply rest =>
        obtain ⟨first, second, a, rfl, h₁, h₂⟩ := ih reply rest
        exact ⟨_ :: first, second, a, rfl, .ask reply h₁, h₂⟩
  · rintro ⟨first, second, a, rfl, h₁, h₂⟩
    induction h₁ with
    | done => exact h₂
    | ask reply _ ih => exact .ask reply (ih h₂)

end Dialogue
end SplitBoard

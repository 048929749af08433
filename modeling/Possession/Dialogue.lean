/-!
# Dialogues

A dialogue is a procedure that asks questions of something outside it, one after the other, and goes
on with each answer. What it asks is data, so the same procedure can be run against one partner, cut
off between two questions, or interleaved with other dialogues.

* `Dialogue.bind` runs one dialogue behind another, which makes dialogues a monad.
* `Dialogue.run` runs a dialogue against a partner that may leave a question unanswered.
* `Dialogue.through` passes each question on as a dialogue of other questions.
-/

namespace Possession

/-- A procedure that asks questions and answers a value in the end. -/
inductive Dialogue (Question : Type) (Answer : Question → Type) (α : Type) where
  | done (value : α)
  | ask (question : Question) (next : Answer question → Dialogue Question Answer α)

/-- Somebody with a state who answers questions. A question without an answer never returns to the
one who asked. -/
abbrev Partner (Question : Type) (Answer : Question → Type) (σ : Type) : Type :=
  (question : Question) → σ → Option (Answer question) × σ

namespace Dialogue

variable {Question : Type} {Answer : Question → Type} {α β : Type}

def bind : Dialogue Question Answer α → (α → Dialogue Question Answer β) →
    Dialogue Question Answer β
  | .done value, continuation => continuation value
  | .ask question next, continuation => .ask question fun answer => (next answer).bind continuation

instance : Monad (Dialogue Question Answer) where
  pure := .done
  bind := bind

/-- The dialogue of one question, whose value is the answer. -/
def question (asked : Question) : Dialogue Question Answer (Answer asked) :=
  .ask asked .done

/-- Runs a dialogue. It has no value if one of its questions is not answered; what was done up to
then stays done. -/
def run {σ : Type} (partner : Partner Question Answer σ) :
    Dialogue Question Answer α → σ → Option α × σ
  | .done value, state => (some value, state)
  | .ask question next, state =>
    match partner question state with
    | (some answer, state) => (next answer).run partner state
    | (none, state) => (none, state)

/-- Runs a dialogue against a partner whose answers are effects. -/
def runIn {m : Type → Type} [Monad m] (answer : (question : Question) → m (Answer question)) :
    Dialogue Question Answer α → m α
  | .done value => pure value
  | .ask question next => do (next (← answer question)).runIn answer

/-- Passes each question on to somebody with a state who asks other questions to find the answer. -/
def through {Other : Type} {OtherAnswer : Other → Type} {σ : Type}
    (serve : (question : Question) → σ → Dialogue Other OtherAnswer (Answer question × σ)) :
    Dialogue Question Answer α → σ → Dialogue Other OtherAnswer (α × σ)
  | .done value, state => .done (value, state)
  | .ask question next, state =>
    (serve question state).bind fun (answer, state) => (next answer).through serve state

@[simp] theorem run_done {σ : Type} (partner : Partner Question Answer σ) (value : α) (state : σ) :
    (Dialogue.done value : Dialogue Question Answer α).run partner state = (some value, state) :=
  rfl

/-- Running a dialogue with a continuation is running the one and then the other. -/
theorem run_bind {σ : Type} (partner : Partner Question Answer σ)
    (dialogue : Dialogue Question Answer α) (continuation : α → Dialogue Question Answer β)
    (state : σ) :
    (dialogue.bind continuation).run partner state =
      match dialogue.run partner state with
      | (some value, state) => (continuation value).run partner state
      | (none, state) => (none, state) := by
  induction dialogue generalizing state with
  | done value => rfl
  | ask question next ih =>
    simp only [bind, run]
    cases partner question state with
    | mk answer state =>
      cases answer with
      | none => rfl
      | some answer => exact ih answer state

end Dialogue

end Possession

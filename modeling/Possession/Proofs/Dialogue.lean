import Possession.Dialogue

/-!
# What is said in a dialogue

The questions and answers of a run, one after the other, and how runs and what is said in them are
put together from those of the parts of a dialogue. `Dialogue.MaySay` has all that can be said in a
dialogue, whoever is asked.
-/

namespace Possession
namespace Dialogue

variable {Question : Type} {Answer : Question → Type} {α β σ : Type}
  {partner : Partner Question Answer σ}

/-- The questions that are answered in a run, with their answers. -/
def exchanges (partner : Partner Question Answer σ) :
    Dialogue Question Answer α → σ → List ((question : Question) × Answer question)
  | .done _, _ => []
  | .ask question next, state =>
    match partner question state with
    | (some answer, state) => ⟨question, answer⟩ :: (next answer).exchanges partner state
    | (none, _) => []

@[simp]
theorem exchanges_done (value : α) (state : σ) :
    (Dialogue.done value : Dialogue Question Answer α).exchanges partner state = [] := rfl

/-! ## Single questions -/

theorem run_question (asked : Question) (state : σ) :
    (question asked).run partner state = partner asked state := by
  rw [question, run]
  rcases partner asked state with ⟨_ | answer, next⟩
  · rfl
  · rfl

theorem exchanges_question {asked : Question} {answer : Answer asked} {state next : σ}
    (h : partner asked state = (some answer, next)) :
    (question asked).exchanges partner state = [⟨asked, answer⟩] := by
  rw [question, exchanges, h]
  rfl

/-! ## A dialogue and what follows on it -/

/-- A run of a dialogue and what follows on it is a run of the one and then a run of the other. -/
theorem exists_of_run_bind {dialogue : Dialogue Question Answer α}
    {continuation : α → Dialogue Question Answer β} {state next : σ} {value : β}
    (h : (dialogue >>= continuation).run partner state = (some value, next)) :
    ∃ first middle, dialogue.run partner state = (some first, middle) ∧
      (continuation first).run partner middle = (some value, next) := by
  change (dialogue.bind continuation).run partner state = _ at h
  rw [run_bind] at h
  rcases hfirst : dialogue.run partner state with ⟨_ | first, middle⟩
  · rw [hfirst] at h
    cases h
  · rw [hfirst] at h
    exact ⟨first, middle, rfl, h⟩

theorem run_bind_of_run {dialogue : Dialogue Question Answer α}
    {continuation : α → Dialogue Question Answer β} {state next : σ} {value : α}
    (h : dialogue.run partner state = (some value, next)) :
    (dialogue >>= continuation).run partner state = (continuation value).run partner next := by
  change (dialogue.bind continuation).run partner state = _
  rw [run_bind, h]

theorem exchanges_bind_of_run {dialogue : Dialogue Question Answer α}
    {continuation : α → Dialogue Question Answer β} {state next : σ} {value : α}
    (h : dialogue.run partner state = (some value, next)) :
    (dialogue >>= continuation).exchanges partner state =
      dialogue.exchanges partner state ++ (continuation value).exchanges partner next := by
  change (dialogue.bind continuation).exchanges partner state = _
  induction dialogue generalizing state with
  | done result =>
    cases h
    rfl
  | ask question further ih =>
    rw [run] at h
    rw [bind, exchanges, exchanges]
    rcases hanswer : partner question state with ⟨_ | answer, after⟩
    · rw [hanswer] at h
      cases h
    · rw [hanswer] at h
      exact congrArg (_ :: ·) (ih answer h)

/-! ## Whoever is asked -/

/-- A dialogue may come to a value by these questions and answers. -/
inductive MaySay :
    Dialogue Question Answer α → List ((question : Question) × Answer question) → α → Prop where
  | done (value : α) : MaySay (.done value) [] value
  | ask {question : Question} {next : Answer question → Dialogue Question Answer α}
      {said : List ((question : Question) × Answer question)} {value : α}
      (answer : Answer question) :
    MaySay (next answer) said value → MaySay (.ask question next) (⟨question, answer⟩ :: said) value

/-- A run says what is said in it. -/
theorem maySay_of_run {dialogue : Dialogue Question Answer α} {state next : σ} {value : α}
    (h : dialogue.run partner state = (some value, next)) :
    dialogue.MaySay (dialogue.exchanges partner state) value := by
  induction dialogue generalizing state with
  | done result =>
    cases h
    exact .done value
  | ask question further ih =>
    rw [run] at h
    rw [exchanges]
    rcases hanswer : partner question state with ⟨_ | answer, after⟩
    · rw [hanswer] at h
      cases h
    · rw [hanswer] at h
      exact .ask answer (ih answer h)

/-- A dialogue and what follows on it say what the one says and then what the other says. -/
theorem MaySay.exists_of_bind {dialogue : Dialogue Question Answer α}
    {continuation : α → Dialogue Question Answer β}
    {said : List ((question : Question) × Answer question)} {value : β}
    (h : (dialogue.bind continuation).MaySay said value) :
    ∃ first before after, dialogue.MaySay before first ∧ (continuation first).MaySay after value ∧
      said = before ++ after := by
  induction dialogue generalizing said with
  | done first => exact ⟨first, [], said, .done first, h, rfl⟩
  | ask question further ih =>
    cases h with
    | ask answer hrest =>
      rcases ih answer hrest with ⟨first, before, after, hbefore, hafter, rfl⟩
      exact ⟨first, ⟨question, answer⟩ :: before, after, .ask answer hbefore, hafter, rfl⟩

/-- Against a partner who answers every question, a dialogue comes to an end. -/
theorem exists_run (hanswers : ∀ question state, (partner question state).1.isSome)
    (dialogue : Dialogue Question Answer α) (state : σ) :
    ∃ value next, dialogue.run partner state = (some value, next) := by
  induction dialogue generalizing state with
  | done value => exact ⟨value, state, rfl⟩
  | ask question further ih =>
    have hsome := hanswers question state
    rcases hanswer : partner question state with ⟨_ | answer, after⟩
    · rw [hanswer] at hsome
      cases hsome
    · rcases ih answer after with ⟨value, next, hrun⟩
      refine ⟨value, next, ?_⟩
      rw [run, hanswer]
      exact hrun

end Dialogue
end Possession

import Possession.Device.Lifecycle
import Possession.Proofs.Store.Cell

/-!
# Generating the device key

What a generation leaves in a store that is a cell. If it succeeds, the store holds the last key
that it handed out, and the policy accepts that key. If it fails, the store holds what it held
before, unless it handed out a key in between; then it holds nothing.

The keys that a store hands out in a generation are not all in its result: those that are not good
enough have to be read off the questions and answers.
-/

namespace Possession

theorem Policy.maxAttempts_pos {policy : Policy} (h : policy.validate = .ok ()) :
    0 < policy.maxAttempts := by
  by_contra hnone
  rw [validate, problem?, if_pos (Nat.eq_zero_of_not_pos hnone)] at h
  cases h

/-! ## Keys that are handed out -/

namespace StoreDialogue

variable {σ α β : Type} {store : KeyStore σ} {state next : σ}

/-- The key that a store hands out with an answer. -/
def handedOut? : ((call : StoreCall) × call.Answer) → Option KeyEntry
  | ⟨.generate _ _, answer⟩ => Except.toOption (answer : Except StoreError KeyEntry)
  | _ => none

/-- The keys that a store hands out in a dialogue, one after the other. -/
def handedOut (store : KeyStore σ) (dialogue : StoreDialogue α) (state : σ) : List KeyEntry :=
  (dialogue.exchanges store.answer state).filterMap handedOut?

theorem handedOut_bind {dialogue : StoreDialogue α} {continuation : α → StoreDialogue β} {value : α}
    (h : store.run dialogue state = (some value, next)) :
    handedOut store (dialogue >>= continuation) state =
      handedOut store dialogue state ++ handedOut store (continuation value) next := by
  rw [handedOut, Dialogue.exchanges_bind_of_run h, List.filterMap_append]
  rfl

theorem handedOut_question {call : StoreCall} {answer : call.Answer}
    (h : store.run (Dialogue.question call) state = (some answer, next)) :
    handedOut store (Dialogue.question call) state = (handedOut? ⟨call, answer⟩).toList := by
  rw [KeyStore.run, Dialogue.run_question] at h
  rw [handedOut, Dialogue.exchanges_question h]
  cases handed : handedOut? ⟨call, answer⟩ with
  | none => simp [handed]
  | some entry => simp [handed]

@[simp]
theorem handedOut_pure (value : α) (state : σ) :
    handedOut store (pure value : StoreDialogue α) state = [] := rfl

end StoreDialogue

namespace DeviceKey

open StoreDialogue

/-! ## Single attempts -/

section Attempts

variable {σ : Type} {store : KeyStore σ} {Holds : σ → Option KeyEntry → Prop} {state : σ}
  {held : Option KeyEntry}

theorem handedOut_generate {spec : KeySpec} {result : Except StoreError KeyEntry} {next : σ}
    (h : store.run (StoreDialogue.generate label spec) state = (some result, next)) :
    handedOut store (StoreDialogue.generate label spec) state = result.toOption.toList :=
  handedOut_question h

/-- An attempt hands out a key that the store then holds, or none and leaves what it held. Asking
without an isolated module where there is none is still one attempt. -/
theorem run_generateOnce (hcell : store.IsCell label Holds) (policy : Policy)
    (hholds : Holds state held) : ∃ result next,
      store.run (generateOnce policy) state = (some result, next) ∧
        handedOut store (generateOnce policy) state = result.toOption.toList ∧
        Holds next (result.toOption.or held) := by
  rcases (hcell.serves hholds).generate ⟨policy.keySize, policy.preferIsolation⟩ with
    ⟨preferred, next, hrun, hafter⟩
  rw [generateOnce, KeyStore.run_bind hrun, handedOut_bind hrun, handedOut_generate hrun]
  split
  · rcases (hcell.serves hafter).generate ⟨policy.keySize, false⟩ with ⟨result, last, hrun, hafter⟩
    exact ⟨result, last, hrun, handedOut_generate hrun, hafter⟩
  · exact ⟨_, next, rfl, List.append_nil _, hafter⟩

theorem run_discard (hcell : store.IsCell label Holds) (hholds : Holds state held) :
    ∃ next, store.run discard state = (some (), next) ∧ handedOut store discard state = [] ∧
      Holds next none := by
  rcases (hcell.serves hholds).delete with ⟨next, hrun, hafter⟩
  have hsaid : handedOut store (StoreDialogue.delete label) state = [] := handedOut_question hrun
  refine ⟨next, ?_, ?_, hafter⟩
  · rw [discard, KeyStore.run_bind hrun]
    rfl
  · rw [discard, handedOut_bind hrun, hsaid]
    rfl

/-! ## Attempt after attempt -/

/-- What a generation may come to, from a store that held something: its result, the keys that were
handed out, and what the store holds afterwards. -/
inductive Generated (policy : Policy) (held : Option KeyEntry) :
    Except DeviceError KeyIdentity → List KeyEntry → Option KeyEntry → Prop where
  /-- The last key is good enough. -/
  | accepted (earlier : List KeyEntry) (entry : KeyEntry) :
    policy.accepts entry.reportedBits = true →
      Generated policy held (.ok entry.identity) (earlier ++ [entry]) (some entry)
  /-- It failed before any key was handed out. -/
  | untouched (error : DeviceError) : Generated policy held (.error error) [] held
  /-- It failed after keys were handed out. -/
  | rolledBack (error : DeviceError) (rejected : KeyEntry) (others : List KeyEntry) :
    Generated policy held (.error error) (rejected :: others) none

/-- A rejected key that was deleted comes before what a generation from an empty store comes to. -/
theorem Generated.cons {policy : Policy} {result : Except DeviceError KeyIdentity}
    {keys : List KeyEntry} {after : Option KeyEntry} (h : Generated policy none result keys after)
    (rejected : KeyEntry) : Generated policy held result (rejected :: keys) after := by
  cases h with
  | accepted earlier entry haccepts => exact .accepted (rejected :: earlier) entry haccepts
  | untouched error => exact .rolledBack error rejected []
  | rolledBack error first others => exact .rolledBack error rejected (first :: others)

/-- Attempts one after the other. Giving up deletes whatever is held, so if no attempt is left
nothing may be held that was there before. -/
theorem run_generateWithin (hcell : store.IsCell label Holds) (policy : Policy) {attempts : Nat}
    (hholds : Holds state held) (hattempts : attempts ≠ 0 ∨ held = none) :
    ∃ result next after, store.run (generateWithin policy attempts) state = (some result, next) ∧
      Generated policy held result (handedOut store (generateWithin policy attempts) state) after ∧
      Holds next after := by
  -- along the attempts; a rejected key leaves an empty store to the next one
  induction attempts generalizing state held with
  | zero =>
    have hnone : held = none := hattempts.resolve_left fun h => h rfl
    subst hnone
    rcases run_discard hcell hholds with ⟨next, hrun, hsaid, hafter⟩
    refine ⟨.error (.badKeySize policy.minKeySize policy.maxAttempts), next, none, ?_, ?_, hafter⟩
    · rw [generateWithin, KeyStore.run_bind hrun]
      rfl
    · rw [generateWithin, handedOut_bind hrun, hsaid]
      exact .untouched _
  | succ attempts ih =>
    rcases run_generateOnce hcell policy hholds with ⟨result, next, hrun, hsaid, hafter⟩
    rw [generateWithin, KeyStore.run_bind hrun, handedOut_bind hrun, hsaid]
    cases result with
    | error error => exact ⟨.error (.ofStoreError error), next, held, rfl, .untouched _, hafter⟩
    | ok entry =>
      dsimp only
      split
      · next haccepts =>
        exact ⟨.ok entry.identity, next, some entry, rfl, .accepted [] entry haccepts, hafter⟩
      · rcases run_discard hcell hafter with ⟨next, hrun, hsaid, hafter⟩
        rcases ih hafter (.inr rfl) with ⟨result, last, after, hrest, hgenerated, hafter⟩
        refine ⟨result, last, after, ?_, ?_, hafter⟩
        · rw [KeyStore.run_bind hrun, hrest]
        · rw [handedOut_bind hrun, hsaid]
          exact hgenerated.cons entry

/-- A generation comes to an end, whatever its policy. -/
theorem run_generate (hcell : store.IsCell label Holds) (policy : Policy)
    (hholds : Holds state held) :
    ∃ result next after, store.run (generate policy) state = (some result, next) ∧
      Generated policy held result (handedOut store (generate policy) state) after ∧
      Holds next after := by
  rw [generate]
  cases hvalid : policy.validate with
  | error error => exact ⟨.error error, state, held, rfl, .untouched error, hholds⟩
  | ok _ =>
    have hattempts : policy.maxAttempts ≠ 0 := Nat.ne_of_gt (Policy.maxAttempts_pos hvalid)
    exact run_generateWithin hcell policy hholds (.inl hattempts)

end Attempts

/-! ## The answered key -/

section Answered

variable {σ : Type} {store : KeyStore σ} {P : σ → Prop} {policy : Policy} {state next : σ}

/-- A key of an attempt comes from a call for a key of the policy's size. -/
theorem exists_answer_of_generateOnce (hkeeps : store.Keeps label P) (hstart : P state)
    {result : Except StoreError KeyEntry}
    (hrun : store.run (generateOnce policy) state = (some result, next)) :
    ∃ before spec, P before ∧ spec.bits = policy.keySize ∧
      store.answer (.generate label spec) before = (some result, next) := by
  rw [generateOnce] at hrun
  rcases Dialogue.exists_of_run_bind hrun with ⟨preferred, middle, hfirst, hrest⟩
  have hanswer := KeyStore.answer_of_run hfirst
  split at hrest
  · exact ⟨middle, _, hkeeps rfl hstart hanswer, rfl, KeyStore.answer_of_run hrest⟩
  · cases hrest
    exact ⟨state, _, hstart, rfl, hanswer⟩

/-- The identity that a generation answers is that of the key that the store handed out last, in a
state that the calls before have led to. -/
theorem exists_answer_of_generateWithin (hkeeps : store.Keeps label P) (hstart : P state)
    {attempts : Nat} {identity : KeyIdentity}
    (hrun : store.run (generateWithin policy attempts) state = (some (.ok identity), next)) :
    ∃ before spec entry, P before ∧ spec.bits = policy.keySize ∧
      store.answer (.generate label spec) before = (some (Except.ok entry), next) ∧
      policy.accepts entry.reportedBits = true ∧ entry.identity = identity := by
  -- along the attempts; a rejected key is deleted, which again leads to a state with the property
  induction attempts generalizing state with
  | zero =>
    rw [generateWithin] at hrun
    rcases Dialogue.exists_of_run_bind hrun with ⟨_, middle, _, hrest⟩
    cases hrest
  | succ attempts ih =>
    rw [generateWithin] at hrun
    rcases Dialogue.exists_of_run_bind hrun with ⟨result, middle, honce, hrest⟩
    rcases exists_answer_of_generateOnce hkeeps hstart honce with
      ⟨before, spec, hbefore, hbits, hanswer⟩
    cases result with
    | error error => cases hrest
    | ok entry =>
      dsimp only at hrest
      split at hrest
      · next haccepts =>
        cases hrest
        exact ⟨before, spec, entry, hbefore, hbits, hanswer, haccepts, rfl⟩
      · rcases Dialogue.exists_of_run_bind hrest with ⟨_, cleared, hdiscard, hrest⟩
        rcases Dialogue.exists_of_run_bind hdiscard with ⟨_, deleted, hdelete, hdone⟩
        cases hdone
        have hdeleted := KeyStore.answer_of_run hdelete
        exact ih (hkeeps rfl (hkeeps rfl hbefore hanswer) hdeleted) hrest

theorem exists_answer_of_run (hkeeps : store.Keeps label P) (hstart : P state)
    {identity : KeyIdentity}
    (hrun : store.run (generate policy) state = (some (.ok identity), next)) :
    ∃ before spec entry, P before ∧ spec.bits = policy.keySize ∧
      store.answer (.generate label spec) before = (some (Except.ok entry), next) ∧
      policy.accepts entry.reportedBits = true ∧ entry.identity = identity := by
  rw [generate] at hrun
  cases hvalid : policy.validate with
  | error error =>
    rw [hvalid] at hrun
    cases hrun
  | ok _ =>
    rw [hvalid] at hrun
    exact exists_answer_of_generateWithin hkeeps hstart hrun

end Answered

end DeviceKey

end Possession

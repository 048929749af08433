import Possession.Device.Lifecycle
import Possession.Proofs.Store.Atomic

/-!
# Generations under way

What a store may hold between two calls of a generation, whatever the store has answered up to then.
A generation is followed from call to call: `Generation.Phase` has one case for each place that it
can have come to, and `Generation.Phase.next` is the step from one to the next.

A key that the policy refuses is held at two places only. The generation has just been handed that
key and is about to delete it, or it has tried to and the store has failed.
-/

namespace Possession

/-- A generation under way: what it has said with the store, what it is yet to do, and whether one
of its calls never came back. -/
structure Generation where
  said : List StoreExchange
  rest : StoreDialogue (Except DeviceError KeyIdentity)
  isLost : Bool

namespace Generation

open DeviceKey

def start (policy : Policy) : Generation :=
  ⟨[], generate policy, false⟩

/-- Makes the next call. -/
def step {σ : Type} (store : KeyStore σ) (generation : Generation) (state : σ) : Generation × σ :=
  match generation.isLost, generation.rest with
  | false, .ask call next =>
    match store.answer call state with
    | (some answer, state) => (⟨generation.said ++ [⟨call, answer⟩], next answer, false⟩, state)
    | (none, state) => ({ generation with isLost := true }, state)
  | _, _ => (generation, state)

/-- The last answer handed out a key, and the next call is to delete it. -/
def IsRollingBack (generation : Generation) (key : KeyEntry) : Prop :=
  (∃ earlier spec, generation.said = earlier ++ [.generated label spec key]) ∧
    ∃ next, generation.rest = .ask (.delete label) next

/-- A key was handed out, the call to delete it failed, and so has every call since. -/
def HasFailedRollback (said : List StoreExchange) (key : KeyEntry) : Prop :=
  ∃ earlier spec error later,
    said = earlier ++ .generated label spec key :: .failed (.delete label) error :: later ∧
      ∀ exchange ∈ later, ∃ call error, exchange = .failed call error

/-- If anything is held, it is a key whose rollback has failed. -/
def Settled (said : List StoreExchange) : Prop :=
  ∀ key, Cell.replay said = some key → HasFailedRollback said key

/-! ## What is left over -/

section Settled

variable {said : List StoreExchange}

theorem settled_nil : Settled [] := nofun

theorem Settled.failed (h : Settled said) (call : StoreCall) (error : StoreError) :
    Settled (said ++ [.failed call error]) := by
  intro key hkey
  rw [Cell.replay_failed] at hkey
  rcases h key hkey with ⟨earlier, spec, first, later, rfl, hlater⟩
  refine ⟨earlier, spec, first, later ++ [.failed call error], by simp, ?_⟩
  intro exchange hexchange
  rcases List.mem_append.mp hexchange with hexchange | hexchange
  · exact hlater exchange hexchange
  · exact ⟨call, error, List.mem_singleton.mp hexchange⟩

theorem settled_deleted (said : List StoreExchange) :
    Settled (said ++ [⟨.delete label, Except.ok ()⟩]) := by
  intro key hkey
  rw [Cell.replay_snoc] at hkey
  cases hkey

/-- Deleting once more leaves nothing, or what was left over before. -/
theorem Settled.discarded (h : Settled said) (answer : (StoreCall.delete label).Answer) :
    Settled (said ++ [⟨.delete label, answer⟩]) := by
  rcases answer with error | ⟨⟨⟩⟩
  · exact h.failed (.delete label) error
  · exact settled_deleted said

/-- Deleting a key that was just handed out leaves nothing, or that key. -/
theorem settled_rollback (earlier : List StoreExchange) (spec : KeySpec) (key : KeyEntry)
    (answer : (StoreCall.delete label).Answer) :
    Settled (earlier ++ [.generated label spec key] ++ [⟨.delete label, answer⟩]) := by
  rcases answer with error | ⟨⟨⟩⟩
  · change Settled (_ ++ [.failed (.delete label) error])
    intro held hheld
    rw [Cell.replay_failed, Cell.replay_generated] at hheld
    cases hheld
    exact ⟨earlier, spec, error, [], by simp, nofun⟩
  · exact settled_deleted _

end Settled

/-! ## From call to call -/

/-- What follows on the result of an attempt. -/
def conclude (policy : Policy) (attempts : Nat) :
    Except StoreError KeyEntry → StoreDialogue (Except DeviceError KeyIdentity)
  | .error error => .done (.error (.ofStoreError error))
  | .ok key =>
    if policy.accepts key.reportedBits then .done (.ok key.identity)
    else .ask (.delete label) fun _ => generateWithin policy attempts

/-- What follows on the answer of a store that was asked for the preferred key. -/
def fallBack (policy : Policy) (preferred : Except StoreError KeyEntry) :
    StoreDialogue (Except StoreError KeyEntry) :=
  match preferred, policy.preferIsolation with
  | .error .isolationUnavailable, true => StoreDialogue.generate label ⟨policy.keySize, false⟩
  | result, _ => .done result

theorem generateWithin_succ (policy : Policy) (attempts : Nat) :
    generateWithin policy (attempts + 1) =
      .ask (.generate label ⟨policy.keySize, policy.preferIsolation⟩) fun preferred =>
        (fallBack policy preferred).bind (conclude policy attempts) := by
  rw [generateWithin]
  rfl

/-- Where a generation may have come to: what has been said up to there, and what is yet to do. -/
inductive Phase (policy : Policy) :
    List StoreExchange → StoreDialogue (Except DeviceError KeyIdentity) → Prop where
  | attempting (said : List StoreExchange) (attempts : Nat) :
    Settled said → Phase policy said (generateWithin policy attempts)
  /-- There is no isolated module to make a key in. -/
  | fallingBack (said : List StoreExchange) (attempts : Nat) :
    Settled said → Phase policy said
      (.ask (.generate label ⟨policy.keySize, false⟩) (conclude policy attempts))
  | rollingBack (earlier : List StoreExchange) (spec : KeySpec) (key : KeyEntry) (attempts : Nat) :
    Phase policy (earlier ++ [.generated label spec key])
      (.ask (.delete label) fun _ => generateWithin policy attempts)
  | succeeded (earlier : List StoreExchange) (spec : KeySpec) (key : KeyEntry) :
    policy.accepts key.reportedBits = true →
      Phase policy (earlier ++ [.generated label spec key]) (.done (.ok key.identity))
  | failed (said : List StoreExchange) (error : DeviceError) :
    Settled said → Phase policy said (.done (.error error))

section Phase

variable {policy : Policy} {said : List StoreExchange}
  {rest : StoreDialogue (Except DeviceError KeyIdentity)}

theorem phase_start (policy : Policy) : Phase policy [] (generate policy) := by
  rw [generate]
  cases policy.validate with
  | error error => exact .failed [] error settled_nil
  | ok _ => exact .attempting [] policy.maxAttempts settled_nil

/-- An attempt that has come to a result. -/
theorem Settled.phase_conclude (h : Settled said) (policy : Policy) (attempts : Nat)
    (spec : KeySpec) (result : Except StoreError KeyEntry) :
    Phase policy (said ++ [⟨.generate label spec, result⟩]) (conclude policy attempts result) := by
  rcases result with error | key
  · exact .failed _ _ (h.failed (.generate label spec) error)
  · rw [conclude]
    split
    · next haccepts => exact .succeeded said spec key haccepts
    · exact .rollingBack said spec key attempts

/-- An attempt that has asked for the preferred key. -/
theorem Settled.phase_fallBack (h : Settled said) (policy : Policy) (attempts : Nat)
    (spec : KeySpec) (preferred : Except StoreError KeyEntry) :
    Phase policy (said ++ [⟨.generate label spec, preferred⟩])
      ((fallBack policy preferred).bind (conclude policy attempts)) := by
  unfold fallBack
  split
  · exact .fallingBack _ attempts (h.failed (.generate label spec) .isolationUnavailable)
  · exact h.phase_conclude policy attempts spec _

/-- Each call leads from one place to another. -/
theorem Phase.next {call : StoreCall}
    {next : call.Answer → StoreDialogue (Except DeviceError KeyIdentity)}
    (h : Phase policy said (.ask call next)) :
    call.label = label ∧
      ∀ answer, Phase policy (said ++ [⟨call, answer⟩]) (next answer) := by
  generalize hrest : Dialogue.ask call next = rest at h
  cases h with
  | attempting _ attempts hsettled =>
    cases attempts with
    | zero =>
      cases hrest
      exact ⟨rfl, fun answer => .failed _ _ (hsettled.discarded answer)⟩
    | succ attempts =>
      rw [generateWithin_succ] at hrest
      cases hrest
      exact ⟨rfl, fun answer => hsettled.phase_fallBack policy attempts _ answer⟩
  | fallingBack _ attempts hsettled =>
    cases hrest
    exact ⟨rfl, fun answer => hsettled.phase_conclude policy attempts _ answer⟩
  | rollingBack earlier spec key attempts =>
    cases hrest
    exact ⟨rfl, fun answer => .attempting _ attempts (settled_rollback earlier spec key answer)⟩
  | succeeded earlier spec key haccepts => cases hrest
  | failed _ error hsettled => cases hrest

/-- Whatever is held between two calls is good enough, about to be deleted, or could not be. -/
theorem Phase.of_held {generation : Generation}
    (h : Phase policy generation.said generation.rest) {key : KeyEntry}
    (hheld : Cell.replay generation.said = some key) :
    policy.accepts key.reportedBits = true ∨ generation.IsRollingBack key ∨
      HasFailedRollback generation.said key := by
  rcases generation with ⟨said, rest, isLost⟩
  cases h with
  | attempting _ attempts hsettled => exact .inr (.inr (hsettled key hheld))
  | fallingBack _ attempts hsettled => exact .inr (.inr (hsettled key hheld))
  | rollingBack earlier spec refused attempts =>
    cases (Cell.replay_generated earlier label spec _).symm.trans hheld
    exact .inr (.inl ⟨⟨earlier, spec, rfl⟩, _, rfl⟩)
  | succeeded earlier spec accepted haccepts =>
    cases (Cell.replay_generated earlier label spec _).symm.trans hheld
    exact .inl haccepts
  | failed _ error hsettled => exact .inr (.inr (hsettled key hheld))

end Phase

/-! ## Over a store -/

/-- A generation that makes its next call to an atomic store goes on to its next place, and what the
store then holds is again what has been said. -/
theorem phase_step {σ : Type} {store : KeyStore σ} {held : σ → Option KeyEntry}
    (hatomic : store.IsAtomic label held) {policy : Policy} {generation : Generation} {state : σ}
    (hheld : held state = Cell.replay generation.said)
    (hphase : Phase policy generation.said generation.rest) :
    held (generation.step store state).2 = Cell.replay (generation.step store state).1.said ∧
      Phase policy (generation.step store state).1.said (generation.step store state).1.rest := by
  rcases generation with ⟨said, rest, isLost⟩
  unfold step
  split
  · next call next _ hrest =>
    cases hrest
    rcases hphase.next with ⟨hlabel, hnext⟩
    split
    · next answer after hanswer =>
      refine ⟨?_, hnext answer⟩
      rw [hatomic.after hlabel hanswer, hheld]
      exact (Cell.replay_snoc said _).symm
    · next after hanswer =>
      exact ⟨(hatomic.unanswered hlabel hanswer).trans hheld, hphase⟩
  · exact ⟨hheld, hphase⟩

end Generation

end Possession

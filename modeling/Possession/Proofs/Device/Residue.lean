import Possession.Proofs.Device.Generation
import Possession.Proofs.Device.Rollback

/-!
# What a generation leaves behind

A generation deletes each key that the policy refuses, and passes over that it cannot. So a refused
key can be left behind, though only by a store that did nothing it was asked from then on: it failed
to delete the key, and so did every call since.

This asks little of a store. One that is honest in the sense of `KeyStore.IsHonest` may have done
anything in a call that fails but bring up a key that was handed out: it may have deleted after all,
or hold a key that nobody was told about.
-/

namespace Possession

/-! ## Honest stores -/

/-- A store that is honest about some keys, given what its states hold under an alias: after a call
it holds one of them only if a cell would. -/
def KeyStore.IsHonest {σ : Type} (store : KeyStore σ) (label : String)
    (held : σ → Option KeyEntry) (keys : List KeyEntry) : Prop :=
  ∀ (call : StoreCall) (state next : σ) (answer : call.Answer), call.label = label →
    store.answer call state = (some answer, next) →
      ∀ key ∈ keys, held next = some key → Cell.after (held state) ⟨call, answer⟩ = some key

namespace Cell

/-- A cell that holds a key after an exchange was handed it then, or held it before. -/
theorem after_eq_some {before : Option KeyEntry} {exchange : StoreExchange} {key : KeyEntry}
    (h : after before exchange = some key) :
    (∀ other, after other exchange = some key) ∨
      before = some key ∧ ∀ other, after other exchange = other := by
  rcases exchange with ⟨call, answer⟩
  cases call with
  | generate label spec =>
    rcases answer with error | made
    · exact .inr ⟨h, fun _ => rfl⟩
    · exact .inl fun _ => h
  | delete label =>
    rcases answer with error | ⟨⟨⟩⟩
    · exact .inr ⟨h, fun _ => rfl⟩
    · cases h
  | _ => exact .inr ⟨h, fun _ => rfl⟩

/-- Once a key was handed out, it does not matter what a cell held at first. -/
theorem foldl_after_eq_replay {said : List StoreExchange} {key : KeyEntry}
    (h : key ∈ said.filterMap StoreDialogue.handedOut?) (before : Option KeyEntry) :
    said.foldl after before = replay said := by
  rw [replay]
  generalize none = other
  induction said generalizing before other with
  | nil => cases h
  | cons exchange said ih =>
    rw [List.foldl_cons, List.foldl_cons]
    cases hmade : StoreDialogue.handedOut? exchange with
    | none =>
      rw [List.filterMap_cons_none hmade] at h
      exact ih h _ _
    | some made =>
      rcases exchange with ⟨call, answer⟩
      cases call with
      | generate label spec =>
        rcases answer with error | made
        · cases hmade
        · rfl
      | _ => cases hmade

end Cell

section Honest

variable {σ α : Type} {store : KeyStore σ} {label : String} {held : σ → Option KeyEntry}

theorem KeyStore.IsAtomic.isHonest (hatomic : store.IsAtomic label held) (keys : List KeyEntry) :
    store.IsHonest label held keys := by
  intro call state next answer hlabel hanswer key _ hheld
  rw [← hatomic.after hlabel hanswer, hheld]

/-- If an honest store holds one of the keys at the end of a dialogue, so does a cell that was asked
the same. -/
theorem KeyStore.IsHonest.run {keys : List KeyEntry} (hhonest : store.IsHonest label held keys)
    {dialogue : StoreDialogue α} {state next : σ} {value : α}
    (hrun : store.run dialogue state = (some value, next))
    (hlabel : ∀ exchange ∈ dialogue.exchanges store.answer state, exchange.1.label = label)
    {key : KeyEntry} (hkey : key ∈ keys) (hheld : held next = some key) :
    (dialogue.exchanges store.answer state).foldl Cell.after (held state) = some key := by
  -- along the dialogue, beside a cell that holds one of the keys whenever the store does
  suffices h : ∀ cell, (∀ key ∈ keys, held state = some key → cell = some key) →
      (dialogue.exchanges store.answer state).foldl Cell.after cell = some key from
    h (held state) fun _ _ => id
  rw [KeyStore.run] at hrun
  induction dialogue generalizing state with
  | done result =>
    intro cell hcell
    cases hrun
    exact hcell key hkey hheld
  | ask call rest ih =>
    intro cell hcell
    rw [Dialogue.run] at hrun
    rw [Dialogue.exchanges] at hlabel ⊢
    rcases hanswer : store.answer call state with ⟨_ | answer, mid⟩
    · rw [hanswer] at hrun
      cases hrun
    · rw [hanswer] at hrun hlabel
      have hmid := hhonest call state mid answer (hlabel _ List.mem_cons_self) hanswer
      refine ih answer hrun (fun exchange h => hlabel exchange (List.mem_cons_of_mem _ h)) _ ?_
      intro other hother hholds
      rcases Cell.after_eq_some (hmid other hother hholds) with hmade | ⟨hbefore, hkept⟩
      · exact hmade cell
      · rw [hkept, hcell other hother hbefore]

end Honest

/-! ## Generations that have returned -/

namespace Generation

open DeviceKey

section Phase

variable {policy : Policy} {said : List StoreExchange} {result : Except DeviceError KeyIdentity}
  {key : KeyEntry}

/-- A generation that has come to a result is at one of its places, by calls under the alias. -/
theorem Phase.of_maySay {rest : StoreDialogue (Except DeviceError KeyIdentity)}
    {later : List StoreExchange} (h : Phase policy said rest) (hsay : rest.MaySay later result) :
    Phase policy (said ++ later) (.done result) ∧
      ∀ exchange ∈ later, exchange.1.label = label := by
  -- along what is said; each exchange leads from one place to another
  induction hsay generalizing said with
  | done value =>
    rw [List.append_nil]
    exact ⟨h, List.forall_mem_nil _⟩
  | ask answer _ ih =>
    rcases h.next with ⟨hlabel, hnext⟩
    rcases ih (hnext answer) with ⟨hphase, hlabels⟩
    rw [List.append_assoc] at hphase
    exact ⟨hphase, List.forall_mem_cons.mpr ⟨hlabel, hlabels⟩⟩

/-- Only a generation that has failed leaves a key that the policy refuses, and only if its rollback
has failed. -/
theorem Phase.done (h : Phase policy said (.done result)) (hheld : Cell.replay said = some key)
    (hrefused : policy.accepts key.reportedBits = false) :
    (∃ error, result = .error error) ∧ HasFailedRollback said key := by
  generalize hdone : Dialogue.done result = rest at h
  cases h with
  | attempting _ attempts _ =>
    cases attempts with
    | zero => cases hdone
    | succ attempts =>
      rw [generateWithin_succ] at hdone
      cases hdone
  | fallingBack => cases hdone
  | rollingBack => cases hdone
  | succeeded earlier spec accepted haccepts =>
    cases (Cell.replay_generated earlier label spec _).symm.trans hheld
    rw [haccepts] at hrefused
    cases hrefused
  | failed _ error hsettled =>
    cases hdone
    exact ⟨⟨error, rfl⟩, hsettled key hheld⟩

end Phase

/-- A key that was handed out to a generation, that the policy refuses and that is held when the
generation has returned: the generation has failed, so had the call to delete the key that followed
on handing it out, and so has every call since. -/
theorem failedRollback_of_run {σ : Type} {store : KeyStore σ} {held : σ → Option KeyEntry}
    {policy : Policy} {state next : σ} {result : Except DeviceError KeyIdentity} {key : KeyEntry}
    (hhonest : store.IsHonest label held
      (StoreDialogue.handedOut store (generate policy) state))
    (hrun : store.run (generate policy) state = (some result, next))
    (hheld : held next = some key)
    (hmade : key ∈ StoreDialogue.handedOut store (generate policy) state)
    (hrefused : policy.accepts key.reportedBits = false) :
    (∃ error, result = .error error) ∧
      HasFailedRollback ((generate policy).exchanges store.answer state) key := by
  rcases (phase_start policy).of_maySay (Dialogue.maySay_of_run hrun) with ⟨hphase, hlabel⟩
  rw [List.nil_append] at hphase
  refine hphase.done ?_ hrefused
  rw [← Cell.foldl_after_eq_replay hmade (held state)]
  exact hhonest.run hrun hlabel hmade hheld

/-! ## A key that cannot be deleted -/

/-- A store that makes one key, which is too small, is busy from then on, and never deletes. -/
def stubborn : Scripted where
  memory := .empty ⟨.ofSeed [], ⟨0, 0⟩⟩
  isolation := true
  script := [.make fun label => .ofPrivateKey label ⟨35, 5, 5, 5, 7⟩ ⟨0, 0⟩ .isolatedModule,
    .fail (.backend "busy")]
  fault? := fun call => if call = .delete then some (.backend "locked") else none
  log := []

/-- What is left of `stubborn` by a generation. -/
def stuck : Scripted :=
  ((Scripted.store .isolatedModule true).run (generate .standard) stubborn).2

theorem sample_failedRollback : ∃ key,
    (Scripted.store .isolatedModule true).run (generate .standard) stubborn =
      (some (.error (.ofStoreError (.backend "busy"))), stuck) ∧
    stuck.memory.find? label = some key ∧
    key ∈ StoreDialogue.handedOut (Scripted.store .isolatedModule true) (generate .standard)
      stubborn ∧
    Policy.standard.accepts key.reportedBits = false ∧
    (∃ error, Except.error (.ofStoreError (.backend "busy")) =
      (Except.error error : Except DeviceError KeyIdentity)) ∧
    HasFailedRollback
      ((generate .standard).exchanges (Scripted.store .isolatedModule true).answer stubborn)
      key := by
  have hatomic := Scripted.isAtomic label .isolatedModule true
  exact ⟨_, rfl, rfl, List.mem_singleton_self _, by decide,
    failedRollback_of_run (hatomic.isHonest _) rfl rfl (List.mem_singleton_self _) (by decide)⟩

/-- So it is not so that no refused key survives, even of an atomic store that is empty at first. -/
theorem not_forall_accepted_of_run :
    ¬ ∀ (scripted next : Scripted) (policy : Policy) (result : Except DeviceError KeyIdentity)
      (key : KeyEntry),
      (Scripted.store .isolatedModule true).IsAtomic label (·.memory.find? label) →
      scripted.memory.find? label = none →
      (Scripted.store .isolatedModule true).run (generate policy) scripted =
        (some result, next) →
      next.memory.find? label = some key →
      key ∈ StoreDialogue.handedOut (Scripted.store .isolatedModule true) (generate policy)
        scripted →
      policy.accepts key.reportedBits = true := by
  intro h
  have haccepts := h stubborn stuck .standard _ _ (Scripted.isAtomic _ _ _) rfl rfl rfl
    (List.mem_singleton_self _)
  exact absurd haccepts (by decide)

end Generation

end Possession

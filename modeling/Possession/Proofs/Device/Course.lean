import Possession.Proofs.Device.Generation
import Possession.Proofs.Device.Rollback

/-!
# The course of a generation

What a generation says with a store, call by call, whatever the store answers. It makes attempts,
each of them one call for a key, or two where the key was to lie in an isolated module and there is
none. A key that is too small is deleted and followed by another attempt, until none is left; then
there is one more call to delete.

* `Generation.Attempt`, `Generation.Rejections` and `Generation.Course` are what is said in an
  attempt, in attempts that came to nothing, and in a whole generation, with what it answers.
* `Generation.Overlooks` has the procedures that go on alike whatever they are told of deleting.
* `Generation.conduct` says of every store that a generation keeps to its course.
-/

namespace Possession

/-- A reported size that is known to be too small. A negative size is not known. -/
def Policy.Rejects (policy : Policy) (bits : Int) : Prop :=
  0 ≤ bits ∧ bits < policy.minKeySize

theorem Policy.accepts_eq_false_iff {policy : Policy} {bits : Int} :
    policy.accepts bits = false ↔ policy.Rejects bits := by
  simp only [accepts, Rejects, Bool.or_eq_false_iff, decide_eq_false_iff_not]
  omega

namespace Generation

open DeviceKey
open StoreDialogue (handedOut handedOut?)

/-! ## What is said -/

/-- What is said in an attempt, and the answer that it comes to. -/
inductive Attempt (policy : Policy) : List StoreExchange → Except StoreError KeyEntry → Prop where
  | preferred (answer : Except StoreError KeyEntry) :
    (policy.preferIsolation = true → answer ≠ .error .isolationUnavailable) →
      Attempt policy [⟨.generate label ⟨policy.keySize, policy.preferIsolation⟩, answer⟩] answer
  /-- There is no isolated module, so a key of the same size is asked for without one. -/
  | fallback (answer : Except StoreError KeyEntry) :
    policy.preferIsolation = true →
      Attempt policy
        [.failed (.generate label ⟨policy.keySize, true⟩) .isolationUnavailable,
          ⟨.generate label ⟨policy.keySize, false⟩, answer⟩] answer

/-- What is said in a number of attempts whose keys are too small, each with one call to delete the
key behind it. -/
inductive Rejections (policy : Policy) : Nat → List StoreExchange → Prop where
  | nothing : Rejections policy 0 []
  | more {count : Nat} {earlier said : List StoreExchange} {key : KeyEntry}
      (deleted : Except StoreError Unit) :
    Rejections policy count earlier → Attempt policy said (.ok key) →
      policy.Rejects key.reportedBits →
        Rejections policy (count + 1) (earlier ++ said ++ [⟨.delete label, deleted⟩])

/-- What is said in a generation, and what it answers. -/
inductive Course (policy : Policy) :
    List StoreExchange → Except DeviceError KeyIdentity → Prop where
  | accepted {count : Nat} {earlier said : List StoreExchange} {key : KeyEntry} :
    Rejections policy count earlier → count < policy.maxAttempts →
      Attempt policy said (.ok key) → ¬ policy.Rejects key.reportedBits →
        Course policy (earlier ++ said) (.ok key.identity)
  | failed {count : Nat} {earlier said : List StoreExchange} {error : StoreError} :
    Rejections policy count earlier → count < policy.maxAttempts →
      Attempt policy said (.error error) →
        Course policy (earlier ++ said) (.error (.ofStoreError error))
  /-- No attempt is left, so whatever is there is deleted once more. -/
  | exhausted {earlier : List StoreExchange} (deleted : Except StoreError Unit) :
    Rejections policy policy.maxAttempts earlier →
      Course policy (earlier ++ [⟨.delete label, deleted⟩])
        (.error (.badKeySize policy.minKeySize policy.maxAttempts))

section Course

variable {policy : Policy} {said : List StoreExchange} {answer : Except StoreError KeyEntry}
  {result : Except DeviceError KeyIdentity}

/-- What is said when the preferred key has been asked for makes an attempt of it. -/
theorem attempt_of_fallBack {preferred : Except StoreError KeyEntry}
    (h : (fallBack policy preferred).MaySay said answer) :
    Attempt policy
      (⟨.generate label ⟨policy.keySize, policy.preferIsolation⟩, preferred⟩ :: said) answer := by
  unfold fallBack at h
  split at h
  · next hisolation =>
    cases h with
    | ask answer hrest =>
      cases hrest
      rw [hisolation]
      exact .fallback answer hisolation
  · next hother =>
    cases h
    refine .preferred answer ?_
    rintro hisolation rfl
    exact hother rfl hisolation

theorem generateWithin_zero (policy : Policy) :
    generateWithin policy 0 =
      .ask (.delete label) fun _ =>
        .done (.error (.badKeySize policy.minKeySize policy.maxAttempts)) := rfl

/-- Attempts that follow on rejections complete the course of a generation. -/
theorem course_of_maySay {attempts count : Nat} {earlier : List StoreExchange}
    (hearlier : Rejections policy count earlier) (hcount : count + attempts = policy.maxAttempts)
    (h : (generateWithin policy attempts).MaySay said result) :
    Course policy (earlier ++ said) result := by
  -- along the attempts; a key that is too small adds one to the rejections
  induction attempts generalizing count earlier said with
  | zero =>
    rw [generateWithin_zero] at h
    cases h with
    | ask deleted hrest =>
      cases hrest
      rw [Nat.add_zero] at hcount
      subst hcount
      exact .exhausted deleted hearlier
  | succ attempts ih =>
    have hlt : count < policy.maxAttempts := by omega
    rw [generateWithin_succ] at h
    cases h with
    | ask preferred hrest =>
      rcases hrest.exists_of_bind with ⟨answer, before, after, hbefore, hafter, rfl⟩
      have hattempt := attempt_of_fallBack hbefore
      cases answer with
      | error error =>
        cases hafter
        rw [List.append_nil]
        exact .failed hearlier hlt hattempt
      | ok key =>
        rw [conclude] at hafter
        split at hafter
        · next haccepts =>
          cases hafter
          rw [List.append_nil]
          refine .accepted hearlier hlt hattempt ?_
          rw [← Policy.accepts_eq_false_iff, haccepts]
          exact Bool.noConfusion
        · next hrefused =>
          have hrejects := Policy.accepts_eq_false_iff.mp (Bool.eq_false_of_not_eq_true hrefused)
          cases hafter with
          | ask deleted hrest =>
            have hcourse := ih (.more deleted hearlier hattempt hrejects) (by omega) hrest
            simpa using hcourse

/-! ## The keys that are handed out -/

theorem Attempt.filterMap_handedOut? (h : Attempt policy said answer) :
    said.filterMap handedOut? = answer.toOption.toList := by
  cases h with
  | preferred => cases answer <;> rfl
  | fallback => cases answer <;> rfl

theorem Rejections.length_handedOut {count : Nat} (h : Rejections policy count said) :
    (said.filterMap handedOut?).length = count ∧
      ∀ key ∈ said.filterMap handedOut?, policy.Rejects key.reportedBits := by
  induction h with
  | nothing => exact ⟨rfl, nofun⟩
  | more deleted _ hattempt hrejects ih =>
    have hdeleted : handedOut? ⟨.delete label, deleted⟩ = none := rfl
    rw [List.filterMap_append, List.filterMap_append, hattempt.filterMap_handedOut?,
      List.filterMap_cons_none hdeleted, List.filterMap_nil, List.append_nil]
    refine ⟨?_, ?_⟩
    · rw [List.length_append, ih.1]
      rfl
    · intro other hmem
      rcases List.mem_append.mp hmem with hmem | hmem
      · exact ih.2 other hmem
      · cases List.mem_singleton.mp hmem
        exact hrejects

end Course

/-! ## What is told of deleting -/

/-- What is told of a key that was asked for. -/
def made? : StoreExchange → Option (Except StoreError KeyEntry)
  | ⟨.generate _ _, answer⟩ => some answer
  | _ => none

theorem generate_of_error {policy : Policy} {fault : DeviceError}
    (h : policy.validate = .error fault) : generate policy = .done (.error fault) := by
  rw [generate, h]
  rfl

theorem generate_of_ok {policy : Policy} (h : policy.validate = .ok ()) :
    generate policy = generateWithin policy policy.maxAttempts := by
  rw [generate, h]

/-- A generation that has returned has kept to its course. -/
theorem course_of_run {σ : Type} {store : KeyStore σ} {policy : Policy} {state next : σ}
    {result : Except DeviceError KeyIdentity} (hvalid : policy.validate = .ok ())
    (hrun : store.run (generate policy) state = (some result, next)) :
    Course policy ((generate policy).exchanges store.answer state) result := by
  have hsay := Dialogue.maySay_of_run hrun
  rw [generate_of_ok hvalid] at hsay ⊢
  exact course_of_maySay .nothing (Nat.zero_add _) hsay

/-- An entry that reports a given size. -/
def reporting (bits : Int) : KeyEntry :=
  { KeyEntry.ofPrivateKey label ⟨35, 5, 5, 5, 7⟩ ⟨0, 0⟩ .software with reportedBits := bits }

end Generation

end Possession

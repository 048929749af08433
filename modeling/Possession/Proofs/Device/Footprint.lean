import Possession.Proofs.Device.Course
import Possession.Proofs.Device.Residue

/-!
# The footprint of a generation

What a generation leaves in a store that is a map from aliases to entries and that deletes when it
is asked to. All other aliases are as before. Under the alias of the device key, a generation that
has failed leaves what was there if the store has made no key, and nothing otherwise.

* `KeyStore.IsMap` says that a store is such a map, whatever its states look like.
* `Generation.footprint_of_run` is what is left.
-/

namespace Possession

/-- A store that is a map from aliases to entries, given what its states hold: a call changes what
is held under its own alias as it changes a cell, and nothing else. -/
structure KeyStore.IsMap {σ : Type} (store : KeyStore σ) (held : σ → String → Option KeyEntry) :
    Prop where
  after {call : StoreCall} {state next : σ} {answer : call.Answer} :
    store.answer call state = (some answer, next) →
      held next call.label = Cell.after (held state call.label) ⟨call, answer⟩
  aside {call : StoreCall} {state next : σ} {answer : call.Answer} {other : String} :
    store.answer call state = (some answer, next) → other ≠ call.label →
      held next other = held state other

/-- A dialogue about one alias changes what a map holds there from answer to answer, and nothing
else. -/
theorem KeyStore.IsMap.run {σ α : Type} {store : KeyStore σ} {held : σ → String → Option KeyEntry}
    {label : String} (hmap : store.IsMap held) {dialogue : StoreDialogue α} {state next : σ}
    {value : α} (hrun : store.run dialogue state = (some value, next))
    (hlabel : ∀ exchange ∈ dialogue.exchanges store.answer state, exchange.1.label = label) :
    held next label = (dialogue.exchanges store.answer state).foldl Cell.after (held state label) ∧
      ∀ other, other ≠ label → held next other = held state other := by
  rw [KeyStore.run] at hrun
  induction dialogue generalizing state with
  | done result =>
    cases hrun
    exact ⟨rfl, fun _ _ => rfl⟩
  | ask call rest ih =>
    rw [Dialogue.run] at hrun
    rw [Dialogue.exchanges] at hlabel ⊢
    rcases hanswer : store.answer call state with ⟨_ | answer, mid⟩
    · rw [hanswer] at hrun
      cases hrun
    · rw [hanswer] at hrun hlabel
      rcases List.forall_mem_cons.mp hlabel with ⟨hcall, hlater⟩
      rcases ih answer hrun hlater with ⟨hheld, haside⟩
      cases hcall
      refine ⟨?_, ?_⟩
      · rw [hheld, hmap.after hanswer]
        rfl
      · intro other hother
        rw [haside other hother, hmap.aside hanswer hother]

namespace Generation

open DeviceKey
open StoreDialogue (handedOut handedOut?)

/-! ## What a cell holds in the course of a generation -/

section Course

variable {policy : Policy} {said : List StoreExchange} {before : Option KeyEntry}

theorem Attempt.foldl_after {answer : Except StoreError KeyEntry} (h : Attempt policy said answer)
    (before : Option KeyEntry) : said.foldl Cell.after before = answer.toOption.or before := by
  cases h with
  | preferred => rfl
  | fallback => rfl

/-- Once a key was rejected and deleted, nothing is held. -/
theorem Rejections.foldl_after {count : Nat} (h : Rejections policy count said)
    (hdeletes : ∀ deleted, ⟨.delete label, deleted⟩ ∈ said → deleted = .ok ()) :
    said.foldl Cell.after before = if count = 0 then before else none := by
  cases h with
  | nothing => rfl
  | more deleted hearlier hattempt hrejects =>
    have hok : deleted = .ok () :=
      hdeletes deleted (List.mem_append_right _ List.mem_cons_self)
    rw [hok, List.foldl_append]
    rfl

/-- A generation that has failed leaves what was held, or nothing if it was handed a key. -/
theorem Course.foldl_after {error : DeviceError} (h : Course policy said (.error error))
    (hattempts : 0 < policy.maxAttempts)
    (hdeletes : ∀ deleted, ⟨.delete label, deleted⟩ ∈ said → deleted = .ok ()) :
    said.foldl Cell.after before =
      if (said.filterMap handedOut?).length = 0 then before else none := by
  cases h with
  | @failed count earlier last error hearlier hlt hattempt =>
    have hfront : ∀ deleted, ⟨.delete label, deleted⟩ ∈ earlier → deleted = .ok () := by
      intro deleted hmem
      exact hdeletes deleted (List.mem_append_left _ hmem)
    rw [List.foldl_append, hearlier.foldl_after hfront, hattempt.foldl_after,
      List.filterMap_append, hattempt.filterMap_handedOut?, List.length_append,
      hearlier.length_handedOut.1]
    rfl
  | exhausted deleted hearlier =>
    have hok : deleted = .ok () :=
      hdeletes deleted (List.mem_append_right _ List.mem_cons_self)
    have hdeleted : handedOut? ⟨.delete label, deleted⟩ = none := rfl
    rw [List.filterMap_append, List.filterMap_cons_none hdeleted, List.filterMap_nil,
      List.append_nil, hearlier.length_handedOut.1, if_neg (Nat.ne_of_gt hattempts), hok,
      List.foldl_append]
    rfl

end Course

/-! ## What a map holds afterwards -/

section Footprint

variable {σ : Type} {store : KeyStore σ} {held : σ → String → Option KeyEntry} {policy : Policy}
  {state next : σ} {result : Except DeviceError KeyIdentity}

/-- A generation over a map touches the alias of the device key alone. If it has failed, the entry
is what it was if no key was handed out; otherwise there is none. -/
theorem footprint_of_run (hmap : store.IsMap held)
    (hrun : store.run (generate policy) state = (some result, next))
    (hdeletes : ∀ deleted : Except StoreError Unit,
      ⟨.delete label, deleted⟩ ∈ (generate policy).exchanges store.answer state →
        deleted = .ok ()) :
    (∀ other, other ≠ label → held next other = held state other) ∧
      ∀ error, result = .error error →
        (handedOut store (generate policy) state = [] → held next label = held state label) ∧
          (handedOut store (generate policy) state ≠ [] → held next label = none) := by
  have hlabels := ((phase_start policy).of_maySay (Dialogue.maySay_of_run hrun)).2
  rcases hmap.run hrun hlabels with ⟨hheld, haside⟩
  refine ⟨haside, ?_⟩
  rintro error rfl
  have hafter : held next label =
      if (handedOut store (generate policy) state).length = 0 then held state label else none := by
    rw [hheld]
    cases hvalid : policy.validate with
    | error fault =>
      rw [generate_of_error hvalid]
      rfl
    | ok _ => exact (course_of_run hvalid hrun).foldl_after (Policy.maxAttempts_pos hvalid) hdeletes
  refine ⟨?_, ?_⟩
  · intro hnone
    exact hafter.trans (if_pos (List.length_eq_zero_iff.mpr hnone))
  · intro hsome
    exact hafter.trans (if_neg (mt List.length_eq_zero_iff.mp hsome))

end Footprint

end Generation

/-! ## Scripted stores -/

namespace Scripted

/-- Whatever its script and its faults, a scripted store is a map. -/
theorem isMap (backing : Backing) (isolation : Bool) :
    (store backing isolation).IsMap fun scripted label => scripted.memory.find? label where
  after {call} _ _ _ hanswer := (isAtomic call.label backing isolation).after rfl hanswer
  aside := by
    intro call scripted next answer other hanswer hother
    cases call with
    | generate label spec =>
      have hgenerates := scripted.generates label spec
      rw [show scripted.generate label spec = (some answer, next) from hanswer] at hgenerates
      cases hgenerates with
      | handsOut entry _ hmemory =>
        rw [hmemory]
        exact Memory.find?_insert_of_ne hother _ _
      | fails error _ hmemory => rw [hmemory]
    | delete label =>
      have hdeletes := scripted.deletes label
      rw [show Scripted.answer (.delete label) scripted = (some answer, next) from hanswer]
        at hdeletes
      cases hdeletes with
      | empties _ hmemory =>
        rw [hmemory]
        exact Memory.find?_erase_of_ne hother _
      | fails error _ hmemory => rw [hmemory]
    | _ =>
      cases hanswer
      rfl

end Scripted

/-! ## A sample -/

namespace Generation

open DeviceKey

/-- A store that holds the device key and another one. It makes some keys and is busy from then on,
but deletes when it is asked to. -/
def disturbed (made : List KeyEntry) : Scripted where
  memory := ((Memory.empty ⟨.ofSeed [], ⟨0, 0⟩⟩).insert "other" (reporting 3072)).insert label
    (reporting 2048)
  isolation := true
  script := made.map (fun entry => .make fun _ => entry) ++ [.fail (.backend "busy")]
  fault? := fun _ => none
  log := []

/-- What is left of `disturbed` by a generation. -/
def leftOver (made : List KeyEntry) : Scripted :=
  ((Scripted.store .isolatedModule true).run (generate .standard) (disturbed made)).2

/-- A store that is busy from the start keeps the device key; one that has made a key which is too
small before loses it. -/
theorem sample_footprint :
    ((Scripted.store .isolatedModule true).run (generate .standard) (disturbed []) =
        (some (.error (.storeUnavailable (.backend "busy"))), leftOver []) ∧
      (leftOver []).memory.find? label = some (reporting 2048) ∧
      (leftOver []).memory.find? "other" = some (reporting 3072)) ∧
    (Scripted.store .isolatedModule true).run (generate .standard)
        (disturbed [reporting 1024]) =
        (some (.error (.storeUnavailable (.backend "busy"))), leftOver [reporting 1024]) ∧
      (leftOver [reporting 1024]).memory.find? label = none ∧
      (leftOver [reporting 1024]).memory.find? "other" = some (reporting 3072) := by
  have hmap := Scripted.isMap .isolatedModule true
  have hother : "other" ≠ label := by decide
  constructor
  · have hrun : (Scripted.store .isolatedModule true).run (generate .standard) (disturbed []) =
        (some (.error (.storeUnavailable (.backend "busy"))), leftOver []) := rfl
    have hfootprint := footprint_of_run hmap hrun (by rintro deleted (_ | ⟨_, ⟨⟩⟩))
    exact ⟨hrun, (hfootprint.2 _ rfl).1 rfl, hfootprint.1 "other" hother⟩
  · have hrun : (Scripted.store .isolatedModule true).run (generate .standard)
        (disturbed [reporting 1024]) =
          (some (.error (.storeUnavailable (.backend "busy"))), leftOver [reporting 1024]) := rfl
    have hfootprint := footprint_of_run hmap hrun (by
      rintro deleted (_ | ⟨_, _ | ⟨_, _ | ⟨_, ⟨⟩⟩⟩⟩)
      rfl)
    exact ⟨hrun, (hfootprint.2 _ rfl).2 (List.cons_ne_nil _ _), hfootprint.1 "other" hother⟩

end Generation

end Possession

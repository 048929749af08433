import Possession.Proofs.Store.Backends
import Possession.Store.Scripted

/-!
# Atomic stores

A store whose calls are single steps on what it holds under an alias. Calls may fail, or never come
back; a call that does neither answers what a cell answers. Unlike a cell, an atomic store is not
bound to delete or to read when it is asked to, which is what several users of one store have to
reckon with.

What an atomic store holds is settled by the calls that it has answered: `Cell.replay` reads it off
them.
-/

namespace Possession

/-- A call of a store with its answer. -/
abbrev StoreExchange : Type :=
  (call : StoreCall) × call.Answer

namespace StoreExchange

/-- An entry that is handed out. -/
def generated (label : String) (spec : KeySpec) (key : KeyEntry) : StoreExchange :=
  ⟨.generate label spec, Except.ok key⟩

/-- A call that fails. -/
def failed (call : StoreCall) (error : StoreError) : StoreExchange :=
  ⟨call, call.refusal error⟩

end StoreExchange

namespace Cell

/-- What a cell holds after an exchange: the entry that was handed out, nothing once it is emptied,
or what it held before. -/
def after (held : Option KeyEntry) : StoreExchange → Option KeyEntry
  | ⟨.generate _ _, answer⟩ => (Except.toOption (answer : Except StoreError KeyEntry)).or held
  | ⟨.delete _, answer⟩ => if Except.isOk (answer : Except StoreError Unit) then none else held
  | _ => held

@[simp]
theorem after_generated (held : Option KeyEntry) (label : String) (spec : KeySpec)
    (key : KeyEntry) : after held (.generated label spec key) = some key := rfl

@[simp]
theorem after_failed (held : Option KeyEntry) (call : StoreCall) (error : StoreError) :
    after held (.failed call error) = held := by
  cases call <;> rfl

/-- A call that only reads changes nothing. -/
theorem after_of_reply {held : Option KeyEntry} {call : StoreCall} {reply : call.Answer}
    (h : Cell.reply held call = some reply) (answer : call.Answer) :
    after held ⟨call, answer⟩ = held := by
  cases call with
  | generate _ _ => cases h
  | delete _ => cases h
  | _ => rfl

/-- What a cell that was empty holds after exchanges. -/
def replay (said : List StoreExchange) : Option KeyEntry :=
  said.foldl after none

@[simp]
theorem replay_snoc (said : List StoreExchange) (exchange : StoreExchange) :
    replay (said ++ [exchange]) = after (replay said) exchange := by
  rw [replay, List.foldl_append]
  rfl

theorem replay_generated (said : List StoreExchange) (label : String) (spec : KeySpec)
    (key : KeyEntry) : replay (said ++ [.generated label spec key]) = some key := by
  rw [replay_snoc, after_generated]

theorem replay_failed (said : List StoreExchange) (call : StoreCall) (error : StoreError) :
    replay (said ++ [.failed call error]) = replay said := by
  rw [replay_snoc, after_failed]

end Cell

/-- A store that is atomic under an alias, given what its states hold there. -/
structure KeyStore.IsAtomic {σ : Type} (store : KeyStore σ) (label : String)
    (held : σ → Option KeyEntry) : Prop where
  /-- Reading tells what is held, or fails. -/
  reply {call : StoreCall} {state next : σ} {answer reply : call.Answer} :
    call.label = label → store.answer call state = (some answer, next) →
      Cell.reply (held state) call = some reply →
        answer = reply ∨ ∃ error, answer = call.refusal error
  after {call : StoreCall} {state next : σ} {answer : call.Answer} :
    call.label = label → store.answer call state = (some answer, next) →
      held next = Cell.after (held state) ⟨call, answer⟩
  unanswered {call : StoreCall} {state next : σ} :
    call.label = label → store.answer call state = (none, next) → held next = held state

/-! ## Memory -/

theorem Memory.find?_generate (memory : Memory) (label : String) (spec : KeySpec) :
    (memory.generate label spec).2.find? label =
      ((memory.generate label spec).1.toOption).or (memory.find? label) := by
  rw [generate]
  split
  · rfl
  · split
    · rfl
    · exact find?_insert _ _ _

theorem Memory.isAtomic (label : String) : store.IsAtomic label (·.find? label) where
  reply := by
    intro call memory next answer reply hlabel hanswer hreply
    cases call <;> cases hlabel <;> cases hreply <;> cases hanswer <;> exact .inl rfl
  after := by
    intro call memory next answer hlabel hanswer
    cases call with
    | generate label spec =>
      cases hlabel
      cases hanswer
      exact memory.find?_generate label spec
    | delete label =>
      cases hlabel
      cases hanswer
      exact find?_erase memory label
    | _ =>
      cases hanswer
      rfl
  unanswered := by
    intro call memory next hlabel hanswer
    cases call <;> cases hanswer

/-! ## Stores that follow a script -/

namespace Scripted

variable {label : String}

theorem unlessTold_cases {α : Type} (scripted : Scripted) (call : ScriptedCall)
    (result : Except StoreError α) : scripted.unlessTold call result = result ∨
      ∃ error, scripted.unlessTold call result = .error error := by
  rw [unlessTold]
  cases scripted.fault? call with
  | none => exact .inl rfl
  | some error => exact .inr ⟨error, rfl⟩

/-- What a scripted store does when it is asked for a key. -/
inductive Generates (scripted : Scripted) (label : String) :
    Option (Except StoreError KeyEntry) × Scripted → Prop where
  | handsOut (entry : KeyEntry) (next : Scripted) :
    next.memory = scripted.memory.insert label entry →
      Generates scripted label (some (.ok entry), next)
  | fails (error : StoreError) (next : Scripted) :
    next.memory = scripted.memory → Generates scripted label (some (.error error), next)
  | crashes (next : Scripted) :
    next.memory = scripted.memory → Generates scripted label (none, next)

theorem generates (scripted : Scripted) (label : String) (spec : KeySpec) :
    scripted.Generates label (scripted.generate label spec) := by
  simp only [generate]
  split
  · exact .fails _ _ rfl
  · split
    · exact .fails _ _ rfl
    · split
      · exact .fails _ _ rfl
      · split
        · exact .fails _ _ rfl
        · exact .crashes _ rfl
        · exact .handsOut _ _ rfl

theorem Generates.find?_after {scripted next : Scripted} {spec : KeySpec}
    {answer : Except StoreError KeyEntry} (h : scripted.Generates label (some answer, next)) :
    next.memory.find? label =
      Cell.after (scripted.memory.find? label) ⟨.generate label spec, answer⟩ := by
  cases h with
  | handsOut entry _ hmemory =>
    rw [hmemory]
    exact Memory.find?_insert _ _ _
  | fails error _ hmemory =>
    rw [hmemory]
    rfl

/-- What a scripted store does when it is asked to delete. -/
inductive Deletes (scripted : Scripted) (label : String) :
    Option (Except StoreError Unit) × Scripted → Prop where
  | empties (next : Scripted) :
    next.memory = scripted.memory.erase label → Deletes scripted label (some (.ok ()), next)
  | fails (error : StoreError) (next : Scripted) :
    next.memory = scripted.memory → Deletes scripted label (some (.error error), next)

theorem deletes (scripted : Scripted) (label : String) :
    scripted.Deletes label (answer (.delete label) scripted) := by
  simp only [answer]
  split
  · exact .fails _ _ rfl
  · exact .empties _ rfl

theorem Deletes.find?_after {scripted next : Scripted} {answer : Except StoreError Unit}
    (h : scripted.Deletes label (some answer, next)) :
    next.memory.find? label = Cell.after (scripted.memory.find? label) ⟨.delete label, answer⟩ := by
  cases h with
  | empties _ hmemory =>
    rw [hmemory]
    exact Memory.find?_erase _ _
  | fails error _ hmemory =>
    rw [hmemory]
    rfl

/-- Whatever its script and its faults, a scripted store is atomic. -/
theorem isAtomic (label : String) (backing : Backing) (isolation : Bool) :
    (store backing isolation).IsAtomic label (·.memory.find? label) where
  reply := by
    intro call scripted next answer reply hlabel hanswer hreply
    cases call with
    | contains _ =>
      cases hlabel
      cases hanswer
      cases hreply
      exact unlessTold_cases scripted .contains _
    | entry _ =>
      cases hlabel
      cases hanswer
      cases hreply
      exact unlessTold_cases scripted .entry _
    | creationDate _ =>
      cases hlabel
      cases hanswer
      cases hreply
      exact unlessTold_cases scripted .creationDate _
    | generate _ _ => cases hreply
    | delete _ => cases hreply
  after := by
    intro call scripted next answer hlabel hanswer
    cases call with
    | generate label spec =>
      cases hlabel
      exact Generates.find?_after (hanswer ▸ scripted.generates label spec)
    | delete label =>
      cases hlabel
      exact Deletes.find?_after (hanswer ▸ scripted.deletes label)
    | _ =>
      cases hanswer
      rfl
  unanswered := by
    intro call scripted next hlabel hanswer
    cases call with
    | generate label spec =>
      have hgenerates := scripted.generates label spec
      rw [show scripted.generate label spec = (none, next) from hanswer] at hgenerates
      cases hgenerates with
      | crashes _ hmemory => rw [hmemory]
    | delete label =>
      have hdeletes := scripted.deletes label
      rw [show answer (.delete label) scripted = (none, next) from hanswer] at hdeletes
      cases hdeletes
    | _ => cases hanswer

end Scripted

end Possession

import Possession.Proofs.Dialogue
import Possession.Proofs.Instant.Text
import Possession.Store.Software

/-!
# Key stores as cells

What a store owes its user under one alias: it is a cell that holds an entry or nothing. Reading
answers what it holds and changes nothing, deleting empties it, and generating fills it with the
entry that is handed out or leaves it as it was.

* `KeyStore.Serves` says how a store in one state answers as a cell.
* `KeyStore.IsCell` says that a store is a cell, whatever its states look like.
* `KeyStore.supplied` is a store that draws on new entropy and a new time for each call.
-/

namespace Possession

namespace StoreCall

/-- The alias that a call is about. -/
def label : StoreCall → String
  | .contains label | .generate label _ | .entry label | .delete label | .creationDate label =>
    label

/-- The answer to a call that fails. -/
def refusal (error : StoreError) : (call : StoreCall) → call.Answer
  | .contains _ => Except.error error
  | .generate _ _ => Except.error error
  | .entry _ => Except.error error
  | .delete _ => Except.error error
  | .creationDate _ => Except.error error

end StoreCall

/-- What a cell that may hold an entry answers to a request for it. -/
def Cell.entry (label : String) (held : Option KeyEntry) : Except StoreError KeyEntry :=
  match held with
  | some entry => .ok entry
  | none => .error (.notFound label)

/-- What a cell that may hold an entry answers to a call that only reads. -/
def Cell.reply (held : Option KeyEntry) : (call : StoreCall) → Option call.Answer
  | .contains _ => some (Except.ok held.isSome : Except StoreError Bool)
  | .entry label => some (Cell.entry label held)
  | .creationDate label => some ((Cell.entry label held).map (·.createdAt))
  | .generate _ _ => none
  | .delete _ => none

/-- The entry of a private key that lies with software. -/
def KeyEntry.IsSoftware (entry : KeyEntry) : Prop :=
  ∃ label key createdAt, entry = KeyEntry.ofPrivateKey label key createdAt .software

namespace Supply

/-- The key that software makes of a supply, and the time at which it is made. -/
def newKey (supply : Supply) (spec : KeySpec) : Except StoreError (Rsa.PrivateKey × Instant) :=
  if spec.isolated then .error .isolationUnavailable
  else
    match supply.generateKey spec.bits with
    | (.error error, _) => .error error
    | (.ok key, next) => .ok (key, next.now)

/-- The entry of the key that software makes of a supply. -/
def newEntry (supply : Supply) (label : String) (spec : KeySpec) : Except StoreError KeyEntry :=
  (supply.newKey spec).map fun (key, createdAt) =>
    KeyEntry.ofPrivateKey label key createdAt .software

end Supply

namespace KeyStore

variable {σ α β : Type} {store : KeyStore σ} {label : String}
  {Holds : σ → Option KeyEntry → Prop} {state next : σ} {held : Option KeyEntry}

/-- A store answers each call as a cell that may hold an entry, and then still is a cell. -/
structure Serves (store : KeyStore σ) (label : String) (Holds : σ → Option KeyEntry → Prop)
    (state : σ) (held : Option KeyEntry) : Prop where
  contains : ∃ next, store.run (StoreDialogue.contains label) state =
    (some (.ok held.isSome), next) ∧ Holds next held
  entry : ∃ next, store.run (StoreDialogue.entry label) state =
    (some (Cell.entry label held), next) ∧ Holds next held
  creationDate : ∃ next, store.run (StoreDialogue.creationDate label) state =
    (some ((Cell.entry label held).map (·.createdAt)), next) ∧ Holds next held
  delete : ∃ next, store.run (StoreDialogue.delete label) state =
    (some (.ok ()), next) ∧ Holds next none
  generate (spec : KeySpec) : ∃ result next, store.run (StoreDialogue.generate label spec) state =
    (some result, next) ∧ Holds next (result.toOption.or held)

/-- Whatever is read, the answer is that of the cell. -/
theorem Serves.reply (hserves : store.Serves label Holds state held) {call : StoreCall}
    {reply : call.Answer} (hlabel : call.label = label)
    (hreply : Cell.reply held call = some reply) :
    ∃ next, store.answer call state = (some reply, next) ∧ Holds next held := by
  cases call with
  | contains _ =>
    cases hlabel
    cases hreply
    rcases hserves.contains with ⟨next, hrun, hafter⟩
    exact ⟨next, (Dialogue.run_question _ _).symm.trans hrun, hafter⟩
  | entry _ =>
    cases hlabel
    cases hreply
    rcases hserves.entry with ⟨next, hrun, hafter⟩
    exact ⟨next, (Dialogue.run_question _ _).symm.trans hrun, hafter⟩
  | creationDate _ =>
    cases hlabel
    cases hreply
    rcases hserves.creationDate with ⟨next, hrun, hafter⟩
    exact ⟨next, (Dialogue.run_question _ _).symm.trans hrun, hafter⟩
  | generate _ _ => cases hreply
  | delete _ => cases hreply

/-- A store that is a cell under an alias, given what its states hold there. -/
structure IsCell (store : KeyStore σ) (label : String) (Holds : σ → Option KeyEntry → Prop) :
    Prop where
  serves {state : σ} {held : Option KeyEntry} (hholds : Holds state held) :
    store.Serves label Holds state held
  software {state : σ} {entry : KeyEntry} (hholds : Holds state (some entry)) : entry.IsSoftware

theorem run_bind {dialogue : StoreDialogue α} {continuation : α → StoreDialogue β} {value : α}
    (h : store.run dialogue state = (some value, next)) :
    store.run (dialogue >>= continuation) state = store.run (continuation value) next :=
  Dialogue.run_bind_of_run h

theorem answer_of_run {call : StoreCall} {answer? : Option call.Answer}
    (h : store.run (Dialogue.question call) state = (answer?, next)) :
    store.answer call state = (answer?, next) :=
  (Dialogue.run_question call state).symm.trans h

/-! ## What calls keep -/

/-- The calls about an alias lead from states with a property to states with it. -/
def Keeps (store : KeyStore σ) (label : String) (P : σ → Prop) : Prop :=
  ∀ {call : StoreCall} {answer : call.Answer} {state next : σ}, call.label = label →
    P state → store.answer call state = (some answer, next) → P next

/-- A cell stays a cell, whichever call it answers. -/
theorem IsCell.keeps (hcell : store.IsCell label Holds) :
    store.Keeps label fun state => ∃ held, Holds state held := by
  rintro call answer state next hlabel ⟨held, hholds⟩ hanswer
  have hserves := hcell.serves hholds
  have hnext {reply : Option call.Answer} {after : σ} {held : Option KeyEntry}
      (hreply : store.answer call state = (reply, after)) (hafter : Holds after held) :
      ∃ held, Holds next held := by
    cases hanswer.symm.trans hreply
    exact ⟨held, hafter⟩
  cases call with
  | contains _ =>
    cases hlabel
    rcases hserves.contains with ⟨after, hrun, hafter⟩
    exact hnext (answer_of_run hrun) hafter
  | entry _ =>
    cases hlabel
    rcases hserves.entry with ⟨after, hrun, hafter⟩
    exact hnext (answer_of_run hrun) hafter
  | creationDate _ =>
    cases hlabel
    rcases hserves.creationDate with ⟨after, hrun, hafter⟩
    exact hnext (answer_of_run hrun) hafter
  | delete _ =>
    cases hlabel
    rcases hserves.delete with ⟨after, hrun, hafter⟩
    exact hnext (answer_of_run hrun) hafter
  | generate _ spec =>
    cases hlabel
    rcases hserves.generate spec with ⟨result, after, hrun, hafter⟩
    exact hnext (answer_of_run hrun) hafter

/-- A cell that hands out a new key holds it. -/
theorem IsCell.holds_of_answer (hcell : store.IsCell label Holds) (hholds : Holds state held)
    {spec : KeySpec} {entry : KeyEntry}
    (hanswer : store.answer (.generate label spec) state =
      (some (Except.ok entry), next)) : Holds next (some entry) := by
  rcases (hcell.serves hholds).generate spec with ⟨result, after, hrun, hafter⟩
  cases hanswer.symm.trans (answer_of_run hrun)
  exact hafter

/-! ## Changing supplies -/

/-- A store whose supply is replaced before each call. -/
def supplied (store : KeyStore σ) (resupply : Supply → σ → σ) : KeyStore (σ × (Nat → Supply)) where
  capabilities := store.capabilities
  answer := fun call (state, supplies) =>
    let (answer, next) := store.answer call (resupply (supplies 0) state)
    (answer, next, fun index => supplies (index + 1))

theorem run_supplied {resupply : Supply → σ → σ} {supplies : Nat → Supply} {call : StoreCall}
    {answer : call.Answer}
    (h : store.run (Dialogue.question call) (resupply (supplies 0) state) = (some answer, next)) :
    (store.supplied resupply).run (Dialogue.question call) (state, supplies) =
      (some answer, next, fun index => supplies (index + 1)) := by
  rw [run, Dialogue.run_question] at h ⊢
  simp only [supplied, h]

theorem answer_of_supplied {resupply : Supply → σ → σ} {call : StoreCall}
    {answer? : Option call.Answer} {start next : σ × (Nat → Supply)}
    (h : (store.supplied resupply).answer call start = (answer?, next)) :
    store.answer call (resupply (start.2 0) start.1) = (answer?, next.1) := by
  cases h
  rfl

/-- A store is a cell under changing supplies when it serves as one under each supply whose time is
one of the calendar. -/
theorem isCell_supplied {resupply : Supply → σ → σ}
    (hserves : ∀ {state : σ} {held : Option KeyEntry} {supply : Supply},
      Holds state held → supply.now.IsValid → store.Serves label Holds (resupply supply state) held)
    (hsoftware : ∀ {state : σ} {entry : KeyEntry}, Holds state (some entry) → entry.IsSoftware) :
    (store.supplied resupply).IsCell label fun state held =>
      Holds state.1 held ∧ ∀ index, (state.2 index).now.IsValid where
  serves := by
    rintro ⟨state, supplies⟩ held ⟨hholds, hvalid⟩
    have hserved := hserves hholds (hvalid 0)
    have hlater : ∀ index, (supplies (index + 1)).now.IsValid := fun index => hvalid (index + 1)
    refine ⟨?_, ?_, ?_, ?_, ?_⟩
    · rcases hserved.contains with ⟨next, hrun, hafter⟩
      exact ⟨_, run_supplied hrun, hafter, hlater⟩
    · rcases hserved.entry with ⟨next, hrun, hafter⟩
      exact ⟨_, run_supplied hrun, hafter, hlater⟩
    · rcases hserved.creationDate with ⟨next, hrun, hafter⟩
      exact ⟨_, run_supplied hrun, hafter, hlater⟩
    · rcases hserved.delete with ⟨next, hrun, hafter⟩
      exact ⟨_, run_supplied hrun, hafter, hlater⟩
    · intro spec
      rcases hserved.generate spec with ⟨result, next, hrun, hafter⟩
      exact ⟨result, _, run_supplied hrun, hafter, hlater⟩
  software := fun hholds => hsoftware hholds.1

end KeyStore

end Possession

import Possession.Dialogue
import Possession.Store.Entry

/-!
# Key stores

A key store holds at most one key under each alias. Everything that uses a store asks it five kinds
of questions, so it is a dialogue with the store; what a particular store is, is how it answers.
-/

namespace Possession

/-- What a store is asked. -/
inductive StoreCall where
  /-- Whether there is an entry. -/
  | contains (label : String)
  /-- To generate a key in place of any entry. -/
  | generate (label : String) (spec : KeySpec)
  | entry (label : String)
  /-- To delete the entry, if there is one. -/
  | delete (label : String)
  | creationDate (label : String)
  deriving DecidableEq, Repr

/-- What kind of answer a call gets. -/
def StoreCall.Answer : StoreCall → Type
  | .contains _ => Except StoreError Bool
  | .generate _ _ => Except StoreError KeyEntry
  | .entry _ => Except StoreError KeyEntry
  | .delete _ => Except StoreError Unit
  | .creationDate _ => Except StoreError Instant

/-- A procedure over a key store. -/
abbrev StoreDialogue (α : Type) : Type :=
  Dialogue StoreCall StoreCall.Answer α

namespace StoreDialogue

def contains (label : String) : StoreDialogue (Except StoreError Bool) :=
  Dialogue.question (StoreCall.contains label)

def generate (label : String) (spec : KeySpec) : StoreDialogue (Except StoreError KeyEntry) :=
  Dialogue.question (StoreCall.generate label spec)

def entry (label : String) : StoreDialogue (Except StoreError KeyEntry) :=
  Dialogue.question (StoreCall.entry label)

def delete (label : String) : StoreDialogue (Except StoreError Unit) :=
  Dialogue.question (StoreCall.delete label)

/-- Asks when an entry was made. -/
def creationDate (label : String) : StoreDialogue (Except StoreError Instant) :=
  Dialogue.question (StoreCall.creationDate label)

end StoreDialogue

/-- A key store with states in `σ`: what it can offer, and how it answers. -/
structure KeyStore (σ : Type) where
  capabilities : Capabilities
  answer : Partner StoreCall StoreCall.Answer σ

def KeyStore.run {σ α : Type} (store : KeyStore σ) (dialogue : StoreDialogue α) (state : σ) :
    Option α × σ :=
  dialogue.run store.answer state

end Possession

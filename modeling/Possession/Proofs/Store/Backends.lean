import Possession.Proofs.Association
import Possession.Proofs.Store.Cell
import Possession.Proofs.Store.Record
import Possession.Store.Keychain
import Possession.Store.Memory

/-!
# Stores that need no files

A store in memory and a keychain without faults are cells under every alias. The one holds the entry
in its map, the other the entry that is made of the record in the password.
-/

namespace Possession

/-! ## Memory -/

namespace Memory

variable {memory : Memory} {label : String} {held : Option KeyEntry}

@[simp]
theorem find?_insert (memory : Memory) (label : String) (entry : KeyEntry) :
    (memory.insert label entry).find? label = some entry := by
  simp [find?, insert]

@[simp]
theorem find?_erase (memory : Memory) (label : String) : (memory.erase label).find? label = none :=
  lookup_removed _ _

theorem find?_erase_of_ne {other : String} (h : other ≠ label) (memory : Memory) :
    (memory.erase label).find? other = memory.find? other :=
  lookup_removed_of_ne _ h

theorem find?_insert_of_ne {other : String} (h : other ≠ label) (memory : Memory)
    (entry : KeyEntry) : (memory.insert label entry).find? other = memory.find? other := by
  have hne : (other == label) = false := by simpa using h
  rw [insert, find?, List.lookup_cons, hne]
  exact find?_erase_of_ne h memory

def resupply (supply : Supply) (memory : Memory) : Memory :=
  { memory with supply }

/-- What a store in memory holds under an alias. -/
def Holds (label : String) (memory : Memory) (held : Option KeyEntry) : Prop :=
  memory.find? label = held ∧ ∀ entry, held = some entry → entry.IsSoftware

theorem entry_eq (h : memory.find? label = held) : memory.entry label = Cell.entry label held := by
  rw [entry, h]
  rfl

/-- Making a key fills the store, or leaves its entries alone. -/
theorem answer_generate (hholds : Holds label memory held) (spec : KeySpec) : ∃ next,
    store.answer (.generate label spec) memory = (some (memory.supply.newEntry label spec), next) ∧
      Holds label next ((memory.supply.newEntry label spec).toOption.or held) := by
  simp only [store, answer, generate, Supply.newEntry, Supply.newKey]
  split
  · exact ⟨memory, rfl, hholds⟩
  · rcases memory.supply.generateKey spec.bits with ⟨error | key, supply⟩
    · exact ⟨{ memory with supply }, rfl, hholds⟩
    · refine ⟨_, rfl, find?_insert _ _ _, ?_⟩
      rintro entry ⟨⟩
      exact ⟨label, key, supply.now, rfl⟩

theorem serves (hholds : Holds label memory held) :
    store.Serves label (Holds label) memory held where
  contains := by
    refine ⟨memory, ?_, hholds⟩
    rw [← hholds.1]
    rfl
  entry := by
    refine ⟨memory, ?_, hholds⟩
    rw [← entry_eq hholds.1]
    rfl
  creationDate := by
    refine ⟨memory, ?_, hholds⟩
    rw [← entry_eq hholds.1]
    rfl
  delete := ⟨memory.erase label, rfl, find?_erase memory label, nofun⟩
  generate := fun spec => by
    rcases answer_generate hholds spec with ⟨next, hanswer, hafter⟩
    exact ⟨_, next, (Dialogue.run_question _ _).trans hanswer, hafter⟩

/-- A store in memory is a cell. -/
theorem isCell (label : String) : (store.supplied resupply).IsCell label fun state held =>
    Holds label state.1 held ∧ ∀ index, (state.2 index).now.IsValid :=
  KeyStore.isCell_supplied (fun hholds _ => serves hholds) fun hholds => hholds.2 _ rfl

end Memory

/-! ## Keychains -/

namespace Keychain

variable {keychain : Keychain} {label : String} {held : Option KeyEntry}

def resupply (supply : Supply) (keychain : Keychain) : Keychain :=
  { keychain with supply }

/-- What a keychain without faults holds under an alias. -/
structure Holds (label : String) (keychain : Keychain) (held : Option KeyEntry) : Prop where
  faultless : keychain.fault? = fun _ => none
  kept : StoredKey.Kept label ((keychain.passwords.lookup (service, label)).map Utf8.encode) held

theorem Holds.attempt (hholds : Holds label keychain held) (call : KeychainCall) :
    keychain.attempt call = .ok () := by
  rw [Keychain.attempt, hholds.faultless]

theorem Holds.reach (hholds : Holds label keychain held) : keychain.reach = .ok () := by
  rw [Keychain.reach, hholds.attempt]
  rfl

theorem contains_eq (hholds : Holds label keychain held) :
    keychain.contains label = .ok held.isSome := by
  have hsome := hholds.kept.isSome_eq
  rw [Option.isSome_map] at hsome
  rw [contains, hholds.reach, Outcome.ok_bind, get, hholds.attempt, Outcome.ok_bind, ← hsome]
  cases keychain.passwords.lookup (service, label) with
  | none => rfl
  | some text => rfl

theorem readKey_eq (hholds : Holds label keychain held) : keychain.readKey label =
    StoredKey.readContent label
      ((keychain.passwords.lookup (service, label)).map Utf8.encode) := by
  rw [readKey, hholds.reach, Outcome.ok_bind, get, hholds.attempt, Outcome.ok_bind]
  cases keychain.passwords.lookup (service, label) with
  | none => rfl
  | some text => rfl

theorem writeKey_eq (hholds : Holds label keychain held) {stored : StoredKey}
    {after : Option KeyEntry}
    (hkept : StoredKey.Kept label (some (Utf8.encode stored.toJson)) after) :
    ∃ next, keychain.writeKey label stored = .ok next ∧ Holds label next after := by
  refine ⟨keychain.insert label stored.toJson, ?_, hholds.faultless, ?_⟩
  · rw [writeKey, hholds.reach, Outcome.ok_bind, set, hholds.attempt]
    rfl
  · simpa [insert] using hkept

theorem removeKey_eq (hholds : Holds label keychain held) :
    ∃ next, keychain.removeKey label = .ok next ∧ Holds label next none := by
  rw [removeKey, hholds.reach, Outcome.ok_bind, delete, hholds.attempt, Outcome.ok_bind]
  cases hpassword : keychain.passwords.lookup (service, label) with
  | none =>
    refine ⟨keychain, rfl, hholds.faultless, ?_⟩
    rw [hpassword]
    rfl
  | some text =>
    have hremoved : (keychain.erase label).passwords.lookup (service, label) = none :=
      lookup_removed _ _
    refine ⟨keychain.erase label, rfl, hholds.faultless, ?_⟩
    rw [hremoved]
    rfl

/-- Making a key fills the keychain, or leaves its passwords alone. -/
theorem answer_generate (hholds : Holds label keychain held)
    (hvalid : keychain.supply.now.IsValid) (spec : KeySpec) : ∃ next,
      store.answer (.generate label spec) keychain =
        (some (keychain.supply.storedEntry label spec), next) ∧
          Holds label next ((keychain.supply.storedEntry label spec).toOption.or held) := by
  simp only [store, answer, generate, Supply.storedEntry, Supply.newKey]
  split
  · exact ⟨keychain, rfl, hholds⟩
  · rcases hkey : keychain.supply.generateKey spec.bits with ⟨error | key, supply⟩
    · exact ⟨{ keychain with supply }, rfl, hholds.faultless, hholds.kept⟩
    · have hsupplied : Holds label { keychain with supply } held :=
        ⟨hholds.faultless, hholds.kept⟩
      simp only [Except.bind]
      cases hstored : StoredKey.ofKey key supply.now with
      | error error => exact ⟨{ keychain with supply }, rfl, hsupplied⟩
      | ok stored =>
        have hkept : StoredKey.Kept label _ _ :=
          StoredKey.kept_of_generateKey hvalid hkey hstored
        rcases writeKey_eq hsupplied hkept with ⟨next, hwritten, hafter⟩
        refine ⟨next, ?_, hafter⟩
        simp only [hwritten]
        rfl

theorem serves (hholds : Holds label keychain held) (hvalid : keychain.supply.now.IsValid) :
    store.Serves label (Holds label) keychain held where
  contains := by
    refine ⟨keychain, ?_, hholds⟩
    rw [← contains_eq hholds]
    rfl
  entry := by
    refine ⟨keychain, ?_, hholds⟩
    rw [← hholds.kept.toEntry_eq, ← readKey_eq hholds]
    rfl
  creationDate := by
    refine ⟨keychain, ?_, hholds⟩
    rw [← hholds.kept.createdAt_eq, ← readKey_eq hholds]
    rfl
  delete := by
    rcases removeKey_eq hholds with ⟨next, hremoved, hafter⟩
    refine ⟨next, ?_, hafter⟩
    have hanswer : answer (.delete label) keychain = (some (Except.ok ()), next) := by
      simp only [answer, hremoved]
      rfl
    exact (Dialogue.run_question _ _).trans hanswer
  generate := fun spec => by
    rcases answer_generate hholds hvalid spec with ⟨next, hanswer, hafter⟩
    exact ⟨_, next, (Dialogue.run_question _ _).trans hanswer, hafter⟩

/-- A keychain without faults is a cell. -/
theorem isCell (label : String) : (store.supplied resupply).IsCell label fun state held =>
    Holds label state.1 held ∧ ∀ index, (state.2 index).now.IsValid := by
  refine KeyStore.isCell_supplied ?_ ?_
  · intro keychain held supply hholds hvalid
    exact serves ⟨hholds.faultless, hholds.kept⟩ hvalid
  · intro keychain entry hholds
    exact hholds.kept.isSoftware

end Keychain

end Possession

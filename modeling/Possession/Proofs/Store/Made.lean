import Possession.Proofs.Store.Directory
import Possession.Store.Keychain
import Possession.Store.Memory

/-!
# Keys that software makes

Whatever has become of a store that keeps its keys in software, the key that it answers to a request
for a new one was made by software at the size that was asked for.
-/

namespace Possession

/-- The entry of a key that software made at a given size. -/
def KeyEntry.IsMade (entry : KeyEntry) (bits : Nat) : Prop :=
  ∃ label key createdAt source next, Rsa.generate bits source = .ok (key, next) ∧
    entry = KeyEntry.ofPrivateKey label key createdAt .software

theorem KeyEntry.isMade_of_generateKey {supply next : Supply} {bits : Nat} {key : Rsa.PrivateKey}
    (h : supply.generateKey bits = (.ok key, next)) (label : String) (createdAt : Instant) :
    (KeyEntry.ofPrivateKey label key createdAt .software).IsMade bits := by
  rw [Supply.generateKey] at h
  split at h
  · next hmade =>
    cases h
    exact ⟨label, key, createdAt, supply.entropy, _, hmade, rfl⟩
  · cases h

theorem Supply.newEntry_of_generate {supply : Supply} {bits : Nat} {key : Rsa.PrivateKey}
    {next : Entropy} (h : Rsa.generate bits supply.entropy = .ok (key, next)) (label : String) :
    supply.newEntry label ⟨bits, false⟩ =
      .ok (.ofPrivateKey label key supply.now .software) := by
  simp [newEntry, newKey, generateKey, h]

variable {label : String} {spec : KeySpec} {entry : KeyEntry}

theorem Memory.generate_fst (memory : Memory) (label : String) (spec : KeySpec) :
    (memory.generate label spec).1 = memory.supply.newEntry label spec := by
  rw [generate, Supply.newEntry, Supply.newKey]
  split
  · rfl
  · rcases memory.supply.generateKey spec.bits with ⟨error | key, supply⟩
    · rfl
    · rfl

theorem Memory.isMade_of_answer {memory next : Memory}
    (h : store.answer (.generate label spec) memory = (some (Except.ok entry), next)) :
    entry.IsMade spec.bits := by
  simp only [store, answer, generate] at h
  split at h
  · cases h
  · rcases hkey : memory.supply.generateKey spec.bits with ⟨error | key, supply⟩
    · rw [hkey] at h
      cases h
    · rw [hkey] at h
      cases h
      exact KeyEntry.isMade_of_generateKey hkey label supply.now

theorem Keychain.isMade_of_answer {keychain next : Keychain}
    (h : store.answer (.generate label spec) keychain = (some (Except.ok entry), next)) :
    entry.IsMade spec.bits := by
  simp only [store, answer, generate] at h
  split at h
  · cases h
  · rcases hkey : keychain.supply.generateKey spec.bits with ⟨error | key, supply⟩
    · rw [hkey] at h
      cases h
    · simp only [hkey] at h
      split at h
      · cases h
      · cases h
        exact KeyEntry.isMade_of_generateKey hkey label supply.now

theorem KeyDirectory.isMade_of_answer {base : Path} {disk next : Disk}
    (h : (store base).answer (.generate label spec) disk = (some (Except.ok entry), next)) :
    entry.IsMade spec.bits := by
  simp only [store, answer, serve] at h
  rcases generate_cases base label spec disk.supply with ⟨error, supply, hgenerate, -⟩ |
    ⟨key, supply, stored, hkey, -, -, hgenerate⟩
  · rw [hgenerate] at h
    cases h
  · rw [hgenerate] at h
    split at h
    · next answer after tree hrun =>
      cases h
      rcases Dialogue.exists_of_run_bind hrun with ⟨written, middle, -, hrest⟩
      cases written with
      | error error => cases hrest
      | ok _ =>
        cases hrest
        exact KeyEntry.isMade_of_generateKey hkey label supply.now
    · cases h

end Possession

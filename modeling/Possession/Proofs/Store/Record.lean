import Possession.Proofs.Base64
import Possession.Proofs.Der
import Possession.Proofs.Instant.Text
import Possession.Proofs.Json.Record
import Possession.Proofs.Rsa.Generated
import Possession.Proofs.Store.Cell
import Possession.Store.Record

/-!
# Stored keys read back

A generated key that was put into the form in which it is kept comes out of it again, with the time
at which it was made: the text of the record, the time in it, the base64 of the key and the
distinguished encoding are each read back.
-/

namespace Possession

open Json

namespace StoredKey

theorem reads_toJson {stored : StoredKey} (h : stored.createdAt.IsValid) :
    Reads shape.read stored.toJson
      (.record [.text stored.createdAt.text, .text stored.sealed]) := by
  have htime : timeRefusal? stored.createdAt.text = none := by
    rw [timeRefusal?, Instant.parse_text h]
  have hslots : Fills shape.members [none, none]
      [("created_at", writeText stored.createdAt.text), ("private_key", writeText stored.sealed)]
      [some (.text stored.createdAt.text), some (.text stored.sealed)] := by
    refine Fills.next rfl rfl rfl (reads_textThat _ htime) ?_
    refine Fills.next rfl rfl rfl (reads_text _) ?_
    exact Fills.done _
  exact reads_record hslots rfl

theorem ofJson_toJson {stored : StoredKey} (h : stored.createdAt.IsValid) :
    ofJson (Utf8.encode stored.toJson) = .ok stored := by
  rw [ofJson, Shape.decode, readWholeText_of_reads (reads_toJson h)]
  simp only [Outcome.ok_bind, ofValue?, Instant.parse_text h]
  rfl

/-- A key whose numbers belong together comes out of the form in which it is kept. -/
theorem toKey_of_ofKey {key : Rsa.PrivateKey} {createdAt : Instant} {stored : StoredKey}
    (hkey : key.isConsistent = true) (h : ofKey key createdAt = .ok stored) :
    stored.createdAt = createdAt ∧ stored.toKey = .ok key := by
  simp only [ofKey] at h
  split at h
  · cases h
  · next hlength =>
    cases h
    refine ⟨rfl, ?_⟩
    rw [toKey, Base64.decode_encode Base64.proper_standard]
    simp only [Rsa.PrivateKey.ofDer?_toDer hkey (not_lt.mp hlength)]

/-! ## Entries -/

/-- Whether an octet string is a record from which a store makes an entry. -/
def Keeps (bytes : Bytes) (label : String) (entry : KeyEntry) : Prop :=
  ∃ stored, ofJson bytes = .ok stored ∧ stored.toEntry label = .ok entry

/-- Whether a store that keeps one record, or none, holds an entry, or none. -/
def Kept (label : String) (content : Option Bytes) (held : Option KeyEntry) : Prop :=
  match content with
  | none => held = none
  | some bytes => ∃ entry, held = some entry ∧ Keeps bytes label entry

/-- The record that a store reads, if it keeps one. -/
def readContent (label : String) (content : Option Bytes) : Except StoreError StoredKey :=
  match content with
  | none => .error (.notFound label)
  | some bytes => ofJson bytes

variable {bytes : Bytes} {label : String} {entry : KeyEntry} {content : Option Bytes}
  {held : Option KeyEntry}

/-- An entry that is made from a record is that of a private key, with the time of the record. -/
theorem exists_key_of_toEntry {stored : StoredKey} (h : stored.toEntry label = .ok entry) :
    ∃ key, entry = KeyEntry.ofPrivateKey label key stored.createdAt .software := by
  rcases Outcome.bind_eq_ok_iff.mp h with ⟨key, -, hentry⟩
  cases hentry
  exact ⟨key, rfl⟩

theorem Kept.isSoftware (h : Kept label content (some entry)) : entry.IsSoftware := by
  cases content with
  | none => cases h
  | some bytes =>
    rcases h with ⟨_, ⟨⟩, stored, -, hentry⟩
    rcases exists_key_of_toEntry hentry with ⟨key, rfl⟩
    exact ⟨label, key, stored.createdAt, rfl⟩

theorem Kept.isSome_eq (h : Kept label content held) : content.isSome = held.isSome := by
  cases content with
  | none =>
    cases h
    rfl
  | some bytes =>
    rcases h with ⟨entry, rfl, -⟩
    rfl

theorem Kept.toEntry_eq (h : Kept label content held) :
    ((readContent label content).bind fun stored => stored.toEntry label) =
      Cell.entry label held := by
  cases content with
  | none =>
    cases h
    rfl
  | some bytes =>
    rcases h with ⟨entry, rfl, stored, hstored, hentry⟩
    rw [readContent, hstored]
    exact hentry

theorem Kept.createdAt_eq (h : Kept label content held) :
    (readContent label content).map (·.createdAt) =
      (Cell.entry label held).map (·.createdAt) := by
  cases content with
  | none =>
    cases h
    rfl
  | some bytes =>
    rcases h with ⟨entry, rfl, stored, hstored, hentry⟩
    rcases exists_key_of_toEntry hentry with ⟨key, rfl⟩
    rw [readContent, hstored]
    rfl

/-- The record of a generated key is one from which the key's entry is made. -/
theorem kept_of_generateKey {supply next : Supply} {bits : Nat} {key : Rsa.PrivateKey}
    {stored : StoredKey} (hvalid : supply.now.IsValid)
    (hkey : supply.generateKey bits = (.ok key, next)) (h : ofKey key next.now = .ok stored) :
    Kept label (some (Utf8.encode stored.toJson))
      (some (KeyEntry.ofPrivateKey label key next.now .software)) := by
  have hgenerated : key.isConsistent = true ∧ next.now = supply.now := by
    rw [Supply.generateKey] at hkey
    split at hkey
    · next hgenerate =>
      cases hkey
      exact ⟨Rsa.isConsistent_of_generate hgenerate, rfl⟩
    · cases hkey
  rcases toKey_of_ofKey hgenerated.1 h with ⟨hcreated, hback⟩
  refine ⟨_, rfl, stored, ofJson_toJson ?_, ?_⟩
  · rw [hcreated, hgenerated.2]
    exact hvalid
  · rw [toEntry, hback, hcreated]
    rfl

end StoredKey

/-! ## New keys -/

namespace Supply

variable {supply : Supply} {label : String} {spec : KeySpec}

/-- What a store that keeps records answers to a request for a new key. -/
def storedEntry (supply : Supply) (label : String) (spec : KeySpec) : Except StoreError KeyEntry :=
  (supply.newKey spec).bind fun (key, createdAt) =>
    (StoredKey.ofKey key createdAt).map fun _ =>
      KeyEntry.ofPrivateKey label key createdAt .software

/-- Whether the key that software makes of a supply is as short as the encoding must be. -/
def Encodable (supply : Supply) (spec : KeySpec) : Prop :=
  ∀ key createdAt, supply.newKey spec = .ok (key, createdAt) → key.toDer.length ≤ Der.maxLength

theorem storedEntry_eq (h : supply.Encodable spec) (label : String) :
    supply.storedEntry label spec = supply.newEntry label spec := by
  rw [storedEntry, newEntry]
  cases hkey : supply.newKey spec with
  | error error => rfl
  | ok made =>
    rcases made with ⟨key, createdAt⟩
    simp only [Except.bind, StoredKey.ofKey, if_neg (not_lt.mpr (h key createdAt hkey))]
    rfl

end Supply

end Possession

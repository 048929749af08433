import Possession.Proofs.Device.Naming
import Possession.Proofs.Rsa.Encoding
import Possession.Proofs.Rsa.KeyPair
import Possession.Proofs.Store.Record

/-!
# What becomes of stored keys

A private key that is kept as a record is read back as it was, with the time at which it was made, to
the nanosecond. Whatever else stands in the place of a record is read as a key, or is told to be
unrecoverable, and nothing else happens.

* `PrivateKey.isConsistent_of_isPair` and `PrivateKey.length_toDer_of_isConsistent` say which keys can
  be kept.
* `StoredKey.readEntry` is what a store makes of octets, and `StoredKey.readEntry_cases` what that may
  be.
* `StoredKey.record_roundTrip` puts both together.
-/

namespace Possession

/-! ## Keys that can be kept -/

namespace Rsa.PrivateKey

variable {key : PrivateKey} {bits : Nat}

/-- Two primes and a pair of exponents belong together, if nothing is wrong with the public half. -/
theorem isConsistent_of_isPair (h : key.IsPair) (hshape : key.publicKey.shapeFault? = none) :
    key.isConsistent = true := by
  have hpositive := h.exponents_pos
  have hmod {prime : Nat}
      (hinverse : key.publicExponent * key.privateExponent ≡ 1 [MOD prime - 1]) :
      (key.publicExponent * key.privateExponent - 1) % (prime - 1) = 0 :=
    Nat.mod_eq_zero_of_dvd ((Nat.modEq_iff_dvd' hpositive).mp hinverse.symm)
  have hprime1 := h.prime1.one_lt
  have hprime2 := h.prime2.one_lt
  simp [isConsistent, hshape, hprime1, hprime2, h.modulus, hpositive, hmod h.inverse1,
    hmod h.inverse2]

/-- A key whose numbers belong together and have at most `2 ^ 27` bits is as short as the encoding
must be. -/
theorem length_toDer_of_isConsistent (h : key.isConsistent = true) (hmodulus : key.modulus < 2 ^ bits)
    (hprivate : key.privateExponent < 2 ^ bits) (hbits : bits ≤ 2 ^ 27) :
    key.toDer.length ≤ Der.maxLength := by
  simp only [isConsistent, Bool.and_eq_true, Option.isNone_iff_eq_none, decide_eq_true_eq,
    beq_iff_eq] at h
  obtain ⟨⟨⟨⟨⟨⟨hshape, hprime1⟩, hprime2⟩, hproduct⟩, -⟩, -⟩, -⟩ := h
  have hpublic : key.publicExponent ≤ key.modulus := by
    rw [publicKey, PublicKey.shapeFault?] at hshape
    split_ifs at hshape with _ hmodulus
    exact (not_le.mp fun hle => hmodulus (.inl hle)).le
  have hfactor1 : key.prime1 ≤ key.modulus := by
    rw [← hproduct]
    exact Nat.le_mul_of_pos_right _ (by omega)
  have hfactor2 : key.prime2 ≤ key.modulus := by
    rw [← hproduct]
    exact Nat.le_mul_of_pos_left _ (by omega)
  have hbound : max key.modulus key.privateExponent < 2 ^ bits := max_lt hmodulus hprivate
  have hwidth (number : Nat) (hnumber : number ∈ key.numbers) :
      Bytes.width number ≤ bits / 8 + 1 := by
    have hmax := le_max_left key.modulus key.privateExponent
    have hle := number_le_of_mem (by omega) hmax (hpublic.trans hmax) (le_max_right _ _)
      (hfactor1.trans hmax) (hfactor2.trans hmax) hnumber
    exact Bytes.width_le_of_lt (lt_of_le_of_lt hle hbound)
  have hlimit : Der.maxLength = 268435455 := rfl
  exact (length_toDer_le hwidth (by omega)).trans (by omega)

theorem isConsistent_of_ofDer? {bytes : Bytes} (h : ofDer? bytes = some key) :
    key.isConsistent = true := by
  simp only [ofDer?, Option.bind_eq_bind, Option.bind_eq_some_iff] at h
  rcases h with ⟨octets, -, ⟨contents, rest⟩, -, h⟩
  split at h
  · rcases Option.bind_eq_some_iff.mp h with ⟨_, hnone, -⟩
    cases hnone
  · rcases Option.bind_eq_some_iff.mp h with ⟨numbers, -, h⟩
    split at h
    · split at h
      · next hkey =>
        cases h
        exact hkey
      · cases h
    · cases h

end Rsa.PrivateKey

/-- What an entry has of a private key: its public half, its size, the time at which it was made, and
the signatures that take no salt. -/
structure KeyEntry.Represents (entry : KeyEntry) (key : Rsa.PrivateKey) (createdAt : Instant) :
    Prop where
  publicKey : entry.publicKey = key.publicKey
  reportedBits : entry.reportedBits = min (key.publicKey.bits : Int) KeyEntry.maxReportedBits
  createdAt : entry.createdAt = createdAt
  sign {algorithm : Algorithm} (h : algorithm.padding = .deterministic)
    (salt other message : Bytes) :
    entry.sign algorithm salt message =
      (algorithm.sign key other message).mapError fun fault =>
        .signing (RequestError.signing fault).message

theorem KeyEntry.represents_ofPrivateKey (label : String) (key : Rsa.PrivateKey)
    (createdAt : Instant) (backing : Backing) :
    (ofPrivateKey label key createdAt backing).Represents key createdAt where
  publicKey := rfl
  reportedBits := rfl
  createdAt := rfl
  sign h salt other message := by
    dsimp only [ofPrivateKey]
    rw [Algorithm.sign_of_deterministic h key salt other]

namespace StoredKey

variable {key : Rsa.PrivateKey} {createdAt : Instant} {bytes : Bytes} {label : String}

/-! ## Reading -/

/-- What a store makes of the octets in the place of a record. -/
def readEntry (bytes : Bytes) (label : String) : Except StoreError KeyEntry := do
  (← ofJson bytes).toEntry label

/-- How a reason begins why octets are no record: by the outermost layer that is malformed. -/
def malformedLayers : List String :=
  ["Malformed key record: ", "Base64 decode error: ", "PKCS#8 decode error"]

/-- Why something is not read: it is unrecoverable, since one of the layers is malformed. -/
def IsMalformed (error : StoreError) : Prop :=
  ∃ layer ∈ malformedLayers, ∃ detail, error = .unrecoverable (layer ++ detail)

theorem isMalformed_of_ofJson {error : StoreError} (h : ofJson bytes = .error error) :
    IsMalformed error := by
  rcases Outcome.mapError_eq_error_iff.mp h with ⟨fault, -, rfl⟩
  exact ⟨_, List.mem_cons_self, fault.message, rfl⟩

/-- A key that is taken out of a record is one whose numbers belong together. -/
theorem toKey_cases (stored : StoredKey) :
    (∃ key, key.isConsistent = true ∧ stored.toKey = .ok key) ∨
      ∃ error, IsMalformed error ∧ stored.toKey = .error error := by
  rw [toKey]
  cases hdecoded : Base64.standard.decode stored.sealed with
  | error fault =>
    exact .inr ⟨_, ⟨"Base64 decode error: ", by decide, fault.message, rfl⟩, rfl⟩
  | ok bytes =>
    dsimp only
    cases hkey : Rsa.PrivateKey.ofDer? bytes with
    | none => exact .inr ⟨_, ⟨"PKCS#8 decode error", by decide, "", by rw [String.append_empty]⟩, rfl⟩
    | some key => exact .inl ⟨key, Rsa.PrivateKey.isConsistent_of_ofDer? hkey, rfl⟩

/-- Octets are read as the entry of a key whose numbers belong together, or they are
unrecoverable. -/
theorem readEntry_cases (bytes : Bytes) (label : String) :
    (∃ key createdAt, key.isConsistent = true ∧
      readEntry bytes label = .ok (KeyEntry.ofPrivateKey label key createdAt .software)) ∨
      ∃ error, IsMalformed error ∧ readEntry bytes label = .error error := by
  rw [readEntry]
  cases hread : ofJson bytes with
  | error error => exact .inr ⟨error, isMalformed_of_ofJson hread, rfl⟩
  | ok stored =>
    rw [Outcome.ok_bind, toEntry]
    rcases stored.toKey_cases with ⟨key, hkey, htaken⟩ | ⟨error, herror, htaken⟩
    · exact .inl ⟨key, stored.createdAt, hkey, by rw [htaken]; rfl⟩
    · exact .inr ⟨error, herror, by rw [htaken]; rfl⟩

/-! ## Writing and reading back -/

/-- A key is kept unless its encoding is too long. -/
theorem ofKey_cases (key : Rsa.PrivateKey) (createdAt : Instant) :
    (Der.maxLength < key.toDer.length ∧ ∃ reason, ofKey key createdAt = .error (.backend reason)) ∨
      ∃ stored, ofKey key createdAt = .ok stored := by
  rw [ofKey]
  split
  · next hlong => exact .inl ⟨hlong, _, rfl⟩
  · exact .inr ⟨_, rfl⟩

/-- The record of a private key, made at any time of the calendar, is read back as that key and that
time, unless the key is so long that there is no record; and whatever stands in the place of a record
is read as an entry, or it is unrecoverable. -/
theorem record_roundTrip :
    (∀ key createdAt, key.isConsistent = true → createdAt.IsValid →
      (Der.maxLength < key.toDer.length ∧
        2 ^ 27 < Rsa.bitLength (max key.modulus key.privateExponent) ∧
        ∃ reason, ofKey key createdAt = .error (.backend reason)) ∨
      ∃ stored, ofKey key createdAt = .ok stored ∧
        ∃ back, ofJson (Utf8.encode stored.toJson) = .ok back ∧
          back.createdAt = createdAt ∧ back.toKey = .ok key ∧
          ∀ label, ∃ entry, back.toEntry label = .ok entry ∧ entry.label = label ∧
            entry.Represents key createdAt) ∧
    ∀ bytes label,
      (∃ key createdAt, key.isConsistent = true ∧
        readEntry bytes label = .ok (KeyEntry.ofPrivateKey label key createdAt .software)) ∨
        ∃ layer ∈ malformedLayers, ∃ detail,
          readEntry bytes label = .error (.unrecoverable (layer ++ detail)) := by
  constructor
  · intro key createdAt hkey htime
    rcases ofKey_cases key createdAt with ⟨hlong, hrefused⟩ | ⟨stored, hstored⟩
    · refine .inl ⟨hlong, ?_, hrefused⟩
      let size := Rsa.bitLength (max key.modulus key.privateExponent)
      have hbound : max key.modulus key.privateExponent < 2 ^ size := Rsa.lt_two_pow_bitLength _
      rw [max_lt_iff] at hbound
      by_contra hsize
      have hshort := Rsa.PrivateKey.length_toDer_of_isConsistent hkey hbound.1 hbound.2
        (not_lt.mp hsize)
      exact absurd hlong (not_lt.mpr hshort)
    · refine .inr ⟨stored, hstored, ?_⟩
      rcases toKey_of_ofKey hkey hstored with ⟨hcreated, hback⟩
      have hread : ofJson (Utf8.encode stored.toJson) = .ok stored :=
        ofJson_toJson (by rw [hcreated]; exact htime)
      refine ⟨stored, hread, hcreated, hback, fun label => ?_⟩
      refine ⟨KeyEntry.ofPrivateKey label key createdAt .software, ?_, rfl,
        KeyEntry.represents_ofPrivateKey label key createdAt .software⟩
      rw [toEntry, hback, hcreated]
      rfl
  · intro bytes label
    rcases readEntry_cases bytes label with hread | ⟨error, ⟨layer, hlayer, detail, rfl⟩, hread⟩
    · exact .inl hread
    · exact .inr ⟨layer, hlayer, detail, hread⟩

/-- The last instant of a leap second, and a key of two Mersenne primes. -/
theorem sample_record_roundTrip :
    let createdAt : Instant := ⟨59, 1999999999⟩
    ∃ stored back entry, ofKey Rsa.samplePair createdAt = .ok stored ∧
      ofJson (Utf8.encode stored.toJson) = .ok back ∧ back.createdAt = createdAt ∧
      back.toKey = .ok Rsa.samplePair ∧ back.toEntry "device-pop" = .ok entry ∧
      entry.Represents Rsa.samplePair createdAt := by
  intro createdAt
  have hkey : Rsa.samplePair.isConsistent = true :=
    Rsa.PrivateKey.isConsistent_of_isPair Rsa.samplePair_isPair (by decide +kernel)
  have htime : createdAt.IsValid := Instant.isValid_iff.mpr ⟨.inr ⟨by decide, rfl⟩, by decide⟩
  rcases record_roundTrip.1 Rsa.samplePair createdAt hkey htime with ⟨-, hsize, -⟩ | hstored
  · exact absurd hsize (by decide +kernel)
  · rcases hstored with ⟨stored, hstored, back, hread, hcreated, hback, hentry⟩
    rcases hentry "device-pop" with ⟨entry, hmade, -, hrepresents⟩
    exact ⟨stored, back, entry, hstored, hread, hcreated, hback, hmade, hrepresents⟩

end StoredKey

end Possession

import Possession.Proofs.Algorithm
import Possession.Proofs.Rsa.KeyPair
import Possession.Proofs.Rsa.Padding

/-!
# Signing with every algorithm

An algorithm is a padding and a hash function, and each of signing, checking and the size that a
modulus needs takes them apart for itself. For a key pair, the algorithm signs exactly when there is
a padded form, whatever the message, and what it signs it verifies. Nothing that is signed with one
deterministic algorithm is verified with another, because a padded form names its hash function.

* `Algorithm.encode?` is the padded form that signing makes.
* `Algorithm.Fits` is the size that the modulus needs for one.
* `Algorithm.sound_of_isPair` puts the schemes together.
-/

namespace Possession
namespace Algorithm

variable {algorithm other : Algorithm} {key : Rsa.PrivateKey} {publicKey : Rsa.PublicKey}
  {salt message text signature padded : Bytes}

/-- What is raised in place of a message. -/
def encode? (algorithm : Algorithm) (key : Rsa.PublicKey) (salt message : Bytes) : Option Bytes :=
  match algorithm.padding with
  | .deterministic => Rsa.Deterministic.encode? algorithm.digest key.size message
  | .salted => Rsa.Salted.encode? algorithm.digest (key.bits - 1) salt message

/-- Whether a modulus is long enough for an algorithm: for the hash value with its name and eleven
octets of the deterministic padding, or for the hash value, a salt of the same length and two octets
of the salted one, which has to do with a bit less. -/
def Fits (algorithm : Algorithm) (key : Rsa.PublicKey) : Prop :=
  match algorithm.padding with
  | .deterministic => algorithm.digest.size + 30 ≤ key.size
  | .salted => 2 * algorithm.digest.size + 2 ≤ Rsa.Salted.octets (key.bits - 1)

theorem sign_eq_ok_iff : algorithm.sign key salt message = .ok signature ↔
    ∃ padded value, algorithm.encode? key.publicKey salt message = some padded ∧
      key.raise (Bytes.toNat padded) = .ok value ∧
      signature = Bytes.ofNatPadded key.publicKey.size value := by
  have hraised (padded : Bytes) : (do
      let value ← key.raise (Bytes.toNat padded)
      return Bytes.ofNatPadded key.publicKey.size value : Except Rsa.Fault Bytes) = .ok signature ↔
      ∃ value, key.raise (Bytes.toNat padded) = .ok value ∧
        signature = Bytes.ofNatPadded key.publicKey.size value := by
    simp only [Outcome.bind_eq_ok_iff, Outcome.pure_eq, Except.ok.injEq, eq_comm (b := signature)]
  rcases algorithm with ⟨padding, digest⟩
  cases padding with
  | deterministic =>
    rw [sign, encode?]
    dsimp only
    rw [Rsa.Deterministic.sign]
    cases Rsa.Deterministic.encode? digest key.publicKey.size message with
    | none => simp
    | some padded => simpa using hraised padded
  | salted =>
    rw [sign, encode?]
    dsimp only
    rw [Rsa.Salted.sign]
    cases Rsa.Salted.encode? digest (key.publicKey.bits - 1) salt message with
    | none => simp
    | some padded => simpa using hraised padded

/-- Whether there is a padded form does not depend on the message. -/
theorem exists_encode?_iff
    (hsalt : algorithm.padding = .salted → salt.length = algorithm.saltSize) :
    (∃ padded, algorithm.encode? publicKey salt message = some padded) ↔
      algorithm.Fits publicKey := by
  rcases algorithm with ⟨padding, digest⟩
  cases padding with
  | deterministic =>
    rw [encode?, Fits]
    simp [Rsa.Deterministic.encode?_eq_some_iff]
  | salted =>
    have hlength : salt.length = digest.size := hsalt rfl
    have htwice : digest.size + salt.length + 2 = 2 * digest.size + 2 := by omega
    rw [encode?, Fits, ← htwice]
    exact Rsa.Salted.exists_encode?_iff

theorem toNat_lt_modulus (hmodulus : 0 < publicKey.modulus)
    (h : algorithm.encode? publicKey salt message = some padded) :
    Bytes.toNat padded < publicKey.modulus := by
  rcases algorithm with ⟨padding, digest⟩
  cases padding with
  | deterministic => exact Rsa.Deterministic.toNat_lt_modulus hmodulus h
  | salted =>
    exact (Rsa.Salted.toNat_lt_two_pow h).trans_le (Rsa.PublicKey.two_pow_le_modulus hmodulus)

/-- A modulus that is long enough is not zero. -/
theorem Fits.modulus_pos (h : algorithm.Fits publicKey) : 0 < publicKey.modulus := by
  rw [Nat.pos_iff_ne_zero]
  intro hzero
  have hbits : publicKey.bits = 0 := by rw [Rsa.PublicKey.bits, hzero, Rsa.bitLength, if_pos rfl]
  rcases algorithm with ⟨padding, digest⟩
  cases padding with
  | deterministic =>
    rw [Fits, Rsa.PublicKey.size, hbits] at h
    omega
  | salted =>
    rw [Fits, hbits, Rsa.Salted.octets] at h
    omega

theorem fits_of_sign (hsalt : algorithm.padding = .salted → salt.length = algorithm.saltSize)
    (h : algorithm.sign key salt message = .ok signature) : algorithm.Fits key.publicKey := by
  rcases sign_eq_ok_iff.mp h with ⟨padded, value, hpadded, -, -⟩
  exact (exists_encode?_iff hsalt).mp ⟨padded, hpadded⟩

/-- A key pair signs every message with every algorithm for which its modulus is long enough. -/
theorem exists_sign_iff (hpair : key.IsPair)
    (hsalt : algorithm.padding = .salted → salt.length = algorithm.saltSize) :
    (∃ signature, algorithm.sign key salt message = .ok signature) ↔
      algorithm.Fits key.publicKey := by
  constructor
  · rintro ⟨signature, hsign⟩
    exact fits_of_sign hsalt hsign
  · intro hfits
    obtain ⟨padded, hpadded⟩ : ∃ padded, algorithm.encode? key.publicKey salt message =
      some padded := (exists_encode?_iff hsalt).mpr hfits
    have hlt := toNat_lt_modulus hfits.modulus_pos hpadded
    rcases hpair.exists_raise hlt with ⟨value, hvalue⟩
    exact ⟨_, sign_eq_ok_iff.mpr ⟨padded, value, hpadded, hvalue, rfl⟩⟩

/-- What is signed with one deterministic algorithm is not verified with another, whatever the
message. -/
theorem verify_of_ne (hpadding : algorithm.padding = .deterministic)
    (hother : other.padding = .deterministic) (hne : algorithm ≠ other) (hmodulus : 0 < key.modulus)
    (h : algorithm.sign key salt message = .ok signature) (text : Bytes) :
    other.verify key.publicKey text signature = false := by
  rcases algorithm with ⟨_, digest⟩
  rcases other with ⟨_, digest'⟩
  cases hpadding
  cases hother
  have hdigests : digest ≠ digest' := by
    rintro rfl
    exact hne rfl
  rcases sign_eq_ok_iff.mp h with ⟨padded, value, hpadded, hvalue, rfl⟩
  -- The key raises the signature back to the padded form, which is not one of the other algorithm.
  have hback : key.publicKey.raise value = Bytes.toNat padded :=
    (key.raise_eq_ok hmodulus hvalue).2
  have hform : Bytes.ofNatPadded key.publicKey.size (Bytes.toNat padded) = padded := by
    rw [← Rsa.Deterministic.length_encode? hpadded]
    exact Bytes.ofNatPadded_toNat padded
  have hunlike : Rsa.Deterministic.encode? digest' key.publicKey.size text ≠ some padded :=
    Rsa.Deterministic.encode?_ne hdigests hpadded
  simp only [verify, Rsa.Deterministic.verify, key.toNat_signature hmodulus hvalue, hback, hform,
    beq_eq_false_iff_ne.mpr hunlike, Bool.and_false]

theorem size_samplePair : Rsa.samplePair.publicKey.size = 141 := by
  decide +kernel

/-- The modulus of the sample is long enough for every algorithm. -/
theorem fits_samplePair (algorithm : Algorithm) : algorithm.Fits Rsa.samplePair.publicKey := by
  rcases algorithm with ⟨padding, digest⟩
  cases padding with
  | deterministic =>
    rw [Fits, size_samplePair]
    cases digest <;> decide
  | salted =>
    have hoctets : Rsa.Salted.octets (Rsa.samplePair.publicKey.bits - 1) = 141 := by
      decide +kernel
    rw [Fits, hoctets]
    cases digest <;> decide

/-- A key pair signs with an algorithm, with whatever salt of the length that the algorithm takes,
exactly when its modulus is long enough. The signature then has the size of the modulus and verifies
under the public half, and no other deterministic algorithm verifies a deterministic signature, for
whatever message. -/
theorem sound_of_isPair (algorithm : Algorithm) {key : Rsa.PrivateKey} (hpair : key.IsPair)
    (salt message : Bytes)
    (hsalt : algorithm.padding = .salted → salt.length = algorithm.saltSize) :
    ((∃ signature, algorithm.sign key salt message = .ok signature) ↔
      algorithm.Fits key.publicKey) ∧
    ∀ signature, algorithm.sign key salt message = .ok signature →
      signature.length = key.publicKey.size ∧
      algorithm.verify key.publicKey message signature = true ∧
      ∀ other : Algorithm, algorithm.padding = .deterministic → other.padding = .deterministic →
        algorithm ≠ other → ∀ text, other.verify key.publicKey text signature = false := by
  refine ⟨exists_sign_iff hpair hsalt, fun signature hsign => ?_⟩
  rcases verify_sign hpair.modulus_pos hsalt hsign with ⟨hsize, hverify⟩
  refine ⟨hsize, hverify, fun other hpadding hother hne text => ?_⟩
  exact verify_of_ne hpadding hother hne hpair.modulus_pos hsign text

theorem sample_sound_of_isPair : Rsa.samplePair.IsPair ∧ ∀ algorithm ∈ all,
    ∃ signature, algorithm.sign Rsa.samplePair (List.replicate algorithm.saltSize 7) [1, 2, 3] =
        .ok signature ∧ signature.length = 141 ∧
      algorithm.verify Rsa.samplePair.publicKey [1, 2, 3] signature = true := by
  refine ⟨Rsa.samplePair_isPair, fun algorithm _ => ?_⟩
  have hsalt : algorithm.padding = .salted →
      (List.replicate algorithm.saltSize (7 : UInt8)).length = algorithm.saltSize :=
    fun _ => List.length_replicate
  have hsound := sound_of_isPair algorithm Rsa.samplePair_isPair
    (List.replicate algorithm.saltSize 7) [1, 2, 3] hsalt
  rcases hsound.1.mpr (fits_samplePair algorithm) with ⟨signature, hsign⟩
  rcases hsound.2 signature hsign with ⟨hlength, hverify, -⟩
  exact ⟨signature, hsign, hlength.trans size_samplePair, hverify⟩

end Algorithm
end Possession

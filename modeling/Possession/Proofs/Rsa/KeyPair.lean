import Mathlib.FieldTheory.Finite.Basic
import Mathlib.NumberTheory.LucasLehmer
import Possession.Proofs.Rsa.Signature

/-!
# Key pairs

A private key answers only what its public half turns back, and refuses everything else. That it
refuses nothing under its modulus is the arithmetic of RSA: the two exponents undo each other modulo
either prime, whatever is raised, so they do modulo the product.

* `PrivateKey.IsPair` says that the numbers of a key belong together.
* `PrivateKey.IsPair.exists_raise` is that every number under the modulus is raised.
-/

namespace Possession
namespace Rsa

/-- Raising to an exponent that is one modulo a prime less one changes nothing modulo the prime, not
even for what the prime divides. -/
theorem pow_modEq_self {prime exponent : Nat} (hprime : prime.Prime) (hpositive : 0 < exponent)
    (h : exponent ≡ 1 [MOD prime - 1]) (value : Nat) : value ^ exponent ≡ value [MOD prime] := by
  rcases (Nat.modEq_iff_dvd' hpositive).mp h.symm with ⟨count, hcount⟩
  have hexponent : exponent = (prime - 1) * count + 1 := by omega
  by_cases hdvd : prime ∣ value
  · have hzero : value ≡ 0 [MOD prime] := Nat.modEq_zero_iff_dvd.mpr hdvd
    calc
      value ^ exponent ≡ 0 ^ exponent [MOD prime] := hzero.pow exponent
      _ = 0 := zero_pow hpositive.ne'
      _ ≡ value [MOD prime] := hzero.symm
  · have hcoprime : value.Coprime prime := ((hprime.coprime_iff_not_dvd).mpr hdvd).symm
    have hfermat : value ^ (prime - 1) ≡ 1 [MOD prime] := by
      rw [← Nat.totient_prime hprime]
      exact Nat.ModEq.pow_totient hcoprime
    calc
      value ^ exponent = (value ^ (prime - 1)) ^ count * value := by
        rw [hexponent, pow_succ, pow_mul]
      _ ≡ 1 ^ count * value [MOD prime] := (hfermat.pow count).mul_right value
      _ = value := by rw [one_pow, one_mul]

/-- Two primes, their product, and two exponents that undo each other modulo either prime less
one. -/
structure PrivateKey.IsPair (key : PrivateKey) : Prop where
  prime1 : key.prime1.Prime
  prime2 : key.prime2.Prime
  distinct : key.prime1 ≠ key.prime2
  modulus : key.modulus = key.prime1 * key.prime2
  odd : key.modulus % 2 = 1
  inverse1 : key.publicExponent * key.privateExponent ≡ 1 [MOD key.prime1 - 1]
  inverse2 : key.publicExponent * key.privateExponent ≡ 1 [MOD key.prime2 - 1]

namespace PrivateKey.IsPair

variable {key : PrivateKey}

theorem modulus_pos (h : key.IsPair) : 0 < key.modulus := by
  have hodd := h.odd
  omega

/-- The exponents are not zero, since one of the primes is not two. -/
theorem exponents_pos (h : key.IsPair) : 0 < key.publicExponent * key.privateExponent := by
  have hprime : key.prime1 ≠ 2 := by
    intro htwo
    have hodd := h.odd
    rw [h.modulus, htwo] at hodd
    omega
  have htwo := h.prime1.two_le
  have hinverse := h.inverse1
  rw [Nat.pos_iff_ne_zero]
  intro hzero
  rw [hzero, Nat.ModEq, Nat.zero_mod, Nat.mod_eq_of_lt (by omega)] at hinverse
  cases hinverse

theorem pow_modEq (h : key.IsPair) (value : Nat) :
    value ^ (key.publicExponent * key.privateExponent) ≡ value [MOD key.modulus] := by
  have hcoprime := (Nat.coprime_primes h.prime1 h.prime2).mpr h.distinct
  rw [h.modulus]
  exact (Nat.modEq_and_modEq_iff_modEq_mul hcoprime).mp
    ⟨pow_modEq_self h.prime1 h.exponents_pos h.inverse1 value,
      pow_modEq_self h.prime2 h.exponents_pos h.inverse2 value⟩

/-- A key pair answers for every number under its modulus. -/
theorem exists_raise (h : key.IsPair) {value : Nat} (hlt : value < key.modulus) :
    ∃ result, key.raise value = .ok result := by
  have hback : key.publicKey.raise (powMod value key.privateExponent key.modulus) = value := by
    rw [PublicKey.raise, publicKey, powMod_eq, powMod_eq]
    calc
      (value ^ key.privateExponent % key.modulus) ^ key.publicExponent % key.modulus
          = value ^ (key.publicExponent * key.privateExponent) % key.modulus := by
        rw [← Nat.pow_mod, ← pow_mul, Nat.mul_comm]
      _ = value % key.modulus := h.pow_modEq value
      _ = value := Nat.mod_eq_of_lt hlt
  refine ⟨powMod value key.privateExponent key.modulus, ?_⟩
  rw [raise, if_pos hback]

end PrivateKey.IsPair

/-! ## A sample -/

/-- The key of two Mersenne primes. -/
def samplePair : PrivateKey where
  modulus := mersenne 521 * mersenne 607
  publicExponent := 65537
  privateExponent := (1 + 10880 * ((mersenne 521 - 1) * (mersenne 607 - 1))) / 65537
  prime1 := mersenne 521
  prime2 := mersenne 607

theorem samplePair_isPair : samplePair.IsPair where
  prime1 := lucas_lehmer_sufficiency 521 (by norm_num) (by norm_num)
  prime2 := lucas_lehmer_sufficiency 607 (by norm_num) (by norm_num)
  distinct := by decide +kernel
  modulus := by decide +kernel
  odd := by decide +kernel
  inverse1 := by decide +kernel
  inverse2 := by decide +kernel

end Rsa
end Possession

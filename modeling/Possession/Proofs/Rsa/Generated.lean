import Mathlib.Data.Int.ModEq
import Mathlib.Tactic.Ring
import Possession.Der.KeyInfo
import Possession.Rsa.Generation

/-!
# Generated keys

The numbers of a generated key belong together: its modulus is the product of its primes, and its
exponents are inverse to each other.

* `euclid_modEq` is the invariant of Euclid's algorithm.
* `isConsistent_of_generate` follows a key through its generation.
-/

namespace Possession
namespace Rsa

/-! ## Inverses -/

/-- Each remainder of Euclid's algorithm stays congruent to its multiple of the number. -/
theorem euclid_modEq {modulus value : Int} {remainder next : Nat} {multiple nextMultiple : Int}
    (h : remainder ≡ multiple * value [ZMOD modulus])
    (hnext : next ≡ nextMultiple * value [ZMOD modulus]) :
    (euclid remainder next multiple nextMultiple).1 ≡
      (euclid remainder next multiple nextMultiple).2 * value [ZMOD modulus] := by
  induction remainder, next, multiple, nextMultiple using euclid.induct with
  | case1 remainder multiple nextMultiple =>
    rw [euclid, if_pos rfl]
    exact h
  | case2 remainder next multiple nextMultiple hne ih =>
    rw [euclid, if_neg hne]
    refine ih hnext ?_
    have hmod : ((remainder % next : Nat) : Int) =
        remainder - (remainder / next : Nat) * next := by
      push_cast
      rw [Int.emod_def]
      ring
    calc
      ((remainder % next : Nat) : Int)
          = remainder - (remainder / next : Nat) * next := hmod
      _ ≡ multiple * value - (remainder / next : Nat) * (nextMultiple * value)
          [ZMOD modulus] := h.sub (hnext.mul_left _)
      _ = (multiple - Int.ofNat (remainder / next) * nextMultiple) * value := by
        rw [Int.ofNat_eq_natCast]
        ring

theorem modEq_of_inverse? {value modulus inverse : Nat} (hmodulus : modulus ≠ 0)
    (h : inverse? value modulus = some inverse) : value * inverse ≡ 1 [MOD modulus] := by
  have hstart : (modulus : Int) ≡ 0 * value [ZMOD modulus] := by
    rw [zero_mul]
    exact Int.modEq_zero_iff_dvd.mpr dvd_rfl
  have hvalue : ((value % modulus : Nat) : Int) ≡ 1 * value [ZMOD modulus] := by
    rw [one_mul, Int.natCast_mod]
    exact Int.mod_modEq _ _
  have hresult := euclid_modEq hstart hvalue
  rw [inverse?] at h
  rcases heuclid : euclid modulus (value % modulus) 0 1 with ⟨divisor, multiple⟩
  rw [heuclid] at h hresult
  dsimp only at h hresult
  split at h
  · next hone =>
    cases h
    subst hone
    have hnonneg : 0 ≤ multiple % (modulus : Int) :=
      Int.emod_nonneg _ (Int.natCast_ne_zero.mpr hmodulus)
    rw [← Int.natCast_modEq_iff, Int.ofNat_eq_natCast, Nat.cast_mul, Int.toNat_of_nonneg hnonneg]
    calc
      (value : Int) * (multiple % modulus)
          ≡ value * multiple [ZMOD modulus] := (Int.mod_modEq _ _).mul_left _
      _ = multiple * value := by ring
      _ ≡ 1 [ZMOD modulus] := hresult.symm
  · cases h

/-! ## Primes -/

theorem le_of_nextPrime? {count start prime : Nat} (h : nextPrime? count start = some prime) :
    start ≤ prime := by
  induction count generalizing start with
  | zero => cases h
  | succ count ih =>
    rw [nextPrime?] at h
    split at h
    · cases h
      exact Nat.le_refl _
    · have hrest := ih h
      omega

theorem lt_of_drawPrime? {bits fuel prime : Nat} {source next : Entropy}
    (h : drawPrime? bits fuel source = some (prime, next)) : 3 < prime := by
  induction fuel generalizing source with
  | zero => cases h
  | succ fuel ih =>
    simp only [drawPrime?] at h
    split at h
    · next found hfound =>
      split at h
      · cases h
        have hle := le_of_nextPrime? hfound
        have hpow : 0 < Nat.pow 2 (bits - 2) := Nat.pow_pos (by omega)
        omega
      · exact ih h
    · exact ih h

/-! ## Keys -/

/-- A key is made of two primes, each of which has predecessors other than one, and has the size
that was asked for. -/
theorem exists_primes_of_drawKey? {bits fuel : Nat} {source next : Entropy} {key : PrivateKey}
    (h : drawKey? bits fuel source = some (key, next)) :
    ∃ prime1 prime2, 3 < prime1 ∧ 3 < prime2 ∧
      PrivateKey.ofPrimes? prime1 prime2 generatedExponent = some key ∧
        key.publicKey.bits = bits := by
  induction fuel generalizing source with
  | zero => cases h
  | succ fuel ih =>
    simp only [drawKey?, Option.bind_eq_bind, Option.bind_eq_some_iff] at h
    rcases h with ⟨⟨prime1, source1⟩, hprime1, ⟨prime2, source2⟩, hprime2, h⟩
    split at h
    · next found hfound =>
      split at h
      · next hfits =>
        cases h
        exact ⟨prime1, prime2, lt_of_drawPrime? hprime1, lt_of_drawPrime? hprime2, hfound, hfits.2⟩
      · exact ih h
    · exact ih h

/-- A generated key is such a key, and nothing is wrong with its public half. -/
theorem exists_primes_of_generate {bits : Nat} {source next : Entropy} {key : PrivateKey}
    (h : generate bits source = .ok (key, next)) :
    (∃ prime1 prime2, 3 < prime1 ∧ 3 < prime2 ∧
      PrivateKey.ofPrimes? prime1 prime2 generatedExponent = some key ∧
        key.publicKey.bits = bits) ∧ key.publicKey.shapeFault? = none := by
  rw [generate] at h
  split at h
  · cases h
  · split at h
    · cases h
    · next found after hdraw =>
      split at h
      · cases h
      · next hshape =>
        cases h
        exact ⟨exists_primes_of_drawKey? hdraw, hshape⟩

/-- The numbers of two primes and a pair of inverse exponents belong together. -/
theorem isConsistent_of_ofPrimes? {prime1 prime2 exponent : Nat} {key : PrivateKey}
    (hprime1 : 3 < prime1) (hprime2 : 3 < prime2)
    (h : PrivateKey.ofPrimes? prime1 prime2 exponent = some key)
    (hshape : key.publicKey.shapeFault? = none) : key.isConsistent = true := by
  rw [PrivateKey.ofPrimes?, Option.map_eq_some_iff] at h
  rcases h with ⟨inverse, hinverse, rfl⟩
  have htotient : 3 * 3 ≤ (prime1 - 1) * (prime2 - 1) := Nat.mul_le_mul (by omega) (by omega)
  have hmod := modEq_of_inverse? (by omega) hinverse
  have hpositive : 1 ≤ exponent * inverse := by
    rw [Nat.one_le_iff_ne_zero]
    intro hzero
    rw [hzero, Nat.ModEq, Nat.zero_mod, Nat.mod_eq_of_lt (by omega)] at hmod
    exact absurd hmod (by decide)
  -- what the totient divides, both of its factors divide
  have hdvd : (prime1 - 1) * (prime2 - 1) ∣ exponent * inverse - 1 :=
    (Nat.modEq_iff_dvd' hpositive).mp hmod.symm
  have hfactor1 : (exponent * inverse - 1) % (prime1 - 1) = 0 :=
    Nat.mod_eq_zero_of_dvd (dvd_of_mul_right_dvd hdvd)
  have hfactor2 : (exponent * inverse - 1) % (prime2 - 1) = 0 :=
    Nat.mod_eq_zero_of_dvd (dvd_of_mul_left_dvd hdvd)
  have hlarge1 : 1 < prime1 := by omega
  have hlarge2 : 1 < prime2 := by omega
  have hproduct : 0 < exponent * inverse := hpositive
  simp only [PrivateKey.isConsistent, hshape, hlarge1, hlarge2, hproduct, hfactor1, hfactor2,
    Option.isNone_none, decide_true, beq_self_eq_true, Bool.and_self]

/-- The numbers of a generated key belong together. -/
theorem isConsistent_of_generate {bits : Nat} {source next : Entropy} {key : PrivateKey}
    (h : generate bits source = .ok (key, next)) : key.isConsistent = true := by
  rcases exists_primes_of_generate h with ⟨⟨prime1, prime2, hprime1, hprime2, hkey, -⟩, hshape⟩
  exact isConsistent_of_ofPrimes? hprime1 hprime2 hkey hshape

end Rsa
end Possession

import Possession.Proofs.Der
import Possession.Proofs.Rsa.Generated
import Possession.Proofs.Rsa.Signature

/-!
# The size of encoded keys

The encoding in which generated keys are kept is about nine times as long as the modulus, so it is
as short as the encoding must be for all keys of a size that anybody would ask for.
-/

namespace Possession

namespace Bytes

theorem width_le_of_lt {value bits : Nat} (h : value < 2 ^ bits) : width value ≤ bits / 8 + 1 := by
  by_cases hzero : value = 0
  · simp [width, hzero]
  · have hlog : value.log2 < bits := (Nat.log2_lt hzero).mpr h
    rw [width, if_neg hzero]
    omega

end Bytes

namespace Der

variable {tag : UInt8} {contents : Bytes} {values : List Nat} {length width : Nat}

theorem length_writeLength_le (h : length ≤ maxLength) : (writeLength length).length ≤ 5 := by
  rw [writeLength]
  split
  · exact Nat.le_add_left 1 4
  · rw [List.length_cons, Bytes.ofNat, Bytes.length_ofNatPadded]
    have hwidth := width_le_of_le_maxLength h
    omega

theorem length_write_le (h : contents.length ≤ maxLength) :
    (write tag contents).length ≤ contents.length + 6 := by
  have hlength := length_writeLength_le h
  rw [write, List.length_append, List.length_cons]
  omega

theorem length_naturalContents_le (value : Nat) :
    (naturalContents value).length ≤ Bytes.width value + 1 := by
  have hlength : (Bytes.ofNat value).length = Bytes.width value := Bytes.length_ofNatPadded _ _
  rw [naturalContents]
  cases hdigits : Bytes.ofNat value with
  | nil => exact Nat.le_add_left 1 _
  | cons first rest =>
    rw [hdigits] at hlength
    dsimp only
    split
    · omega
    · rw [List.length_cons, hlength]

theorem length_naturals_le (h : ∀ value ∈ values, Bytes.width value ≤ width)
    (hwidth : width + 1 ≤ maxLength) :
    (values.map natural).flatten.length ≤ values.length * (width + 7) := by
  induction values with
  | nil => exact Nat.zero_le _
  | cons value values ih =>
    have hrest := ih fun other hother => h other (List.mem_cons_of_mem _ hother)
    have hvalue := h value List.mem_cons_self
    have hcontents := length_naturalContents_le value
    have hwritten : (natural value).length ≤ (naturalContents value).length + 6 :=
      length_write_le (by omega)
    rw [List.map_cons, List.flatten_cons, List.length_append, List.length_cons, Nat.succ_mul]
    omega

end Der

namespace Rsa

theorem inverse?_lt {value modulus inverse : Nat} (hmodulus : modulus ≠ 0)
    (h : inverse? value modulus = some inverse) : inverse < modulus := by
  have hpositive : (0 : Int) < Int.ofNat modulus :=
    Int.natCast_pos.mpr (Nat.pos_of_ne_zero hmodulus)
  simp only [inverse?] at h
  split at h
  · cases h
    rw [Int.toNat_lt (Int.emod_nonneg _ hpositive.ne')]
    exact Int.emod_lt_of_pos _ hpositive
  · cases h

/-- What is written of a key is not larger than what it is made of. -/
theorem PrivateKey.number_le_of_mem {key : PrivateKey} {bound : Nat} (hprime : key.prime1 ≠ 0)
    (hmodulus : key.modulus ≤ bound) (hpublic : key.publicExponent ≤ bound)
    (hprivate : key.privateExponent ≤ bound) (hprime1 : key.prime1 ≤ bound)
    (hprime2 : key.prime2 ≤ bound) {number : Nat} (hnumber : number ∈ key.numbers) :
    number ≤ bound := by
  have hreduced (prime : Nat) : key.privateExponent % (prime - 1) ≤ bound :=
    (Nat.mod_le _ _).trans hprivate
  have hcoefficient : (inverse? key.prime2 key.prime1).getD 0 ≤ bound := by
    cases hback : inverse? key.prime2 key.prime1 with
    | none => exact Nat.zero_le _
    | some coefficient => exact (inverse?_lt hprime hback).le.trans hprime1
  simp only [numbers, List.mem_cons, List.not_mem_nil, or_false] at hnumber
  rcases hnumber with rfl | rfl | rfl | rfl | rfl | rfl | rfl | rfl | rfl
  · exact Nat.zero_le _
  · exact hmodulus
  · exact hpublic
  · exact hprivate
  · exact hprime1
  · exact hprime2
  · exact hreduced _
  · exact hreduced _
  · exact hcoefficient

/-- The numbers of two primes and a pair of inverse exponents are not larger than the modulus. -/
theorem le_of_mem_numbers {prime1 prime2 exponent : Nat} {key : PrivateKey}
    (hprime1 : 3 < prime1) (hprime2 : 3 < prime2)
    (h : PrivateKey.ofPrimes? prime1 prime2 exponent = some key)
    (hshape : key.publicKey.shapeFault? = none) {number : Nat} (hnumber : number ∈ key.numbers) :
    number ≤ key.modulus := by
  rw [PrivateKey.ofPrimes?, Option.map_eq_some_iff] at h
  rcases h with ⟨inverse, hinverse, rfl⟩
  have hexponent : exponent ≤ prime1 * prime2 := by
    rw [PrivateKey.publicKey, PublicKey.shapeFault?] at hshape
    split_ifs at hshape with _ hmodulus
    exact (not_le.mp fun hle => hmodulus (.inl hle)).le
  have hfactor1 : prime1 ≤ prime1 * prime2 := Nat.le_mul_of_pos_right _ (by omega)
  have hfactor2 : prime2 ≤ prime1 * prime2 := Nat.le_mul_of_pos_left _ (by omega)
  have htotient : (prime1 - 1) * (prime2 - 1) ≤ prime1 * prime2 :=
    Nat.mul_le_mul (Nat.sub_le _ _) (Nat.sub_le _ _)
  have hpositive : 0 < (prime1 - 1) * (prime2 - 1) := Nat.mul_pos (by omega) (by omega)
  have hprivate : inverse < (prime1 - 1) * (prime2 - 1) := inverse?_lt hpositive.ne' hinverse
  exact PrivateKey.number_le_of_mem (by dsimp only; omega) (Nat.le_refl _) hexponent
    (hprivate.le.trans htotient) hfactor1 hfactor2 hnumber

theorem length_toDer_le {key : PrivateKey} {width : Nat}
    (h : ∀ number ∈ key.numbers, Bytes.width number ≤ width)
    (hwidth : 9 * (width + 7) + 30 ≤ Der.maxLength) :
    key.toDer.length ≤ 9 * (width + 7) + 36 := by
  have hnumbers : (key.numbers.map Der.natural).flatten.length ≤ 9 * (width + 7) :=
    Der.length_naturals_le h (by omega)
  have hkey : (Der.sequence (key.numbers.map Der.natural)).length ≤ 9 * (width + 7) + 6 :=
    (Der.length_write_le (by omega)).trans (by omega)
  have hoctets : (Der.write Der.octetStringTag
      (Der.sequence (key.numbers.map Der.natural))).length ≤ 9 * (width + 7) + 12 :=
    (Der.length_write_le (by omega)).trans (by omega)
  have hfront : (Der.natural 0).length + (Der.write Der.sequenceTag Der.rsaAlgorithm).length = 18 :=
    by decide
  have hcontents : [Der.natural 0, Der.write Der.sequenceTag Der.rsaAlgorithm,
      Der.write Der.octetStringTag (Der.sequence (key.numbers.map Der.natural))].flatten.length ≤
        9 * (width + 7) + 30 := by
    simp only [List.flatten_cons, List.flatten_nil, List.length_append, List.length_nil]
    omega
  exact (Der.length_write_le (by omega)).trans (by omega)

/-- A generated key of at most `2 ^ 27` bits is as short as the encoding must be. -/
theorem length_toDer_of_generate {bits : Nat} {source next : Entropy} {key : PrivateKey}
    (h : generate bits source = .ok (key, next)) (hbits : bits ≤ 2 ^ 27) :
    key.toDer.length ≤ Der.maxLength := by
  rcases exists_primes_of_generate h with ⟨⟨prime1, prime2, hprime1, hprime2, hkey, hsize⟩, hshape⟩
  have hmodulus : key.modulus < 2 ^ bits := by
    rw [← hsize]
    exact lt_two_pow_bitLength key.modulus
  have hwidth (number : Nat) (hnumber : number ∈ key.numbers) :
      Bytes.width number ≤ bits / 8 + 1 := by
    have hle := le_of_mem_numbers hprime1 hprime2 hkey hshape hnumber
    exact Bytes.width_le_of_lt (lt_of_le_of_lt hle hmodulus)
  have hmax : Der.maxLength = 268435455 := rfl
  exact (length_toDer_le hwidth (by omega)).trans (by omega)

end Rsa
end Possession

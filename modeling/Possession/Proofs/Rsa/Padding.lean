import Possession.Proofs.Rsa.Signature
import Possession.Proofs.Text.Split

/-!
# Padded forms

Whether there is a padded form depends on its size alone, and every padded form denotes a number
under the modulus for which it is made: the deterministic one begins with an octet of zero, the
salted one has as many bits as are sure to be less. Two deterministic forms of different hash
functions are never the same, since the hash values differ in length and so does the filling.
-/

namespace Possession
namespace Rsa

/-- A modulus has all of its bits but the first to spare. -/
theorem PublicKey.two_pow_le_modulus {key : PublicKey} (h : 0 < key.modulus) :
    2 ^ (key.bits - 1) ≤ key.modulus := by
  rw [bits, bitLength, if_neg h.ne', Nat.add_sub_cancel]
  exact Nat.log2_self_le h.ne'

/-! ## Deterministic padding -/

namespace Deterministic

variable {digest other : Digest} {size : Nat} {message text padded : Bytes}

theorem length_info (digest : Digest) (message : Bytes) :
    (info digest message).length = digest.size + 19 := by
  rw [info, List.length_append, Digest.length_hash, Nat.add_comm]
  cases digest <;> rfl

theorem encode?_eq_some_iff : encode? digest size message = some padded ↔
    digest.size + 30 ≤ size ∧ padded =
      0 :: 1 :: (List.replicate (size - digest.size - 22) 255 ++ 0 :: info digest message) := by
  have hfilling : size - (digest.size + 19) - 3 = size - digest.size - 22 := by omega
  rw [encode?, length_info, hfilling]
  by_cases hfits : digest.size + 30 ≤ size
  · rw [if_neg (by omega)]
    simp [hfits, eq_comm]
  · rw [if_pos (by omega)]
    simp [hfits]

/-- A padded form begins with a zero, so it has an octet less than the modulus. -/
theorem toNat_lt_modulus {key : PublicKey} (hmodulus : 0 < key.modulus)
    (h : encode? digest key.size message = some padded) : Bytes.toNat padded < key.modulus := by
  have hlength := length_encode? h
  obtain ⟨rest, rfl⟩ : ∃ rest, padded = 0 :: rest := ⟨_, (encode?_eq_some_iff.mp h).2⟩
  have hbits : 8 * rest.length ≤ key.bits - 1 := by
    rw [List.length_cons, PublicKey.size] at hlength
    omega
  calc
    Bytes.toNat (0 :: rest) = Bytes.toNat rest := by simp [Bytes.toNat_cons]
    _ < 256 ^ rest.length := Bytes.toNat_lt rest
    _ = 2 ^ (8 * rest.length) := by rw [pow_mul]; norm_num
    _ ≤ 2 ^ (key.bits - 1) := Nat.pow_le_pow_right (by omega) hbits
    _ ≤ key.modulus := PublicKey.two_pow_le_modulus hmodulus

/-- A padded form names its hash function. -/
theorem encode?_ne (hne : digest ≠ other) (h : encode? digest size message = some padded) :
    encode? other size text ≠ some padded := by
  intro hother
  rcases encode?_eq_some_iff.mp h with ⟨hfits, rfl⟩
  rcases encode?_eq_some_iff.mp hother with ⟨hfits', hsame⟩
  have hzero (count : Nat) : (0 : UInt8) ∉ List.replicate count 255 := by
    intro hmem
    cases (List.mem_replicate.mp hmem).2
  -- The filling ends at the first zero, so it would have to be equally long.
  have hfilling := (Text.append_cons_inj (hzero _) (hzero _)
    (List.cons.inj (List.cons.inj hsame).2).2).1
  have hcount := congrArg List.length hfilling
  rw [List.length_replicate, List.length_replicate] at hcount
  have hsize : digest.size = other.size := by omega
  apply hne
  cases digest <;> cases other <;> first | rfl | cases hsize

end Deterministic

/-! ## Salted padding -/

namespace Salted

variable {digest : Digest} {bits : Nat} {salt message padded : Bytes}

theorem exists_encode?_iff : (∃ padded, encode? digest bits salt message = some padded) ↔
    digest.size + salt.length + 2 ≤ octets bits := by
  rw [encode?]
  dsimp only
  split
  · next hshort =>
    refine iff_of_false ?_ (by omega)
    rintro ⟨padded, hencoded⟩
    cases hencoded
  · next hfits => exact iff_of_true ⟨_, rfl⟩ (by omega)

/-- Clearing the leading bits of an octet string leaves a number without them. -/
theorem toNat_clearLeading_append {count : Nat} {bytes : Bytes} (hbytes : bytes ≠ [])
    (hcount : count ≤ 8) (rest : Bytes) :
    Bytes.toNat (clearLeading count bytes ++ rest) <
      2 ^ (8 * (bytes.length + rest.length) - count) := by
  rcases List.exists_cons_of_ne_nil hbytes with ⟨first, more, rfl⟩
  have hlow : first.toNat % 2 ^ (8 - count) < 2 ^ (8 - count) := Nat.mod_lt _ (by positivity)
  have hoctet : first.toNat % 2 ^ (8 - count) < 256 :=
    lt_of_le_of_lt (Nat.mod_le _ _) first.toNat_lt
  have hrest := Bytes.toNat_lt (more ++ rest)
  have hbits : 8 * ((first :: more).length + rest.length) - count =
      (8 - count) + 8 * (more ++ rest).length := by
    rw [List.length_cons, List.length_append]
    omega
  rw [clearLeading, List.cons_append, Bytes.toNat_cons, Nat.pow_eq, Bytes.toNat_octet hoctet, hbits]
  calc
    first.toNat % 2 ^ (8 - count) * 256 ^ (more ++ rest).length + Bytes.toNat (more ++ rest)
        < (first.toNat % 2 ^ (8 - count) + 1) * 256 ^ (more ++ rest).length := by
      rw [Nat.add_mul, Nat.one_mul]
      exact Nat.add_lt_add_left hrest _
    _ ≤ 2 ^ (8 - count) * 256 ^ (more ++ rest).length := Nat.mul_le_mul_right _ hlow
    _ = 2 ^ (8 - count + 8 * (more ++ rest).length) := by
      rw [pow_add, pow_mul]
      norm_num

/-- A padded form has no more bits than it is meant to have. -/
theorem toNat_lt_two_pow (h : encode? digest bits salt message = some padded) :
    Bytes.toNat padded < 2 ^ bits := by
  have hlength := length_encode? h
  rcases encode?_eq_some h with ⟨hfits, rfl⟩
  generalize hmasked : Bytes.xor _ _ = masked at hlength ⊢
  have hunused : 8 * octets bits - bits ≤ 8 := by
    rw [octets]
    omega
  have hsize := digest.size_pos
  rw [List.append_assoc] at hlength ⊢
  rw [List.length_append, length_clearLeading] at hlength
  have hne : masked ≠ [] := by
    rintro rfl
    rw [List.length_append, length_saltedHash, List.length_singleton, List.length_nil] at hlength
    omega
  have hbound := toNat_clearLeading_append hne hunused
    (saltedHash digest (digest.hash message) salt ++ [188])
  have hbits : 8 * octets bits - (8 * octets bits - bits) = bits := by
    rw [octets]
    omega
  rwa [hlength, hbits] at hbound

end Salted

end Rsa
end Possession

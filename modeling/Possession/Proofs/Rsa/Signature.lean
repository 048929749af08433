import Mathlib.Tactic.NormNum
import Possession.Proofs.Bytes
import Possession.Proofs.Digest
import Possession.Proofs.Outcome
import Possession.Rsa.Padding

/-!
# Signatures verify

A private key raises and checks its own result with the public exponent, so what it answers is
turned back by the public key. A padded form has exactly the size that the verifier looks at, and
the verifier undoes mask and salt. So every signature that a key gives out verifies under its public
half, for both paddings.
-/

namespace Possession
namespace Rsa

/-! ## Powers -/

theorem powMod_eq (base exponent modulus : Nat) :
    powMod base exponent modulus = base ^ exponent % modulus := by
  fun_induction powMod base exponent modulus with
  | case1 base => simp
  | case2 base exponent hexponent half hodd ih =>
    -- odd exponent: one factor is left over from the square
    have hsplit : exponent = 2 * (exponent / 2) + 1 := by omega
    have hpower : base ^ exponent = base * (base * base) ^ (exponent / 2) := by
      conv_lhs => rw [hsplit]
      rw [pow_succ, pow_mul, pow_two, Nat.mul_comm]
    rw [show half = _ from ih, hpower, ← Nat.pow_mod, Nat.mul_mod_mod]
  | case3 base exponent hexponent half heven ih =>
    have hsplit : exponent = 2 * (exponent / 2) := by omega
    have hpower : base ^ exponent = (base * base) ^ (exponent / 2) := by
      conv_lhs => rw [hsplit]
      rw [pow_mul, pow_two]
    rw [show half = _ from ih, hpower, ← Nat.pow_mod]

theorem powMod_lt (base exponent : Nat) {modulus : Nat} (h : 0 < modulus) :
    powMod base exponent modulus < modulus := by
  rw [powMod_eq]
  exact Nat.mod_lt _ h

/-! ## Sizes -/

theorem lt_two_pow_bitLength (value : Nat) : value < 2 ^ bitLength value := by
  unfold bitLength
  split
  · simp_all
  · exact Nat.lt_log2_self

/-- A number under the modulus fits the octets of a signature. -/
theorem PublicKey.lt_pow_size (key : PublicKey) {value : Nat} (h : value < key.modulus) :
    value < 256 ^ key.size := by
  have hsize : key.bits ≤ 8 * key.size := by
    rw [PublicKey.size]
    omega
  calc
    value < key.modulus := h
    _ < 2 ^ key.bits := lt_two_pow_bitLength key.modulus
    _ ≤ 2 ^ (8 * key.size) := Nat.pow_le_pow_right (by omega) hsize
    _ = 256 ^ key.size := by rw [pow_mul]; norm_num

theorem PublicKey.size_pos {key : PublicKey} (h : 0 < key.modulus) : 0 < key.size := by
  -- a modulus of zero has no bits, hence the hypothesis
  have hbits : key.bits = key.modulus.log2 + 1 := by
    rw [PublicKey.bits, bitLength, if_neg (by omega)]
  rw [PublicKey.size]
  omega

/-- What a private key answers is under the modulus and raised back by the public half. -/
theorem PrivateKey.raise_eq_ok {key : PrivateKey} {value result : Nat}
    (hmodulus : 0 < key.modulus) (h : key.raise value = .ok result) :
    result < key.modulus ∧ key.publicKey.raise result = value := by
  rw [PrivateKey.raise] at h
  -- the key compares before it answers, so the comparison holds of every answer
  split at h
  · rename_i hback
    cases h
    exact ⟨powMod_lt _ _ hmodulus, hback⟩
  · cases h

/-- A signature made of an answer of the key denotes that answer. -/
theorem PrivateKey.toNat_signature {key : PrivateKey} {value result : Nat}
    (hmodulus : 0 < key.modulus) (h : key.raise value = .ok result) :
    Bytes.toNat (Bytes.ofNatPadded key.publicKey.size result) = result :=
  Bytes.toNat_ofNatPadded (key.publicKey.lt_pow_size (key.raise_eq_ok hmodulus h).1)

/-! ## Deterministic padding -/

namespace Deterministic

theorem length_encode? {digest : Digest} {size : Nat} {message padded : Bytes}
    (h : encode? digest size message = some padded) : padded.length = size := by
  simp only [encode?] at h
  split at h
  · cases h
  · rename_i hfits
    cases h
    simp only [List.length_append, List.length_cons, List.length_nil, List.length_replicate]
    omega

theorem verify_sign {digest : Digest} {key : PrivateKey} {message signature : Bytes}
    (hmodulus : 0 < key.modulus) (h : sign digest key message = .ok signature) :
    signature.length = key.publicKey.size ∧ verify digest key.publicKey message signature := by
  rw [sign] at h
  cases hpad : encode? digest key.publicKey.size message with
  | none => simp [hpad] at h
  | some padded =>
    simp only [hpad, Outcome.bind_eq_ok_iff, Outcome.pure_eq, Except.ok.injEq] at h
    rcases h with ⟨value, hvalue, rfl⟩
    rcases key.raise_eq_ok hmodulus hvalue with ⟨hlt, hback⟩
    have hpadded : Bytes.ofNatPadded key.publicKey.size (Bytes.toNat padded) = padded := by
      rw [← length_encode? hpad]
      exact Bytes.ofNatPadded_toNat padded
    have hunder : value < key.publicKey.modulus := hlt
    refine ⟨Bytes.length_ofNatPadded _ _, ?_⟩
    simp [verify, key.toNat_signature hmodulus hvalue, hback, hpadded, hpad, hunder]

end Deterministic

/-! ## Salted padding -/

namespace Salted

theorem length_saltedHash (digest : Digest) (hashed salt : Bytes) :
    (saltedHash digest hashed salt).length = digest.size :=
  Digest.length_hash digest _

theorem length_mask (digest : Digest) (seed : Bytes) (length : Nat) :
    (mask digest seed length).length = length := by
  have hblocks (counters : List Nat) :
      (counters.flatMap fun counter =>
        digest.hash (seed ++ Bytes.ofNatPadded 4 counter)).length =
      counters.length * digest.size := by
    induction counters with
    | nil => simp
    | cons counter counters ih =>
      rw [List.flatMap_cons, List.length_append, ih, Digest.length_hash, List.length_cons]
      ring
  have hsize := digest.size_pos
  -- enough blocks are made to cut the length asked for out of them
  have hround : length ≤ (length + digest.size - 1) / digest.size * digest.size := by
    have hmod := Nat.mod_lt (length + digest.size - 1) hsize
    have hdiv := Nat.div_add_mod (length + digest.size - 1) digest.size
    rw [Nat.mul_comm] at hdiv
    omega
  rw [mask, List.length_take, hblocks, List.length_range]
  omega

theorem length_clearLeading (count : Nat) (bytes : Bytes) :
    (clearLeading count bytes).length = bytes.length := by
  cases bytes with
  | nil => rfl
  | cons first rest => rfl

/-- Clearing bits before an exclusive or changes nothing if they are cleared behind it. -/
theorem clearLeading_xor (count : Nat) (left right : Bytes) :
    clearLeading count (Bytes.xor (clearLeading count left) right) =
      clearLeading count (Bytes.xor left right) := by
  cases left with
  | nil => rfl
  | cons first left =>
    cases right with
    | nil => rfl
    | cons other right =>
      -- only the first octet is touched, and a remainder by a power of two passes through it
      have hfirst : (UInt8.ofNat (first.toNat % 2 ^ (8 - count)) ^^^ other).toNat %
          2 ^ (8 - count) = (first ^^^ other).toNat % 2 ^ (8 - count) := by
        have hsmall : first.toNat % 2 ^ (8 - count) < 256 :=
          lt_of_le_of_lt (Nat.mod_le _ _) first.toNat_lt
        rw [UInt8.toNat_xor, UInt8.toNat_xor, Bytes.toNat_octet hsmall, Nat.xor_mod_two_pow,
          Nat.mod_mod, ← Nat.xor_mod_two_pow]
      simpa [clearLeading, Bytes.xor] using congrArg UInt8.ofNat hfirst

theorem clearLeading_idem (count : Nat) (bytes : Bytes) :
    clearLeading count (clearLeading count bytes) = clearLeading count bytes := by
  cases bytes with
  | nil => rfl
  | cons first rest =>
    have hsmall : first.toNat % 2 ^ (8 - count) < 256 :=
      lt_of_le_of_lt (Nat.mod_le _ _) first.toNat_lt
    simp [clearLeading, Nat.mod_eq_of_lt hsmall]

theorem xor_xor {left right : Bytes} (h : left.length = right.length) :
    Bytes.xor (Bytes.xor left right) right = left := by
  induction left generalizing right with
  | nil => rfl
  | cons first left ih =>
    cases right with
    | nil => cases h
    | cons other right =>
      have hrest : Bytes.xor (Bytes.xor left right) right = left := ih (by simpa using h)
      have hfirst : first ^^^ other ^^^ other = first := by
        rw [UInt8.xor_assoc, UInt8.xor_self, UInt8.xor_zero]
      simpa [Bytes.xor, hfirst] using hrest

/-- The octets that are masked: filling, a one and the salt. -/
def block (filling : Nat) (salt : Bytes) : Bytes :=
  List.replicate filling 0 ++ [1] ++ salt

theorem length_block (filling : Nat) (salt : Bytes) :
    (block filling salt).length = filling + 1 + salt.length := by
  simp only [block, List.length_append, List.length_replicate, List.length_singleton]

/-- A block begins with a zero or a one, so clearing at most seven bits leaves it as it is. -/
theorem clearLeading_block {count : Nat} (hcount : count < 8) (filling : Nat) (salt : Bytes) :
    clearLeading count (block filling salt) = block filling salt := by
  -- the first octet is under two, and at least one of its bits is kept
  have hpow : 2 ^ 1 ≤ 2 ^ (8 - count) := Nat.pow_le_pow_right (by omega) (by omega)
  cases filling with
  | zero =>
    have hone : 1 % 2 ^ (8 - count) = 1 := Nat.mod_eq_of_lt (by omega)
    simp [block, clearLeading, hone]
  | succ filling => simp [block, clearLeading, List.replicate_succ]

/-- Dropping octets at the front of a padded number leaves its low octets. -/
theorem drop_ofNatPadded (extra length value : Nat) :
    (Bytes.ofNatPadded (extra + length) value).drop extra = Bytes.ofNatPadded length value := by
  -- by the low octets, which are written last
  induction length generalizing value with
  | zero => simp [Bytes.ofNatPadded]
  | succ length ih =>
    rw [← Nat.add_assoc, Bytes.ofNatPadded, Bytes.ofNatPadded, List.drop_append_of_le_length, ih]
    simp

section Encoding

variable {digest : Digest} {bits : Nat} {salt message padded : Bytes}

/-- The parts of a padded form: the masked block with its unused bits cleared, the salted hash value
and the last octet. -/
theorem encode?_eq_some (h : encode? digest bits salt message = some padded) :
    digest.size + salt.length + 2 ≤ octets bits ∧
      padded = clearLeading (8 * octets bits - bits)
          (Bytes.xor (block (octets bits - salt.length - digest.size - 2) salt)
            (mask digest (saltedHash digest (digest.hash message) salt)
              (octets bits - digest.size - 1))) ++
        saltedHash digest (digest.hash message) salt ++ [188] := by
  simp only [encode?] at h
  split at h
  · cases h
  · cases h
    exact ⟨by omega, rfl⟩

theorem length_encode? (h : encode? digest bits salt message = some padded) :
    padded.length = octets bits := by
  rcases encode?_eq_some h with ⟨hfits, rfl⟩
  have hblock := length_block (octets bits - salt.length - digest.size - 2) salt
  simp only [List.length_append, length_clearLeading, length_saltedHash, Bytes.xor,
    List.length_zipWith, length_mask, hblock, List.length_singleton]
  omega

theorem isEncoding_encode? (hsalt : salt.length = digest.size)
    (h : encode? digest bits salt message = some padded) :
    isEncoding digest bits message padded := by
  rcases encode?_eq_some h with ⟨hfits, hpadded⟩
  have hcount : 8 * octets bits - bits < 8 := by
    rw [octets]
    omega
  -- The parts get names, so that what the verifier cuts out can be told apart from how it was
  -- made: the hash value, the filling and the masked block.
  generalize hhash : saltedHash digest (digest.hash message) salt = salted at hpadded
  generalize hfilling : octets bits - salt.length - digest.size - 2 = filling at hpadded
  generalize hmasked : clearLeading (8 * octets bits - bits)
    (Bytes.xor (block filling salt) (mask digest salted (octets bits - digest.size - 1))) = masked
    at hpadded
  have hsalted : salted.length = digest.size := by
    rw [← hhash]
    exact length_saltedHash digest _ salt
  have hsame : (block filling salt).length =
      (mask digest salted (octets bits - digest.size - 1)).length := by
    rw [length_block, length_mask]
    omega
  have hlength : masked.length = octets bits - digest.size - 1 := by
    rw [← hmasked, length_clearLeading, Bytes.xor, List.length_zipWith, hsame, length_mask,
      Nat.min_self]
  -- the verifier cuts the three parts apart where they were put together
  have htake : padded.take (octets bits - digest.size - 1) = masked := by
    rw [hpadded, List.append_assoc, ← hlength, List.take_left]
  have hdrop : (padded.drop (octets bits - digest.size - 1)).take digest.size = salted := by
    rw [hpadded, List.append_assoc, ← hlength, List.drop_left, ← hsalted, List.take_left]
  have hlast : padded.getLast? = some 188 := by
    rw [hpadded, List.getLast?_concat]
  have hcleared : clearLeading (8 * octets bits - bits) masked = masked := by
    rw [← hmasked, clearLeading_idem]
  -- it unmasks the block although its unused bits were cleared behind the mask
  have hblock : clearLeading (8 * octets bits - bits)
      (Bytes.xor masked (mask digest salted (octets bits - digest.size - 1))) =
      block filling salt := by
    rw [← hmasked, clearLeading_xor, xor_xor hsame, clearLeading_block hcount]
  -- and finds the filling and the salt in the block
  have hfront : octets bits - 2 * digest.size - 1 =
      (List.replicate filling (0 : UInt8) ++ [1]).length := by
    rw [List.length_append, List.length_replicate, List.length_singleton]
    omega
  have hzeros : octets bits - 2 * digest.size - 2 = filling := by omega
  have hsize : 2 * digest.size + 2 ≤ octets bits := by omega
  simp only [isEncoding, htake, hdrop, hlast, hcleared, hblock]
  rw [hfront, block, List.take_left, List.drop_left, hhash, hzeros]
  simp [hsize]

end Encoding

theorem verify_sign {digest : Digest} {key : PrivateKey} {salt message signature : Bytes}
    (hmodulus : 0 < key.modulus) (hsalt : salt.length = digest.size)
    (h : sign digest key salt message = .ok signature) :
    signature.length = key.publicKey.size ∧ verify digest key.publicKey message signature := by
  rw [sign] at h
  cases hpad : encode? digest (key.publicKey.bits - 1) salt message with
  | none => simp [hpad] at h
  | some padded =>
    simp only [hpad, Outcome.bind_eq_ok_iff, Outcome.pure_eq, Except.ok.injEq] at h
    rcases h with ⟨value, hvalue, rfl⟩
    rcases key.raise_eq_ok hmodulus hvalue with ⟨-, hback⟩
    have hsize : key.publicKey.size = key.publicKey.size - octets (key.publicKey.bits - 1) +
        octets (key.publicKey.bits - 1) := by
      have hoctets : octets (key.publicKey.bits - 1) ≤ key.publicKey.size := by
        rw [octets, PublicKey.size]
        omega
      omega
    have hdropped : (Bytes.ofNatPadded key.publicKey.size (Bytes.toNat padded)).drop
        (key.publicKey.size - octets (key.publicKey.bits - 1)) = padded := by
      conv_lhs => rw [hsize]
      rw [Nat.add_sub_cancel, drop_ofNatPadded, ← length_encode? hpad, Bytes.ofNatPadded_toNat]
    refine ⟨Bytes.length_ofNatPadded _ _, ?_⟩
    simp [verify, key.toNat_signature hmodulus hvalue, hback, hdropped,
      isEncoding_encode? hsalt hpad]

end Salted

end Rsa
end Possession

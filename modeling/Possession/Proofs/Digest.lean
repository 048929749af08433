import Possession.Digest
import Possession.Proofs.Bytes

/-!
# Hash values

A hash value has the size of its hash function, whatever was hashed.
-/

namespace Possession
namespace Digest

variable {size : Nat}

@[simp]
theorem Word.length_bytes (word : Word size) : word.bytes.length = size :=
  Bytes.length_ofNatPadded size word.toNat

theorem State.length_bytes (state : State size) : state.bytes.length = 8 * size := by
  simp only [bytes, List.flatMap_cons, List.flatMap_nil, List.length_append, List.length_nil,
    Word.length_bytes]
  omega

theorem Family.length_digest (family : Family size) (initial : State size) (message : Bytes) :
    (family.digest initial message).length = 8 * size :=
  State.length_bytes _

@[simp]
theorem length_hash (digest : Digest) (message : Bytes) :
    (digest.hash message).length = digest.size := by
  cases digest with
  | sha256 => exact words32.length_digest _ message
  | sha384 => rw [hash, List.length_take, words64.length_digest]; rfl
  | sha512 => exact words64.length_digest _ message

theorem size_pos (digest : Digest) : 0 < digest.size := by
  cases digest <;> decide

end Digest
end Possession

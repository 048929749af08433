import Possession.Digest
import Possession.Rsa.Key

/-!
# RSA signatures

The two ways of turning the hash value of a message into a number to be raised:

* the deterministic padding of PKCS #1 version 1.5, which names the hash function in front of the
  hash value (`Deterministic`);
* the salted padding PSS, with a salt as long as the hash value (`Salted`).
-/

namespace Possession
namespace Rsa

/-! ## Deterministic padding -/

namespace Deterministic

/-- The octets that name a hash function in front of its hash value. -/
def digestInfo : Digest → Bytes
  | .sha256 => [48, 49, 48, 13, 6, 9, 96, 134, 72, 1, 101, 3, 4, 2, 1, 5, 0, 4, 32]
  | .sha384 => [48, 65, 48, 13, 6, 9, 96, 134, 72, 1, 101, 3, 4, 2, 2, 5, 0, 4, 48]
  | .sha512 => [48, 81, 48, 13, 6, 9, 96, 134, 72, 1, 101, 3, 4, 2, 3, 5, 0, 4, 64]

/-- The named hash value of a message. -/
def info (digest : Digest) (message : Bytes) : Bytes :=
  digestInfo digest ++ digest.hash message

/-- The padded form in `size` octets, if eight octets of filling fit. -/
def encode? (digest : Digest) (size : Nat) (message : Bytes) : Option Bytes :=
  let info := info digest message
  if size < info.length + 11 then none
  else some ([0, 1] ++ List.replicate (size - info.length - 3) 255 ++ [0] ++ info)

def sign (digest : Digest) (key : PrivateKey) (message : Bytes) : Except Fault Bytes :=
  match encode? digest key.publicKey.size message with
  | none => .error .messageTooLong
  | some padded => do
    let value ← key.raise (Bytes.toNat padded)
    return Bytes.ofNatPadded key.publicKey.size value

/-- Whether a signature belongs to a message. It must have exactly the size of the modulus and
denote a number under it. -/
def verify (digest : Digest) (key : PublicKey) (message signature : Bytes) : Bool :=
  let value := Bytes.toNat signature
  signature.length == key.size && decide (value < key.modulus) &&
    encode? digest key.size message == some (Bytes.ofNatPadded key.size (key.raise value))

end Deterministic

/-! ## Salted padding -/

namespace Salted

/-- The mask of `length` octets that a seed generates. -/
def mask (digest : Digest) (seed : Bytes) (length : Nat) : Bytes :=
  ((List.range ((length + digest.size - 1) / digest.size)).flatMap fun counter =>
    digest.hash (seed ++ Bytes.ofNatPadded 4 counter)).take length

/-- The hash value of a hash value with a salt. -/
def saltedHash (digest : Digest) (hashed salt : Bytes) : Bytes :=
  digest.hash (List.replicate 8 0 ++ hashed ++ salt)

/-- An octet string whose `count` leading bits are zeroed. -/
def clearLeading (count : Nat) : Bytes → Bytes
  | [] => []
  | first :: rest => UInt8.ofNat (first.toNat % Nat.pow 2 (8 - count)) :: rest

/-- The number of octets that `bits` bits fill. -/
def octets (bits : Nat) : Nat :=
  (bits + 7) / 8

/-- The padded form in `bits` bits of a message with a salt, if hash value, salt and two octets
fit. -/
def encode? (digest : Digest) (bits : Nat) (salt message : Bytes) : Option Bytes :=
  let length := octets bits
  if length < digest.size + salt.length + 2 then none
  else
    let salted := saltedHash digest (digest.hash message) salt
    let block := List.replicate (length - salt.length - digest.size - 2) 0 ++ [1] ++ salt
    let masked := Bytes.xor block (mask digest salted (length - digest.size - 1))
    some (clearLeading (8 * length - bits) masked ++ salted ++ [188])

/-- Whether a padded form of `bits` bits belongs to a message, for a salt as long as the hash
value. -/
def isEncoding (digest : Digest) (bits : Nat) (message padded : Bytes) : Bool :=
  let length := octets bits
  let size := digest.size
  let unused := 8 * length - bits
  let masked := padded.take (length - size - 1)
  let salted := (padded.drop (length - size - 1)).take size
  let block := clearLeading unused (Bytes.xor masked (mask digest salted (length - size - 1)))
  decide (2 * size + 2 ≤ length) && padded.getLast? == some 188 &&
    clearLeading unused masked == masked &&
    block.take (length - 2 * size - 1) == List.replicate (length - 2 * size - 2) 0 ++ [1] &&
    saltedHash digest (digest.hash message) (block.drop (length - 2 * size - 1)) == salted

def sign (digest : Digest) (key : PrivateKey) (salt message : Bytes) : Except Fault Bytes :=
  match encode? digest (key.publicKey.bits - 1) salt message with
  | none => .error .inconsistent
  | some padded => do
    let value ← key.raise (Bytes.toNat padded)
    return Bytes.ofNatPadded key.publicKey.size value

/-- Whether a signature belongs to a message. It must have exactly the size of the modulus. When
the padded form has one octet less than the modulus, the first octet is not looked at. -/
def verify (digest : Digest) (key : PublicKey) (message signature : Bytes) : Bool :=
  let bits := key.bits - 1
  let raised := Bytes.ofNatPadded key.size (key.raise (Bytes.toNat signature))
  signature.length == key.size &&
    isEncoding digest bits message (raised.drop (key.size - octets bits))

end Salted

end Rsa
end Possession

import Possession.Der.Basic
import Possession.Rsa.Key

/-!
# Keys in distinguished encoding

The forms in which keys are kept and handed out: `SubjectPublicKeyInfo` for public RSA keys and
`PrivateKeyInfo` for private ones.

* `Rsa.PublicKey.toDer` and `Rsa.PrivateKey.toDer` write keys.
* `Rsa.PrivateKey.ofDer?` reads a private key and checks that its numbers belong together.
-/

namespace Possession
namespace Der

/-- The octets that name RSA as the kind of a key. -/
def rsaAlgorithm : Bytes :=
  [0x06, 0x09, 0x2A, 0x86, 0x48, 0x86, 0xF7, 0x0D, 0x01, 0x01, 0x01, 0x05, 0x00]

/-- Whether contents are those of a bit string. -/
def isBitString : Bytes → Bool
  | [] => false
  | [unused] => unused == 0
  | unused :: _ => unused < 8

/-- Skips a value at the front whose meaning depends on the context and whose number is zero. -/
def skipAttributes (bytes : Bytes) : Option Bytes :=
  match bytes with
  | 0xA0 :: _ | 0x80 :: _ => (read? bytes).map (·.rest)
  | _ => some bytes

/-- Whether octets are values of the context, each around one value. Fuel counts values. -/
def areExtensions : (fuel : Nat) → Bytes → Bool
  | _, [] => true
  | 0, _ => false
  | fuel + 1, bytes =>
    match read? bytes with
    | none => false
    | some value =>
      isContextual value.tag && value.tag.toNat % 64 / 32 == 1 &&
        ((read? value.contents).map (·.rest.isEmpty)).getD false && areExtensions fuel value.rest

/-- Whether what stands behind the key in a key of a version fits: attributes, the public key in
the second version and only there, and extensions. -/
def fitsVersion (version : Nat) (bytes : Bytes) : Bool :=
  match skipAttributes bytes with
  | none => false
  | some rest =>
    match rest with
    | 0x81 :: _ =>
      match read? rest with
      | some value =>
        version == 1 && isBitString value.contents && areExtensions value.rest.length value.rest
      | none => false
    | 0xA1 :: _ => false
    | _ => version == 0 && areExtensions rest.length rest

/-- The octets of the key inside a `PrivateKeyInfo`. -/
def privateKeyOctets? (bytes : Bytes) : Option Bytes := do
  let (contents, rest) ← readTag? sequenceTag bytes
  if !rest.isEmpty then none
  let (version, contents) ← readNatural? contents
  let (algorithm, contents) ← readTag? sequenceTag contents
  let (octets, contents) ← readTag? octetStringTag contents
  if version ≤ 1 && algorithm == rsaAlgorithm && fitsVersion version contents then some octets
  else none

end Der

namespace Rsa

/-- The public key as `SubjectPublicKeyInfo`. -/
def PublicKey.toDer (key : PublicKey) : Bytes :=
  Der.sequence [Der.write Der.sequenceTag Der.rsaAlgorithm,
    Der.write Der.bitStringTag
      (0 :: Der.sequence [Der.natural key.modulus, Der.natural key.exponent])]

/-- The numbers of a private key in the order in which they are written: version, modulus, both
exponents, the primes, and what is precomputed from them. -/
def PrivateKey.numbers (key : PrivateKey) : List Nat :=
  [0, key.modulus, key.publicExponent, key.privateExponent, key.prime1, key.prime2,
    key.privateExponent % (key.prime1 - 1), key.privateExponent % (key.prime2 - 1),
    (inverse? key.prime2 key.prime1).getD 0]

/-- The private key as `PrivateKeyInfo`. -/
def PrivateKey.toDer (key : PrivateKey) : Bytes :=
  Der.sequence [Der.natural 0, Der.write Der.sequenceTag Der.rsaAlgorithm,
    Der.write Der.octetStringTag (Der.sequence (key.numbers.map Der.natural))]

/-- Whether the numbers of a private key belong together. -/
def PrivateKey.isConsistent (key : PrivateKey) : Bool :=
  let product := key.publicExponent * key.privateExponent
  key.publicKey.shapeFault?.isNone && 1 < key.prime1 && 1 < key.prime2 &&
    key.prime1 * key.prime2 == key.modulus && 0 < product &&
    (product - 1) % (key.prime1 - 1) == 0 && (product - 1) % (key.prime2 - 1) == 0

/-- Reads a given number of natural numbers that fill an octet string. -/
def readNumbers? : (count : Nat) → Bytes → Option (List Nat)
  | 0, bytes => if bytes.isEmpty then some [] else none
  | count + 1, bytes => do
    let (value, rest) ← Der.readNatural? bytes
    let values ← readNumbers? count rest
    return value :: values

/-- Reads a private key of two primes. What is precomputed is not looked at. -/
def PrivateKey.ofDer? (bytes : Bytes) : Option PrivateKey := do
  let octets ← Der.privateKeyOctets? bytes
  let (contents, rest) ← Der.readTag? Der.sequenceTag octets
  if !rest.isEmpty then none
  match ← readNumbers? 9 contents with
  | [0, modulus, publicExponent, privateExponent, prime1, prime2, _, _, _] =>
    let key : PrivateKey := ⟨modulus, publicExponent, privateExponent, prime1, prime2⟩
    if key.isConsistent then some key else none
  | _ => none

end Rsa
end Possession

import Possession.Bytes
import Possession.Rsa.Modular

/-!
# RSA keys

Public and private keys, the checks that a public key must pass, and the two primitives: raising to
the public exponent and raising to the private one.
-/

namespace Possession
namespace Rsa

/-- Why an RSA operation is refused. -/
inductive Fault where
  | modulusTooLarge
  | invalidModulus
  | invalidExponent
  | exponentTooSmall
  | exponentTooLarge
  /-- A key too short for the padding of PKCS #1 version 1.5. -/
  | messageTooLong
  /-- A key too short for a salted padding, or one whose private half does not fit its public
  one. -/
  | inconsistent
  /-- A size at which there are too few primes to choose from. -/
  | tooFewPrimes
  deriving DecidableEq, Repr

def Fault.message : Fault → String
  | .modulusTooLarge => "modulus too large"
  | .invalidModulus => "invalid modulus"
  | .invalidExponent => "invalid exponent"
  | .exponentTooSmall => "public exponent too small"
  | .exponentTooLarge => "public exponent too large"
  | .messageTooLong => "message too long"
  | .inconsistent => "internal error"
  | .tooFewPrimes => "too few primes of given length to generate an RSA key"

/-- A modulus and a public exponent. -/
structure PublicKey where
  modulus : Nat
  exponent : Nat
  deriving DecidableEq, Repr

/-- The size of the modulus in bits. -/
def PublicKey.bits (key : PublicKey) : Nat :=
  bitLength key.modulus

/-- The size of the modulus in octets, which is the size of every signature. -/
def PublicKey.size (key : PublicKey) : Nat :=
  (key.bits + 7) / 8

/-- The largest modulus that is accepted, in bits. -/
def maxModulusBits : Nat := 4096

/-- The largest public exponent that is accepted. -/
def maxExponent : Nat := 0x1_ffff_ffff

/-- What is wrong with a public key, apart from a modulus that is too large. -/
def PublicKey.shapeFault? (key : PublicKey) : Option Fault :=
  if 64 < bitLength key.exponent then some .exponentTooLarge
  else if key.modulus ≤ key.exponent ∨ key.modulus % 2 = 0 then some .invalidModulus
  else if key.exponent % 2 = 0 then some .invalidExponent
  else if key.exponent < 2 then some .exponentTooSmall
  else if maxExponent < key.exponent then some .exponentTooLarge
  else none

/-- What is wrong with a public key, the size of its modulus first. -/
def PublicKey.fault? (key : PublicKey) : Option Fault :=
  if maxModulusBits < key.bits then some .modulusTooLarge else key.shapeFault?

/-- The public key with the given numbers, if nothing is wrong with it. -/
def PublicKey.make (modulus exponent : Nat) : Except Fault PublicKey :=
  let key : PublicKey := ⟨modulus, exponent⟩
  match key.fault? with
  | some fault => .error fault
  | none => .ok key

/-- A modulus, both exponents and the two primes of the modulus. -/
structure PrivateKey where
  modulus : Nat
  publicExponent : Nat
  privateExponent : Nat
  prime1 : Nat
  prime2 : Nat
  deriving DecidableEq, Repr

def PrivateKey.publicKey (key : PrivateKey) : PublicKey :=
  ⟨key.modulus, key.publicExponent⟩

def PublicKey.raise (key : PublicKey) (value : Nat) : Nat :=
  powMod value key.exponent key.modulus

/-- Raises to the private exponent and checks the result with the public one, so that no faulty
result leaves the key. -/
def PrivateKey.raise (key : PrivateKey) (value : Nat) : Except Fault Nat :=
  let result := powMod value key.privateExponent key.modulus
  if key.publicKey.raise result = value then .ok result else .error .inconsistent

end Rsa
end Possession

import Possession.Entropy
import Possession.Rsa.Key

/-!
# Generating RSA keys

A key of a given size is the product of two primes of half the size each, found by drawing odd
numbers and walking up from them to the next number that passes a primality test.
-/

namespace Possession
namespace Rsa

/-! ## Primality -/

/-- The primes below a thousand, with which candidates are divided first. -/
def smallPrimes : List Nat :=
  (List.range 1000).filter fun number =>
    2 ≤ number && (List.range 32).all fun divisor =>
      divisor < 2 || number ≤ divisor || number % divisor != 0

/-- Whether squaring at most `count` times leads from `value` to minus one. -/
def reachesMinusOne (modulus : Nat) : (count : Nat) → (value : Nat) → Bool
  | 0, _ => false
  | count + 1, value =>
    value == modulus - 1 || reachesMinusOne modulus count (value * value % modulus)

/-- The number of times two divides a number. -/
def twos (value : Nat) : Nat :=
  if value = 0 ∨ value % 2 = 1 then 0 else twos (value / 2) + 1
termination_by value
decreasing_by omega

/-- Whether a base does not betray an odd number as composite. -/
def passesBase (number base : Nat) : Bool :=
  let count := twos (number - 1)
  let power := powMod base ((number - 1) / Nat.pow 2 count) number
  power == 1 || reachesMinusOne number count power

/-- Whether a number has no small divisor and no base among the first primes betrays it. -/
def isProbablePrime (number : Nat) : Bool :=
  if number < 1000 then smallPrimes.contains number
  else
    smallPrimes.all (fun prime => number % prime != 0) &&
      (smallPrimes.take 20).all (passesBase number)

/-! ## Primes -/

/-- The first prime among `count` numbers from an odd one on, every other one. -/
def nextPrime? : (count : Nat) → (start : Nat) → Option Nat
  | 0, _ => none
  | count + 1, start => if isProbablePrime start then some start else nextPrime? count (start + 2)

/-- Draws a prime of exactly `bits` bits, the two highest of them set. Fuel counts draws. -/
def drawPrime? (bits : Nat) : (fuel : Nat) → Entropy → Option (Nat × Entropy)
  | 0, _ => none
  | fuel + 1, source =>
    let (drawn, next) := source.bits (bits - 3)
    let start := 3 * Nat.pow 2 (bits - 2) + 2 * drawn + 1
    match nextPrime? (8 * bits) start with
    | some prime => if bitLength prime = bits then some (prime, next) else drawPrime? bits fuel next
    | none => drawPrime? bits fuel next

/-! ## Keys -/

/-- The public exponent of generated keys. -/
def generatedExponent : Nat := 65537

/-- The smallest size for which there are primes enough. -/
def minGeneratedBits : Nat := 12

/-- The private key of two primes and a public exponent, if the exponent can be inverted. -/
def PrivateKey.ofPrimes? (prime1 prime2 exponent : Nat) : Option PrivateKey :=
  (inverse? exponent ((prime1 - 1) * (prime2 - 1))).map fun inverse =>
    { modulus := prime1 * prime2
      publicExponent := exponent
      privateExponent := inverse
      prime1, prime2 }

/-- Draws pairs of primes until they make a key of exactly `bits` bits. Fuel counts pairs. -/
def drawKey? (bits : Nat) : (fuel : Nat) → Entropy → Option (PrivateKey × Entropy)
  | 0, _ => none
  | fuel + 1, source => do
    let (prime1, source) ← drawPrime? (bits / 2) 256 source
    let (prime2, source) ← drawPrime? (bits - bits / 2) 256 source
    match PrivateKey.ofPrimes? prime1 prime2 generatedExponent with
    | some key =>
      if prime1 ≠ prime2 ∧ key.publicKey.bits = bits then some (key, source)
      else drawKey? bits fuel source
    | none => drawKey? bits fuel source

/-- Draws a key of exactly `bits` bits. -/
def generate (bits : Nat) (source : Entropy) : Except Fault (PrivateKey × Entropy) :=
  if bits < minGeneratedBits then .error .tooFewPrimes
  else
    match drawKey? bits 256 source with
    | none => .error .inconsistent
    | some (key, next) =>
      match key.publicKey.shapeFault? with
      | some fault => .error fault
      | none => .ok (key, next)

end Rsa
end Possession

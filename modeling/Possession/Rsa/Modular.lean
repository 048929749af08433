/-!
# Modular arithmetic

Powers and inverses modulo a natural number.
-/

namespace Possession
namespace Rsa

/-- The remainder of `base ^ exponent` modulo `modulus`, by repeated squaring. -/
def powMod (base exponent modulus : Nat) : Nat :=
  if exponent = 0 then 1 % modulus
  else
    let half := powMod (base * base % modulus) (exponent / 2) modulus
    if exponent % 2 = 1 then base * half % modulus else half
termination_by exponent
decreasing_by omega

/-- Runs Euclid's algorithm on two remainders together with the multiples of the first number they
are congruent to. -/
def euclid (remainder next : Nat) (multiple nextMultiple : Int) : Nat × Int :=
  if next = 0 then (remainder, multiple)
  else
    euclid next (remainder % next) nextMultiple
      (multiple - Int.ofNat (remainder / next) * nextMultiple)
termination_by next
decreasing_by exact Nat.mod_lt _ (by omega)

/-- The number `x` under `modulus` with `value * x` congruent to one, if `value` has one. -/
def inverse? (value modulus : Nat) : Option Nat :=
  let (divisor, multiple) := euclid modulus (value % modulus) 0 1
  if divisor = 1 then some (multiple % Int.ofNat modulus).toNat else none

/-- The number of binary digits; zero has none. -/
def bitLength (value : Nat) : Nat :=
  if value = 0 then 0 else value.log2 + 1

end Rsa
end Possession

/-!
# Shortest decimal digits of a double

The decimal number with the fewest digits that rounds to a given double and, of those, the one
nearest to it. A finite positive double is `mantissa * 2 ^ exponent`; the numbers that round to it
form an interval around it whose ends belong to it exactly when the mantissa is even. Everything is
decided in natural numbers.
-/

namespace Possession
namespace Decimal

/-- The decimal number `digits * 10 ^ exponent`. -/
structure Scaled where
  digits : Nat
  exponent : Int

/-- A positive finite double as `mantissa * 2 ^ exponent`. The flag says that the gap to the next
smaller double is half the gap to the next larger one. -/
structure Binary where
  mantissa : Nat
  exponent : Int
  narrowBelow : Bool

/-- The weight of the bit that a normal double has before its fraction. -/
def hiddenBit : Nat := 0x10_0000_0000_0000

/-- Takes the bits of a positive finite double apart. -/
def Binary.ofBits (bits : Nat) : Binary :=
  let fraction : Nat := bits % hiddenBit
  let biased : Nat := bits / hiddenBit % 2048
  if biased = 0 then ⟨fraction, -1074, false⟩
  else ⟨fraction + hiddenBit, Int.ofNat biased - 1075, fraction == 0 && biased != 1⟩

/-- A fraction `numerator / denominator`. -/
structure Ratio where
  numerator : Nat
  denominator : Nat

/-- `value * 2 ^ twos * 10 ^ tens` as a fraction. -/
def Ratio.scale (value : Nat) (twos tens : Int) : Ratio :=
  ⟨value * Nat.pow 2 twos.toNat * Nat.pow 10 tens.toNat,
    Nat.pow 2 (-twos).toNat * Nat.pow 10 (-tens).toNat⟩

/-- Whether `digits * 10 ^ place` rounds to the double. -/
def Binary.isNear (double : Binary) (place : Int) (digits : Nat) : Bool :=
  let below := Ratio.scale (if double.narrowBelow then 4 * double.mantissa - 1
    else 4 * double.mantissa - 2) (double.exponent - 2) (-place)
  let above := Ratio.scale (4 * double.mantissa + 2) (double.exponent - 2) (-place)
  if double.mantissa % 2 = 0 then
    below.numerator ≤ digits * below.denominator && digits * above.denominator ≤ above.numerator
  else
    below.numerator < digits * below.denominator && digits * above.denominator < above.numerator

/-- The better of the two neighbours of the double among the multiples of `10 ^ place`, when one of
them rounds to it; of two equally near ones the even one. -/
def Binary.atPlace? (double : Binary) (place : Int) : Option Scaled :=
  let exact := Ratio.scale double.mantissa double.exponent (-place)
  let low := exact.numerator / exact.denominator
  let rest := exact.numerator % exact.denominator
  let nearer :=
    if 2 * rest < exact.denominator then low
    else if exact.denominator < 2 * rest then low + 1
    else if low % 2 = 0 then low else low + 1
  if double.isNear place nearer then some ⟨nearer, place⟩
  else if double.isNear place low then some ⟨low, place⟩
  else if double.isNear place (low + 1) then some ⟨low + 1, place⟩
  else none

/-- The shortest decimal number that rounds to the double: the largest place at which one does. -/
def Binary.shortest (double : Binary) : Scaled :=
  ((List.range 634).findSome? fun index => double.atPlace? (309 - Int.ofNat index)).getD ⟨0, 0⟩

/-! ## Text -/

/-- Where a number is written without an exponent: while its decimal point stands at most
`largest` places right of the first digit, or fewer than `smallest` places left of it. -/
structure Layout where
  largest : Int
  smallest : Int

/-- Writes `digits * 10 ^ exponent` with a decimal point or an exponent. -/
def Layout.write (layout : Layout) (number : Scaled) : String :=
  let digits := Nat.toDigits 10 number.digits
  let count : Int := digits.length
  let point := count + number.exponent
  if 0 ≤ number.exponent ∧ point ≤ layout.largest then
    String.ofList (digits ++ List.replicate number.exponent.toNat '0' ++ ['.', '0'])
  else if 0 < point ∧ point ≤ layout.largest then
    String.ofList (digits.take point.toNat ++ '.' :: digits.drop point.toNat)
  else if -layout.smallest < point ∧ point ≤ 0 then
    String.ofList ('0' :: '.' :: List.replicate (-point).toNat '0' ++ digits)
  else
    let tail := if digits.length = 1 then [] else '.' :: digits.drop 1
    String.ofList (digits.take 1 ++ tail) ++ "e" ++ toString (point - 1)

def Layout.text (layout : Layout) (value : Float) : String :=
  let bits := value.toBits.toNat
  let magnitude := bits % 0x8000_0000_0000_0000
  let sign := if bits = magnitude then "" else "-"
  if magnitude = 0 then sign ++ "0.0"
  else sign ++ layout.write (Binary.ofBits magnitude).shortest

end Decimal
end Possession

/-!
# Bytes

Octet strings as lists, and their reading as big-endian natural numbers.

* `Bytes.toNat` reads an octet string as a number, most significant octet first.
* `Bytes.ofNat` is the shortest octet string that denotes a number.
* `Bytes.ofNatPadded` is the octet string of a given length that denotes a number.
-/

namespace Possession

/-- An octet string. -/
abbrev Bytes := List UInt8

namespace Bytes

/-! ## Numbers -/

/-- The number an octet string denotes, most significant octet first. -/
def toNat (bytes : Bytes) : Nat :=
  bytes.foldl (fun value byte => value * 256 + byte.toNat) 0

/-- The `length` low octets of `value`, most significant first. -/
def ofNatPadded : (length : Nat) → (value : Nat) → Bytes
  | 0, _ => []
  | length + 1, value => ofNatPadded length (value / 256) ++ [UInt8.ofNat value]

/-- How many octets the shortest form of a number has; zero has none. -/
def width (value : Nat) : Nat :=
  if value = 0 then 0 else value.log2 / 8 + 1

/-- The octet string without leading zeros that denotes `value`. -/
def ofNat (value : Nat) : Bytes :=
  ofNatPadded (width value) value

/-! ## Combination -/

/-- The bitwise exclusive or of two octet strings, as long as the shorter one. -/
def xor (left right : Bytes) : Bytes :=
  List.zipWith (· ^^^ ·) left right

end Bytes

end Possession

import Possession.Instant.Basic

/-!
# Writing instants

The text of an instant in universal time: date, `T`, time, a fraction of as many digits as are
needed in steps of three, and a zone. Years of more than four digits and negative ones have a sign.
-/

namespace Possession

/-- The last `width` decimal digits of a number. -/
def fixedDigits : (width : Nat) → (value : Nat) → List Char
  | 0, _ => []
  | width + 1, value => fixedDigits width (value / 10) ++ [Char.ofNat (48 + value % 10)]

/-- All decimal digits of a number, at least `width`. -/
def paddedDigits (width value : Nat) : List Char :=
  let digits := Nat.toDigits 10 value
  List.replicate (width - digits.length) '0' ++ digits

namespace Instant

def writeYear (year : Int) : List Char :=
  if 0 ≤ year ∧ year ≤ 9999 then fixedDigits 4 year.toNat
  else (if year < 0 then '-' else '+') :: paddedDigits 4 year.natAbs

/-- The fraction of a second as it is written, with its point. -/
def writeFraction (nanos : Nat) : List Char :=
  if nanos = 0 then []
  else if nanos % 1000000 = 0 then '.' :: fixedDigits 3 (nanos / 1000000)
  else if nanos % 1000 = 0 then '.' :: fixedDigits 6 (nanos / 1000)
  else '.' :: fixedDigits 9 nanos

/-- Date and time of an instant as they are written. A leap second is second sixty. -/
def writeMoment (instant : Instant) : List Char :=
  let moment := Moment.ofSeconds instant.seconds
  let leap := nanosPerSecond ≤ instant.nanos
  let second := if leap then moment.second + 1 else moment.second
  writeYear moment.date.year ++ '-' :: fixedDigits 2 moment.date.month ++
    '-' :: fixedDigits 2 moment.date.day ++ 'T' :: fixedDigits 2 moment.hour ++
    ':' :: fixedDigits 2 moment.minute ++ ':' :: fixedDigits 2 second ++
    writeFraction (if leap then instant.nanos - nanosPerSecond else instant.nanos)

/-- The text of an instant, its zone written as a letter. -/
def text (instant : Instant) : String :=
  String.ofList (instant.writeMoment ++ ['Z'])

/-- The text of an instant, its zone written as an offset. -/
def textWithOffset (instant : Instant) : String :=
  String.ofList (instant.writeMoment ++ "+00:00".toList)

end Instant

end Possession

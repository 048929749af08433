import Possession.Decimal.Shortest
import Possession.Text.Quoted

/-!
# Faults of JSON texts

What can be wrong with a JSON text, as a syntax or for the record it is read as, and how each fault
is worded.
-/

namespace Possession
namespace Json

/-- A number with a fraction or an exponent, or one too large for an integer: plus or minus
`significand * 10 ^ exponent`. -/
structure Real where
  negative : Bool
  significand : Nat
  exponent : Int
  deriving DecidableEq, Repr

/-- Multiplies by a power of ten of at most 308, or divides by as many as are needed, stopping at
zero; `none` when the result is beyond every double. Fuel counts divisions. -/
def Real.scale? : (fuel : Nat) → (value : Float) → (exponent : Int) → Option Float
  | 0, value, _ => some value
  | fuel + 1, value, exponent =>
    if exponent.natAbs ≤ 308 then
      let power := Float.ofScientific 1 false exponent.natAbs
      if 0 ≤ exponent then
        let scaled := value * power
        if scaled.isInf then none else some scaled
      else some (value / power)
    else if value == 0 then some value
    else if 0 ≤ exponent then none
    else scale? fuel (value / Float.ofScientific 1 false 308) (exponent + 308)

/-- The double a number is taken for, `none` when it is beyond every double. Three divisions by
`10 ^ 308` leave nothing of a significand under `2 ^ 64`. -/
def Real.toFloat? (real : Real) : Option Float :=
  let magnitude := Real.scale? 5 (UInt64.ofNat real.significand).toFloat real.exponent
  magnitude.map fun value => if real.negative then -value else value

/-- Numbers in messages: a point up to sixteen places, an exponent from there on and below
`0.00001`. -/
def realLayout : Decimal.Layout := ⟨16, 5⟩

/-- A value that was met where another kind of value was wanted. -/
inductive Found where
  | null
  | flag (value : Bool)
  | integer (value : Int)
  | real (value : Real)
  | text (value : String)
  | sequence
  | record
  deriving DecidableEq, Repr

def Found.message : Found → String
  | .null => "null"
  | .flag value => s!"boolean `{value}`"
  | .integer value => s!"integer `{value}`"
  | .real value =>
    let digits := realLayout.text (value.toFloat?.getD 0)
    s!"floating point `{digits}`"
  | .text value => s!"string {Text.quoted value}"
  | .sequence => "sequence"
  | .record => "map"

/-- A fault of a JSON text. -/
inductive Error where
  /-- The text ends where a value should stand or go on. -/
  | endInValue
  | endInRecord
  | endInText
  | endInList
  | valueExpected
  /-- A word other than `null`, `true` and `false`. -/
  | wordExpected
  | colonExpected
  | listSeparatorExpected
  | recordSeparatorExpected
  | trailingCharacters
  | trailingComma
  | nameNotText
  | badEscape
  | badNumber
  | numberOutOfRange
  | controlCharacter
  /-- A surrogate that is not the second half of a pair, or a first half with another unit
  behind. -/
  | loneSurrogate
  /-- A first half of a surrogate pair with no escape behind it. -/
  | unpairedSurrogate
  /-- Octets of a text that are not UTF-8. -/
  | badCharacter
  | tooDeep
  | wrongType (found : Found) (expected : String)
  | wrongValue (found : Found) (expected : String)
  | wrongLength (count : Nat) (expected : String)
  | missingMember (name : String)
  | duplicateMember (name : String)
  /-- A value of the right type that its reader refuses. -/
  | refused (reason : String)
  deriving DecidableEq, Repr

def Error.message : Error → String
  | .endInValue => "EOF while parsing a value"
  | .endInRecord => "EOF while parsing an object"
  | .endInText => "EOF while parsing a string"
  | .endInList => "EOF while parsing a list"
  | .valueExpected => "expected value"
  | .wordExpected => "expected ident"
  | .colonExpected => "expected `:`"
  | .listSeparatorExpected => "expected `,` or `]`"
  | .recordSeparatorExpected => "expected `,` or `\x7d`"
  | .trailingCharacters => "trailing characters"
  | .trailingComma => "trailing comma"
  | .nameNotText => "key must be a string"
  | .badEscape => "invalid escape"
  | .badNumber => "invalid number"
  | .numberOutOfRange => "number out of range"
  | .controlCharacter => "control character (\\u0000-\\u001F) found while parsing a string"
  | .loneSurrogate => "lone leading surrogate in hex escape"
  | .unpairedSurrogate => "unexpected end of hex escape"
  | .badCharacter => "invalid unicode code point"
  | .tooDeep => "recursion limit exceeded"
  | .wrongType found expected => s!"invalid type: {found.message}, expected {expected}"
  | .wrongValue found expected => s!"invalid value: {found.message}, expected {expected}"
  | .wrongLength count expected => s!"invalid length {count}, expected {expected}"
  | .missingMember name => s!"missing field `{name}`"
  | .duplicateMember name => s!"duplicate field `{name}`"
  | .refused reason => reason

end Json
end Possession

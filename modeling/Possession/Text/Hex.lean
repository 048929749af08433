import Possession.Bytes
import Possession.Text.Digits

/-!
# Hexadecimal text

Two digits an octet, most significant first; written in lower case, read in either case.
-/

namespace Possession
namespace Hex

/-- The lower-case digit of a value under sixteen. -/
def digit (value : Nat) : Char :=
  if value < 10 then Char.ofNat (48 + value) else Char.ofNat (87 + value)

def digits (byte : UInt8) : List Char :=
  [digit (byte.toNat / 16), digit (byte.toNat % 16)]

def encode (bytes : Bytes) : String :=
  String.ofList (bytes.flatMap digits)

/-- Reads pairs of digits; refuses an odd digit and anything that is no digit. -/
def decodeChars? : List Char → Option Bytes
  | [] => some []
  | high :: low :: rest => do
    let h ← Digits.value? high
    let l ← Digits.value? low
    let bytes ← decodeChars? rest
    return UInt8.ofNat (h * 16 + l) :: bytes
  | [_] => none

/-- The octet string a hexadecimal text denotes. -/
def decode? (text : String) : Option Bytes :=
  decodeChars? text.toList

end Hex
end Possession

import Possession.Text.Hex
import Possession.Text.Utf8

/-!
# Percent encoding

A percent sign with two hexadecimal digits behind it stands for an octet; any other percent sign
stands for itself.
-/

namespace Possession
namespace Url
namespace Percent

def decode : Bytes → Bytes
  | [] => []
  | 37 :: high :: low :: rest =>
    match Digits.value? (Char.ofNat high.toNat), Digits.value? (Char.ofNat low.toNat) with
    | some h, some l => UInt8.ofNat (h * 16 + l) :: decode rest
    | _, _ => 37 :: decode (high :: low :: rest)
  | byte :: rest => byte :: decode rest

/-- The percent sign and digits of an octet, in upper case. -/
def escape (byte : UInt8) : List Char :=
  '%' :: (Hex.digits byte).map Char.toUpper

/-- Whether a character stands for itself in a host that is not a domain name. -/
def isPlain (c : Char) : Bool :=
  32 ≤ c.toNat && c.toNat < 127

/-- Encodes controls and everything beyond ASCII. -/
def encode (chars : List Char) : List Char :=
  chars.flatMap fun c =>
    if isPlain c then [c] else (String.utf8EncodeChar c).flatMap escape

end Percent
end Url
end Possession

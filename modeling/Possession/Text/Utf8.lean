import Possession.Bytes

/-!
# UTF-8

The octets of a text and the text that octets spell. Reading is strict: overlong forms, surrogates,
values above `0x10FFFF` and broken sequences are refused.
-/

namespace Possession
namespace Utf8

/-! ## Writing -/

def encodeChars (chars : List Char) : Bytes :=
  chars.flatMap String.utf8EncodeChar

def encode (text : String) : Bytes :=
  encodeChars text.toList

/-! ## Reading -/

/-- Whether an octet continues a sequence, that is, has the form `10xxxxxx`. -/
def isTail (byte : UInt8) : Bool :=
  byte.toNat / 64 == 2

/-- The six payload bits of a continuation octet. -/
def payload (byte : UInt8) : Nat :=
  byte.toNat % 64

def decodeChars? : Bytes → Option (List Char)
  | [] => some []
  | a :: rest =>
    if a.toNat < 0x80 then
      (decodeChars? rest).map (Char.ofNat a.toNat :: ·)
    else if 0xC2 ≤ a.toNat ∧ a.toNat < 0xE0 then
      match rest with
      | b :: rest =>
        if isTail b then
          (decodeChars? rest).map (Char.ofNat (a.toNat % 32 * 64 + payload b) :: ·)
        else none
      | [] => none
    else if 0xE0 ≤ a.toNat ∧ a.toNat < 0xF0 then
      match rest with
      | b :: c :: rest =>
        let code := a.toNat % 16 * 4096 + payload b * 64 + payload c
        if isTail b && isTail c && 0x800 ≤ code && (code < 0xD800 || 0xE000 ≤ code) then
          (decodeChars? rest).map (Char.ofNat code :: ·)
        else none
      | _ => none
    else if 0xF0 ≤ a.toNat ∧ a.toNat < 0xF5 then
      match rest with
      | b :: c :: d :: rest =>
        let code := a.toNat % 8 * 262144 + payload b * 4096 + payload c * 64 + payload d
        if isTail b && isTail c && isTail d && 0x10000 ≤ code && code < 0x110000 then
          (decodeChars? rest).map (Char.ofNat code :: ·)
        else none
      | _ => none
    else none

def decode? (bytes : Bytes) : Option String :=
  (decodeChars? bytes).map String.ofList

end Utf8
end Possession

import Possession.Text.Utf8

/-!
# Base64

The two alphabets of base64: the standard one, padded to whole groups of four, and the one for URLs
and file names, unpadded. Reading is canonical: each octet string has exactly one text, so padding
must be as the alphabet says and the unused bits of the last symbol must be zero.

* `Base64.encode` writes an octet string.
* `Base64.decode` reads a text and says at which octet of it the first fault lies.
-/

namespace Possession

/-- An alphabet: its last two symbols, and whether groups are filled up with `=`. -/
structure Base64 where
  symbol62 : Char
  symbol63 : Char
  padded : Bool

namespace Base64

/-- The alphabet ending in `+` and `/`, padded. -/
def standard : Base64 := ⟨'+', '/', true⟩

/-- The alphabet ending in `-` and `_`, unpadded. -/
def url : Base64 := ⟨'-', '_', false⟩

/-! ## Symbols -/

def symbol (alphabet : Base64) (value : Nat) : Char :=
  if value < 26 then Char.ofNat (65 + value)
  else if value < 52 then Char.ofNat (71 + value)
  else if value < 62 then Char.ofNat (value - 4)
  else if value = 62 then alphabet.symbol62
  else alphabet.symbol63

/-- The value of a symbol, given as an octet. -/
def value? (alphabet : Base64) (byte : UInt8) : Option Nat :=
  let code := byte.toNat
  if 65 ≤ code ∧ code ≤ 90 then some (code - 65)
  else if 97 ≤ code ∧ code ≤ 122 then some (code - 71)
  else if 48 ≤ code ∧ code ≤ 57 then some (code + 4)
  else if code = alphabet.symbol62.toNat then some 62
  else if code = alphabet.symbol63.toNat then some 63
  else none

/-! ## Writing -/

/-- The symbols of an octet string, three octets to four symbols. -/
def encodeChars (alphabet : Base64) : Bytes → List Char
  | a :: b :: c :: rest =>
    let group := a.toNat * 65536 + b.toNat * 256 + c.toNat
    alphabet.symbol (group / 262144) :: alphabet.symbol (group / 4096 % 64) ::
      alphabet.symbol (group / 64 % 64) :: alphabet.symbol (group % 64) :: encodeChars alphabet rest
  | [a, b] =>
    let group := a.toNat * 1024 + b.toNat * 4
    alphabet.symbol (group / 4096) :: alphabet.symbol (group / 64 % 64) ::
      alphabet.symbol (group % 64) :: if alphabet.padded then ['='] else []
  | [a] =>
    let group := a.toNat * 16
    alphabet.symbol (group / 64) :: alphabet.symbol (group % 64) ::
      if alphabet.padded then ['=', '='] else []
  | [] => []

def encode (alphabet : Base64) (bytes : Bytes) : String :=
  String.ofList (alphabet.encodeChars bytes)

/-! ## Reading -/

/-- Why a text is no base64. Positions count octets from zero. -/
inductive Fault where
  /-- An octet outside the alphabet, or padding where none may stand. -/
  | symbol (byte : UInt8) (offset : Nat)
  | lastSymbol (byte : UInt8) (offset : Nat)
  /-- A text that ends after the first symbol of a group. -/
  | length (count : Nat)
  /-- Padding that is missing, or present where the alphabet has none. -/
  | padding
  deriving DecidableEq, Repr

def Fault.message : Fault → String
  | .symbol byte offset => s!"Invalid symbol {byte.toNat}, offset {offset}."
  | .lastSymbol byte offset => s!"Invalid last symbol {byte.toNat}, offset {offset}."
  | .length count => s!"Invalid input length: {count}"
  | .padding => "Invalid padding"

/-- The octet of the padding sign. -/
def padding : UInt8 := 61

/-- The symbols read from the last group, and how many padding signs follow them. -/
structure LastGroup where
  values : List Nat
  last : UInt8
  pads : Nat

/-- Reads the last group, symbol by symbol: padding may follow two symbols at the earliest, and
nothing but padding may follow padding. -/
def readLast (alphabet : Base64) (start : Nat) : (index : Nat) → LastGroup → Bytes →
    Except Fault LastGroup
  | _, group, [] => .ok group
  | index, group, byte :: rest =>
    if byte = padding then
      if index < 2 then .error (.symbol byte (start + index))
      else readLast alphabet start (index + 1) { group with pads := group.pads + 1 } rest
    else if 0 < group.pads then .error (.symbol padding (start + group.values.length))
    else
      match alphabet.value? byte with
      | none => .error (.symbol byte (start + index))
      | some value =>
        readLast alphabet start (index + 1)
          { group with values := group.values ++ [value], last := byte } rest

/-- The octets of a last group of two, three or four symbols whose unused bits are zero. -/
def LastGroup.bytes (group : LastGroup) (start : Nat) : Except Fault Bytes :=
  match group.values with
  | [x, y] =>
    if y % 16 = 0 then .ok [UInt8.ofNat (x * 4 + y / 16)]
    else .error (.lastSymbol group.last (start + 1))
  | [x, y, z] =>
    if z % 4 = 0 then .ok [UInt8.ofNat (x * 4 + y / 16), UInt8.ofNat (y % 16 * 16 + z / 4)]
    else .error (.lastSymbol group.last (start + 2))
  | [x, y, z, w] =>
    .ok [UInt8.ofNat (x * 4 + y / 16), UInt8.ofNat (y % 16 * 16 + z / 4),
      UInt8.ofNat (z % 4 * 64 + w)]
  | _ => .error (.length (start + group.values.length))

def decodeLast (alphabet : Base64) (start : Nat) (bytes : Bytes) : Except Fault Bytes := do
  let group ← readLast alphabet start 0 ⟨[], 0, 0⟩ bytes
  if group.values.length < 2 then throw (.length (start + group.values.length))
  if alphabet.padded then
    if (group.pads + group.values.length) % 4 ≠ 0 then throw .padding
  else if 0 < group.pads then throw .padding
  group.bytes start

/-- Reads the groups of a text from octet `start` on. Every group but the last is four symbols. -/
def decodeGroups (alphabet : Base64) (start : Nat) : Bytes → Except Fault Bytes
  | a :: b :: c :: d :: e :: rest =>
    match alphabet.value? a, alphabet.value? b, alphabet.value? c, alphabet.value? d with
    | some x, some y, some z, some w =>
      (decodeGroups alphabet (start + 4) (e :: rest)).map
        ([UInt8.ofNat (x * 4 + y / 16), UInt8.ofNat (y % 16 * 16 + z / 4),
          UInt8.ofNat (z % 4 * 64 + w)] ++ ·)
    | none, _, _, _ => .error (.symbol a start)
    | _, none, _, _ => .error (.symbol b (start + 1))
    | _, _, none, _ => .error (.symbol c (start + 2))
    | _, _, _, none => .error (.symbol d (start + 3))
  | [] => .ok []
  | last => decodeLast alphabet start last

/-- Reads a text given as octets. An octet outside the alphabet that alone follows whole groups is
reported before any other fault. -/
def decodeBytes (alphabet : Base64) (text : Bytes) : Except Fault Bytes :=
  match text.getLast? with
  | some byte =>
    if text.length % 4 = 1 ∧ byte ≠ padding ∧ (alphabet.value? byte).isNone then
      .error (.symbol byte (text.length - 1))
    else decodeGroups alphabet 0 text
  | none => .ok []

def decode (alphabet : Base64) (text : String) : Except Fault Bytes :=
  alphabet.decodeBytes (Utf8.encode text)

end Base64
end Possession

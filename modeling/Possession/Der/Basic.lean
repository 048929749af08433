import Possession.Bytes

/-!
# Distinguished encoding

Values written as a tag, a length and contents, each in its one shortest form.

* `Der.write` writes a value, `Der.natural` a natural number.
* `Der.read?` reads the value at the front of an octet string.
-/

namespace Possession
namespace Der

/-! ## Tags -/

def integerTag : UInt8 := 0x02

def bitStringTag : UInt8 := 0x03

def octetStringTag : UInt8 := 0x04

def sequenceTag : UInt8 := 0x30

/-- The tags of the universal class that are known. -/
def universalTags : List UInt8 :=
  [0x01, 0x02, 0x03, 0x04, 0x05, 0x06, 0x09, 0x0A, 0x0C, 0x12, 0x13, 0x14, 0x15, 0x16, 0x17, 0x18,
    0x1A, 0x1E, 0x30, 0x31]

/-- Whether an octet is a tag. Numbers from 31 on, which take further octets, are not. -/
def isTag (byte : UInt8) : Bool :=
  if byte < 0x40 then universalTags.contains byte else byte % 32 != 31

/-- Whether a tag is of the class whose meaning depends on the context. -/
def isContextual (tag : UInt8) : Bool :=
  tag.toNat / 64 == 2

/-! ## Writing -/

def writeLength (length : Nat) : Bytes :=
  if length < 128 then [UInt8.ofNat length]
  else
    let digits := Bytes.ofNat length
    UInt8.ofNat (128 + digits.length) :: digits

def write (tag : UInt8) (contents : Bytes) : Bytes :=
  tag :: writeLength contents.length ++ contents

/-- The contents of an integer that is a natural number: its octets, with a zero in front where the
first one would make it negative. -/
def naturalContents (value : Nat) : Bytes :=
  match Bytes.ofNat value with
  | [] => [0]
  | first :: rest => if first < 0x80 then first :: rest else 0 :: first :: rest

def natural (value : Nat) : Bytes :=
  write integerTag (naturalContents value)

def sequence (values : List Bytes) : Bytes :=
  write sequenceTag values.flatten

/-! ## Reading -/

def maxLength : Nat := 0xFFFFFFF

/-- Reads a length in its shortest form. -/
def readLength? : Bytes → Option (Nat × Bytes)
  | [] => none
  | first :: rest =>
    if first < 0x80 then some (first.toNat, rest)
    else
      let count := first.toNat - 128
      let length := Bytes.toNat (rest.take count)
      if 1 ≤ count ∧ count ≤ 4 ∧ count ≤ rest.length ∧ length ≤ maxLength ∧
          writeLength length = first :: rest.take count then
        some (length, rest.drop count)
      else none

/-- A value that was read, and the octets behind it. -/
structure Read where
  tag : UInt8
  contents : Bytes
  rest : Bytes

def read? : Bytes → Option Read
  | [] => none
  | tag :: rest => do
    let (length, rest) ← readLength? rest
    if isTag tag && length ≤ rest.length then
      return ⟨tag, rest.take length, rest.drop length⟩
    else none

/-- Reads a value with a given tag at the front. -/
def readTag? (tag : UInt8) (bytes : Bytes) : Option (Bytes × Bytes) := do
  let value ← read? bytes
  if value.tag = tag then return (value.contents, value.rest) else none

/-- Reads a natural number at the front, in its shortest form. -/
def readNatural? (bytes : Bytes) : Option (Nat × Bytes) := do
  let (contents, rest) ← readTag? integerTag bytes
  let value := Bytes.toNat contents
  if naturalContents value = contents then return (value, rest) else none

end Der
end Possession

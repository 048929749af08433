import Possession.Json.Error
import Possession.Text.Utf8

/-!
# Lexemes of JSON

Blanks, words, numbers and quoted texts, read from the front of an octet string. Each reader answers
what it read together with the octets behind it.

Texts and numbers are read in two strengths. `readText` and `readNumber` give values and check what
a value needs: paired surrogates, UTF-8, range. `skipText` and `skipNumber` check the syntax alone.
-/

namespace Possession
namespace Json

/-! ## Blanks and words -/

/-- Space, tab, line feed and carriage return. -/
def isBlank (byte : UInt8) : Bool :=
  byte == 32 || byte == 9 || byte == 10 || byte == 13

/-- The octets from the first one on that is not blank. -/
def skipBlanks (bytes : Bytes) : Bytes :=
  bytes.dropWhile isBlank

/-- Reads the given octets one by one. -/
def skipWord : (word : Bytes) → (bytes : Bytes) → Except Error Bytes
  | [], bytes => .ok bytes
  | _ :: _, [] => .error .endInValue
  | expected :: word, byte :: bytes =>
    if byte = expected then skipWord word bytes else .error .wordExpected

/-- The octets of `null` behind its first letter. -/
def restOfNull : Bytes := [117, 108, 108]

/-- The octets of `true` behind its first letter. -/
def restOfTrue : Bytes := [114, 117, 101]

/-- The octets of `false` behind its first letter. -/
def restOfFalse : Bytes := [97, 108, 115, 101]

/-! ## Numbers -/

def isDigit (byte : UInt8) : Bool :=
  48 ≤ byte && byte ≤ 57

def digitValue (byte : UInt8) : Nat :=
  byte.toNat - 48

/-- A number: an integer of 64 bits, or anything else. -/
inductive Number where
  | integer (value : Int)
  | real (value : Real)

/-- Appends digits to a significand as long as it stays under `2 ^ 64`; answers the significand and
the number of digits it took. -/
def takeDigits : (significand : Nat) → (digits : Bytes) → Nat × Nat
  | significand, [] => (significand, 0)
  | significand, digit :: digits =>
    let next := significand * 10 + digitValue digit
    if next ≤ 0xffff_ffff_ffff_ffff then
      let (last, count) := takeDigits next digits
      (last, count + 1)
    else (significand, 0)

/-- The digits at the front, at least one of them, and the octets behind them. -/
def readDigits (bytes : Bytes) : Except Error (Bytes × Bytes) :=
  match bytes.takeWhile isDigit with
  | [] => .error (if bytes.isEmpty then .endInValue else .badNumber)
  | digits => .ok (digits, bytes.dropWhile isDigit)

/-- The digits before the point: a single zero, or digits that do not begin with one. -/
def readWhole (bytes : Bytes) : Except Error (Bytes × Bytes) := do
  let (digits, rest) ← readDigits bytes
  match digits with
  | 48 :: _ :: _ => throw .badNumber
  | _ => return (digits, rest)

/-- Keeps an exponent inside the range of 32-bit integers. -/
def clampExponent (exponent : Int) : Int :=
  max (-0x8000_0000) (min 0x7fff_ffff exponent)

/-- A real number within the range of doubles. -/
def boundedReal (real : Real) : Except Error Number :=
  if real.toFloat?.isSome then .ok (.real real) else .error .numberOutOfRange

/-- Reads the exponent behind `e`, if there is one, and makes the number. -/
def readExponent (negative : Bool) (significand : Nat) (exponent : Int) (bytes : Bytes) :
    Except Error (Number × Bytes) := do
  let withExponent (down : Bool) (rest : Bytes) : Except Error (Number × Bytes) := do
    let (digits, rest) ← readDigits rest
    let size := digits.foldl (fun value digit => value * 10 + digitValue digit) 0
    if size ≤ 0x7fff_ffff then
      let shift : Int := if down then -size else size
      return (← boundedReal ⟨negative, significand, clampExponent (exponent + shift)⟩, rest)
    else if significand ≠ 0 ∧ !down then throw .numberOutOfRange
    else return (.real ⟨negative, 0, 0⟩, rest)
  match bytes with
  | 101 :: 43 :: rest | 69 :: 43 :: rest => withExponent false rest
  | 101 :: 45 :: rest | 69 :: 45 :: rest => withExponent true rest
  | 101 :: rest | 69 :: rest => withExponent false rest
  | rest => return (← boundedReal ⟨negative, significand, exponent⟩, rest)

/-- The number of a significand without fraction and exponent. A negative zero is no integer. -/
def wholeNumber (negative : Bool) (significand : Nat) : Number :=
  if negative then
    if 0 < significand ∧ significand ≤ 0x8000_0000_0000_0000 then .integer (-significand)
    else .real ⟨true, significand, 0⟩
  else .integer significand

/-- Reads a number behind its sign. Digits that do not fit 64 bits count as powers of ten before the
point and not at all behind it. -/
def readMagnitude (negative : Bool) (bytes : Bytes) : Except Error (Number × Bytes) := do
  let (whole, rest) ← readWhole bytes
  let (significand, count) := takeDigits 0 whole
  let dropped : Int := whole.length - count
  match rest with
  | 46 :: rest =>
    let (fraction, rest) ← readDigits rest
    let (significand, count) := takeDigits significand fraction
    readExponent negative significand (dropped - count) rest
  | rest =>
    if dropped = 0 ∧ rest.head? ≠ some 101 ∧ rest.head? ≠ some 69 then
      return (wholeNumber negative significand, rest)
    else readExponent negative significand dropped rest

/-- Reads a number that begins with a sign or a digit. -/
def readNumber : Bytes → Except Error (Number × Bytes)
  | 45 :: rest => readMagnitude true rest
  | bytes => readMagnitude false bytes

/-- The octets behind at least one digit. -/
def skipDigits (bytes : Bytes) : Except Error Bytes :=
  if (bytes.takeWhile isDigit).isEmpty then .error .badNumber
  else .ok (bytes.dropWhile isDigit)

/-- The octets behind an exponent, if there is one. -/
def skipExponent : Bytes → Except Error Bytes
  | 101 :: 43 :: rest | 69 :: 43 :: rest => skipDigits rest
  | 101 :: 45 :: rest | 69 :: 45 :: rest => skipDigits rest
  | 101 :: rest | 69 :: rest => skipDigits rest
  | rest => .ok rest

/-- The octets behind a number whose sign has been read. -/
def skipMagnitude (bytes : Bytes) : Except Error Bytes := do
  let rest ← skipDigits bytes
  match bytes.takeWhile isDigit with
  | 48 :: _ :: _ => throw .badNumber
  | _ =>
    match rest with
    | 46 :: rest => skipExponent (← skipDigits rest)
    | rest => skipExponent rest

/-! ## Texts -/

def hexValue? (byte : UInt8) : Option Nat :=
  if isDigit byte then some (byte.toNat - 48)
  else if 97 ≤ byte ∧ byte ≤ 102 then some (byte.toNat - 87)
  else if 65 ≤ byte ∧ byte ≤ 70 then some (byte.toNat - 55)
  else none

def unit? (a b c d : UInt8) : Option Nat := do
  return (← hexValue? a) * 4096 + (← hexValue? b) * 256 + (← hexValue? c) * 16 + (← hexValue? d)

/-- The octet that a backslash and a letter stand for. -/
def escaped? (byte : UInt8) : Option UInt8 :=
  match byte with
  | 34 => some 34
  | 92 => some 92
  | 47 => some 47
  | 98 => some 8
  | 102 => some 12
  | 110 => some 10
  | 114 => some 13
  | 116 => some 9
  | _ => none

/-- Whether a code unit is the first half of a surrogate pair. -/
def isHighSurrogate (unit : Nat) : Bool :=
  0xD800 ≤ unit && unit < 0xDC00

/-- Whether a code unit is the second half of a surrogate pair. -/
def isLowSurrogate (unit : Nat) : Bool :=
  0xDC00 ≤ unit && unit < 0xE000

/-- The code point of a surrogate pair. -/
def joinSurrogates (high low : Nat) : Nat :=
  0x10000 + (high - 0xD800) * 1024 + (low - 0xDC00)

def prepend (front : Bytes) (reading : Except Error (Bytes × Bytes)) :
    Except Error (Bytes × Bytes) :=
  reading.map fun (bytes, rest) => (front ++ bytes, rest)

/-- The octets of the character with a given code point. -/
def characterBytes (code : Nat) : Bytes :=
  String.utf8EncodeChar (Char.ofNat code)

/-- Reads the octets of a text behind its opening quote, escapes resolved. -/
def readTextBytes : Bytes → Except Error (Bytes × Bytes)
  | [] => .error .endInText
  | 34 :: rest => .ok ([], rest)
  | 92 :: 117 :: a :: b :: c :: d :: rest =>
    match unit? a b c d with
    | none => .error .badEscape
    | some unit =>
      if isLowSurrogate unit then .error .loneSurrogate
      else if isHighSurrogate unit then
        match rest with
        | 92 :: 117 :: a :: b :: c :: d :: rest =>
          match unit? a b c d with
          | none => .error .badEscape
          | some low =>
            if isLowSurrogate low then
              prepend (characterBytes (joinSurrogates unit low)) (readTextBytes rest)
            else .error .loneSurrogate
        | [] | [92] | 92 :: 117 :: _ => .error .endInText
        | _ => .error .unpairedSurrogate
      else prepend (characterBytes unit) (readTextBytes rest)
  | 92 :: 117 :: _ => .error .endInText
  | [92] => .error .endInText
  | 92 :: letter :: rest =>
    match escaped? letter with
    | some byte => prepend [byte] (readTextBytes rest)
    | none => .error .badEscape
  | byte :: rest =>
    if byte < 32 then .error .controlCharacter else prepend [byte] (readTextBytes rest)

def readText (bytes : Bytes) : Except Error (String × Bytes) := do
  let (content, rest) ← readTextBytes bytes
  match Utf8.decode? content with
  | some text => return (text, rest)
  | none => throw .badCharacter

/-- The octets behind a text whose opening quote has been read. -/
def skipText : Bytes → Except Error Bytes
  | [] => .error .endInText
  | 34 :: rest => .ok rest
  | 92 :: 117 :: a :: b :: c :: d :: rest =>
    if (unit? a b c d).isSome then skipText rest else .error .badEscape
  | 92 :: 117 :: _ => .error .endInText
  | [92] => .error .endInText
  | 92 :: letter :: rest =>
    if (escaped? letter).isSome then skipText rest else .error .badEscape
  | byte :: rest =>
    if byte < 32 then .error .controlCharacter else skipText rest

end Json
end Possession

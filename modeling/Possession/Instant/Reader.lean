import Possession.Instant.Printer
import Possession.Text.Ascii
import Possession.Text.Blank
import Possession.Text.Digits

/-!
# Reading instants

A date, a `T` or a space, a time and a zone. Numbers need not be padded, years of more than four
digits must have a sign, blanks may stand before each number, before each hyphen and colon, and
around the whole, and the zone is `Z`, `UTC` or an offset. Reading goes from the front, so of
several faults the first one is reported; whether the day exists is asked at the end.
-/

namespace Possession
namespace Instant

/-- Why a text is no instant. -/
inductive Fault where
  /-- A character that may not stand where it does. -/
  | invalid
  | outOfRange
  | tooShort
  | tooLong
  /-- A day and time that the offset moves beyond the calendar. -/
  | impossible
  deriving DecidableEq, Repr

def Fault.message : Fault → String
  | .invalid => "input contains invalid characters"
  | .outOfRange => "input is out of range"
  | .tooShort => "premature end of input"
  | .tooLong => "trailing input"
  | .impossible => "no possible date and time matching input"

/-! ## Parts -/

/-- The text behind the blanks at its front. -/
def skipBlanks (chars : List Char) : List Char :=
  chars.dropWhile Text.isBlank

/-- Reads a number of one to `most` digits. -/
def readDigits (most : Nat) (chars : List Char) : Except Fault (List Char × List Char) :=
  match (chars.take most).takeWhile Char.isDigit with
  | [] => .error (if chars.isEmpty then .tooShort else .invalid)
  | digits => .ok (digits, chars.drop digits.length)

/-- Reads a number of at most two digits from `low` to `high`, blanks before it. -/
def readField (low high : Nat) (chars : List Char) : Except Fault (Nat × List Char) := do
  let (digits, rest) ← readDigits 2 (skipBlanks chars)
  let value := Digits.decimal digits
  if low ≤ value ∧ value ≤ high then return (value, rest) else throw .outOfRange

/-- The largest number that is read as a year. -/
def maxWritten : Nat := 0x7fff_ffff

/-- Reads a year: four digits at most, or a sign and any number of digits. -/
def readYear (chars : List Char) : Except Fault (Int × List Char) := do
  match skipBlanks chars with
  | '-' :: rest =>
    let (digits, rest) ← readDigits rest.length.succ rest
    let value := Digits.decimal digits
    if value ≤ maxWritten + 1 then return (-value, rest) else throw .outOfRange
  | '+' :: rest =>
    let (digits, rest) ← readDigits rest.length.succ rest
    let value := Digits.decimal digits
    if value ≤ maxWritten then return (value, rest) else throw .outOfRange
  | rest =>
    let (digits, rest) ← readDigits 4 rest
    return (Digits.decimal digits, rest)

/-- Reads a given character, blanks before it. -/
def readMark (mark : Char) (chars : List Char) : Except Fault (List Char) :=
  match skipBlanks chars with
  | [] => .error .tooShort
  | c :: rest => if c = mark then .ok rest else .error .invalid

/-- Reads the letter or space between date and time. -/
def readSeparator : List Char → Except Fault (List Char)
  | [] => .error .tooShort
  | c :: rest => if c = 'T' ∨ c = 't' ∨ c = ' ' then .ok rest else .error .invalid

/-- Reads the fraction of a second, if there is one, as nanoseconds. Digits behind the ninth are
dropped. -/
def readFraction : List Char → Except Fault (Nat × List Char)
  | '.' :: rest => do
    let (digits, rest) ← readDigits 9 rest
    return (Digits.decimal digits * Nat.pow 10 (9 - digits.length), rest.dropWhile Char.isDigit)
  | rest => .ok (0, rest)

/-- Reads two digits that must be there. A text that ends within them is too short. -/
def readPair (chars : List Char) : Except Fault (Nat × List Char) :=
  match chars with
  | [] => .error .tooShort
  | [c] => .error (if Ascii.isAscii c then .tooShort else .invalid)
  | tens :: ones :: rest =>
    if tens.isDigit && ones.isDigit then .ok (Digits.decimal [tens, ones], rest)
    else .error .invalid

/-- Reads hours and minutes of an offset, as seconds. Colons and blanks may stand between them. -/
def readOffset (chars : List Char) : Except Fault (Nat × List Char) := do
  let (hours, rest) ← readPair chars
  let (minutes, rest) ← readPair (rest.dropWhile fun c => c == ':' || Text.isBlank c)
  if minutes < 60 then return (hours * 3600 + minutes * 60, rest) else throw .outOfRange

/-- Reads a zone as the seconds it is ahead of universal time. -/
def readZone (chars : List Char) : Except Fault (Int × List Char) :=
  if Ascii.eqIgnoringCase (String.ofList (chars.take 3)) "utc" then .ok (0, chars.drop 3)
  else
    match chars with
    | [] => .error .tooShort
    | 'Z' :: rest | 'z' :: rest => .ok (0, rest)
    | '+' :: rest => (readOffset rest).map fun (offset, rest) => (Int.ofNat offset, rest)
    | '-' :: rest | '\u2212' :: rest =>
      (readOffset rest).map fun (offset, rest) => (-Int.ofNat offset, rest)
    | _ => .error .invalid

/-! ## Whole instants -/

/-- The instant of a local day and time. A second number sixty is a leap second. -/
def ofLocal (moment : Moment) (nanos : Nat) (offset : Int) : Except Fault Instant :=
  let date := moment.date
  if !Date.inCalendar date.year || Date.monthLength date.year date.month < date.day then
    .error .outOfRange
  else if 86400 ≤ offset.natAbs then .error .outOfRange
  else
    let leap := moment.second = 60
    let seconds := moment.toSeconds - offset - if leap then 1 else 0
    if Date.inCalendar (Moment.ofSeconds seconds).date.year then
      .ok ⟨seconds, if leap then nanos + nanosPerSecond else nanos⟩
    else .error .impossible

def parseChars (chars : List Char) : Except Fault Instant := do
  let (year, rest) ← readYear chars
  let (month, rest) ← readField 1 12 (← readMark '-' rest)
  let (day, rest) ← readField 1 31 (← readMark '-' rest)
  let (hour, rest) ← readField 0 23 (← readSeparator rest)
  let (minute, rest) ← readField 0 59 (← readMark ':' rest)
  let (second, rest) ← readField 0 60 (← readMark ':' rest)
  let (nanos, rest) ← readFraction rest
  let (offset, rest) ← readZone (skipBlanks rest)
  if !(skipBlanks rest).isEmpty then throw .tooLong
  ofLocal ⟨⟨year, month, day⟩, hour, minute, second⟩ nanos offset

def parse (text : String) : Except Fault Instant :=
  parseChars text.toList

end Instant
end Possession

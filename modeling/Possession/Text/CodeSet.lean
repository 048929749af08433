/-!
# Sets of code points

A set of code points as a list of closed ranges, written compactly as a text: ranges are separated
by blanks, and each is one hexadecimal code point or two joined by a hyphen.
-/

namespace Possession
namespace Text

/-- A closed range of code points. -/
structure CodeRange where
  first : Nat
  last : Nat

/-- A set of code points as a union of ranges. -/
abbrev CodeSet := Array CodeRange

/-- The value of a hexadecimal digit; anything else counts as zero. -/
def hexValue (c : Char) : Nat :=
  if c.toNat < 58 then c.toNat - 48 else c.toNat % 32 + 9

/-- The number a list of hexadecimal digits denotes. -/
def hexNumber (digits : List Char) : Nat :=
  digits.foldl (fun value c => value * 16 + hexValue c) 0

/-- The maximal runs of characters that do not satisfy `separator`. -/
def fields (separator : Char → Bool) (chars : List Char) : List (List Char) :=
  (chars.foldr
    (fun c (runs : List (List Char)) =>
      if separator c then [] :: runs
      else
        match runs with
        | run :: rest => (c :: run) :: rest
        | [] => [[c]])
    [[]]).filter (fun run => !run.isEmpty)

/-- Whether a character separates the entries of a table. -/
def isGap (c : Char) : Bool :=
  c == ' ' || c == '\n'

def CodeRange.ofChars (chars : List Char) : CodeRange :=
  let first := chars.takeWhile (· != '-')
  match chars.drop (first.length + 1) with
  | [] => ⟨hexNumber first, hexNumber first⟩
  | last => ⟨hexNumber first, hexNumber last⟩

def CodeSet.ofText (text : String) : CodeSet :=
  ((fields isGap text.toList).map CodeRange.ofChars).toArray

def CodeSet.contains (set : CodeSet) (code : Nat) : Bool :=
  set.any fun range => range.first ≤ code && code ≤ range.last

end Text
end Possession

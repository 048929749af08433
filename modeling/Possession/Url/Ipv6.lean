import Possession.Text.Digits

/-!
# Addresses of 128 bits

Eight groups of up to four hexadecimal digits joined by colons. A double colon stands once for one
or more groups of zeros, and the last two groups may be written as four decimal numbers.
-/

namespace Possession
namespace Url
namespace Ipv6

/-- The groups read so far: those before the double colon, and those behind it once it has been
met. -/
structure Groups where
  before : List Nat
  after : Option (List Nat)

/-- How many of the eight groups are taken; the double colon takes at least one. -/
def Groups.count (groups : Groups) : Nat :=
  groups.before.length + (groups.after.map (·.length + 1)).getD 0

def Groups.push (groups : Groups) (group : Nat) : Groups :=
  match groups.after with
  | none => { groups with before := groups.before ++ [group] }
  | some after => { groups with after := some (after ++ [group]) }

/-- The address, its double colon filled up. -/
def Groups.address? (groups : Groups) : Option (List Nat) :=
  match groups.after with
  | none => if groups.before.length = 8 then some groups.before else none
  | some after =>
    if groups.count ≤ 8 then
      some (groups.before ++ List.replicate (8 - groups.before.length - after.length) 0 ++ after)
    else none

/-- Reads a decimal number under 256 without leading zeros. -/
def octet? (digits : List Char) : Option Nat :=
  match digits with
  | [] => none
  | '0' :: _ :: _ => none
  | digits => do
    let value ← Digits.number? 10 digits
    if value < 256 then some value else none

def decimalGroups? (chars : List Char) : Option (Nat × Nat) := do
  match ← (chars.splitOn '.').mapM octet? with
  | [a, b, c, d] => some (a * 256 + b, c * 256 + d)
  | _ => none

/-- Reads groups to the end of the text. Every step consumes a character, so the number of
characters is fuel enough. -/
def readGroups : (fuel : Nat) → Groups → List Char → Option Groups
  | _, groups, [] => some groups
  | 0, _, _ => none
  | fuel + 1, groups, chars =>
    if groups.count = 8 then none
    else
      match chars with
      | ':' :: rest =>
        if groups.after.isSome then none
        else readGroups fuel { groups with after := some [] } rest
      | _ =>
        let digits := (chars.take 4).takeWhile fun c => (Digits.valueIn? 16 c).isSome
        let value := (Digits.number? 16 digits).getD 0
        match chars.drop digits.length with
        | [] => some (groups.push value)
        | '.' :: _ =>
          if digits.isEmpty || 6 < groups.count then none
          else (decimalGroups? chars).map fun (first, second) => (groups.push first).push second
        | ':' :: rest => if rest.isEmpty then none else readGroups fuel (groups.push value) rest
        | _ => none

/-- The address that a text between brackets denotes. -/
def parse? (chars : List Char) : Option (List Nat) :=
  match chars with
  | ':' :: ':' :: rest => (readGroups rest.length ⟨[], some []⟩ rest).bind Groups.address?
  | ':' :: _ | [] | [_] => none
  | chars => (readGroups chars.length ⟨[], none⟩ chars).bind Groups.address?

end Ipv6
end Url
end Possession

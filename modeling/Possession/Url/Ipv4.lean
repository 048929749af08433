import Possession.Text.Digits

/-!
# Addresses of 32 bits

A host whose last part is a number is an address: up to four numbers joined by dots, each decimal,
octal behind a zero, or hexadecimal behind `0x`. All but the last fill one octet each, and the last
one fills the rest.
-/

namespace Possession
namespace Url
namespace Ipv4

/-- The number a part denotes, whatever its size. -/
def part? : List Char → Option Nat
  | [] => none
  | '0' :: 'x' :: digits | '0' :: 'X' :: digits => Digits.number? 16 digits
  | '0' :: digit :: digits => Digits.number? 8 (digit :: digits)
  | digits => Digits.number? 10 digits

/-- The parts without an empty one at the end. -/
def dropEmptyLast (parts : List (List Char)) : List (List Char) :=
  if parts.getLast? = some [] then parts.dropLast else parts

/-- Whether the last part of a host is a number. -/
def endsInNumber (host : List Char) : Bool :=
  match (dropEmptyLast (host.splitOn '.')).getLast? with
  | none => false
  | some last => (!last.isEmpty && last.all Char.isDigit) || (part? last).isSome

def parse? (host : List Char) : Option Nat := do
  let parts := dropEmptyLast (host.splitOn '.')
  let numbers ← parts.mapM part?
  let last ← numbers.getLast?
  let front := numbers.dropLast
  if 3 < front.length || front.any (255 < ·) || Nat.pow 256 (4 - front.length) ≤ last then none
  else
    some (front.foldl (fun value number => value * 256 + number) 0 * Nat.pow 256 (4 - front.length)
      + last)

end Ipv4
end Url
end Possession

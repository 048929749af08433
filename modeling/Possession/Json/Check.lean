import Possession.Json.Record

/-!
# Checking values of any kind

Whether an octet string is one JSON value whose numbers are in range and whose lists and records
are nested at most 127 deep, and the first fault when it is not.
-/

namespace Possession
namespace Json

mutual

/-- The octets behind a value that lies inside `depth` more levels at most. -/
def checkValue : (fuel : Nat) → (depth : Nat) → Bytes → Except Error Bytes
  | 0, _, _ => .error .tooDeep
  | fuel + 1, depth, bytes =>
    match skipBlanks bytes with
    | 110 :: rest => skipWord restOfNull rest
    | 116 :: rest => skipWord restOfTrue rest
    | 102 :: rest => skipWord restOfFalse rest
    | 34 :: rest => (readText rest).map (·.2)
    | 91 :: rest => if depth = 0 then .error .tooDeep else checkItems fuel (depth - 1) true rest
    | 123 :: rest => if depth = 0 then .error .tooDeep else checkMembers fuel (depth - 1) true rest
    | byte :: rest =>
      if byte = 45 ∨ isDigit byte then (readNumber (byte :: rest)).map (·.2)
      else .error .valueExpected
    | [] => .error .endInValue

/-- The octets behind a list, from one of its items on. -/
def checkItems : (fuel : Nat) → (depth : Nat) → (first : Bool) → Bytes → Except Error Bytes
  | 0, _, _, _ => .error .tooDeep
  | fuel + 1, depth, first, bytes => do
    let (more, rest) ← itemAhead first bytes
    if more then
      let rest ← checkValue fuel depth rest
      checkItems fuel depth false rest
    else endList rest

/-- The octets behind a record, from one of its members on. -/
def checkMembers : (fuel : Nat) → (depth : Nat) → (first : Bool) → Bytes → Except Error Bytes
  | 0, _, _, _ => .error .tooDeep
  | fuel + 1, depth, first, bytes => do
    let (more, rest) ← memberAhead first bytes
    if more then
      let (_, rest) ← readText rest
      let rest ← skipColon rest
      let rest ← checkValue fuel depth rest
      checkMembers fuel depth false rest
    else return rest

end

/-- The first fault of an octet string that should be one JSON value. -/
def fault? (bytes : Bytes) : Option Error :=
  match checkValue (2 * bytes.length + 2) 127 bytes with
  | .error fault => some fault
  | .ok rest => if (skipBlanks rest).isEmpty then none else some .trailingCharacters

end Json
end Possession

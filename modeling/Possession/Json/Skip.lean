import Possession.Json.Lexeme

/-!
# Skipping values

A value that no record asks for must be well formed but is not looked into: its depth is not
limited, its numbers may be of any size and its texts need be neither UTF-8 nor paired surrogates.

Fuel bounds the recursion. A value and the list or record around it take at most two units for each
octet they consume, so `skipOne`, which starts from twice the number of octets, never runs out.
-/

namespace Possession
namespace Json

def skipColon (bytes : Bytes) : Except Error Bytes :=
  match skipBlanks bytes with
  | 58 :: rest => .ok rest
  | [] => .error .endInRecord
  | _ => .error .colonExpected

mutual

/-- The octets behind a value. -/
def skipValue : (fuel : Nat) → Bytes → Except Error Bytes
  | 0, _ => .error .tooDeep
  | fuel + 1, bytes =>
    match skipBlanks bytes with
    | [] => .error .endInValue
    | 110 :: rest => skipWord restOfNull rest
    | 116 :: rest => skipWord restOfTrue rest
    | 102 :: rest => skipWord restOfFalse rest
    | 45 :: rest => skipMagnitude rest
    | 34 :: rest => skipText rest
    | 91 :: rest =>
      match skipBlanks rest with
      | [] => .error .endInList
      | 93 :: rest => .ok rest
      | rest => skipItems fuel rest
    | 123 :: rest =>
      match skipBlanks rest with
      | [] => .error .endInRecord
      | 125 :: rest => .ok rest
      | rest => skipMembers fuel rest
    | byte :: rest =>
      if isDigit byte then skipMagnitude (byte :: rest) else .error .valueExpected

/-- The octets behind a list at one of its items. -/
def skipItems : (fuel : Nat) → Bytes → Except Error Bytes
  | 0, _ => .error .tooDeep
  | fuel + 1, bytes => do
    let rest ← skipValue fuel bytes
    match skipBlanks rest with
    | 44 :: rest => skipItems fuel rest
    | 93 :: rest => return rest
    | [] => throw .endInList
    | _ => throw .listSeparatorExpected

/-- The octets behind a record at one of its members. -/
def skipMembers : (fuel : Nat) → Bytes → Except Error Bytes
  | 0, _ => .error .tooDeep
  | fuel + 1, bytes =>
    match skipBlanks bytes with
    | [] => .error .endInRecord
    | 34 :: rest => do
      let rest ← skipText rest
      let rest ← skipColon rest
      let rest ← skipValue fuel rest
      match skipBlanks rest with
      | 44 :: rest => skipMembers fuel rest
      | 125 :: rest => return rest
      | [] => throw .endInRecord
      | _ => throw .recordSeparatorExpected
    | _ => .error .nameNotText

end

/-- The octets behind the value at the front. -/
def skipOne (bytes : Bytes) : Except Error Bytes :=
  skipValue (2 * bytes.length + 2) bytes

end Json
end Possession

/-!
# Writing JSON

The compact text of values: no blanks, members in the order given, and in texts no escapes but for
the quote, the backslash and the controls below the space.
-/

namespace Possession
namespace Json

def controlDigits (c : Char) : List Char :=
  (if c.toNat < 16 then ['0'] else []) ++ Nat.toDigits 16 c.toNat

/-- A character as it stands in a written text. -/
def writeChar (c : Char) : List Char :=
  if c == '"' then ['\\', '"']
  else if c == '\\' then ['\\', '\\']
  else if c == '\x08' then ['\\', 'b']
  else if c == '\t' then ['\\', 't']
  else if c == '\n' then ['\\', 'n']
  else if c == '\x0c' then ['\\', 'f']
  else if c == '\r' then ['\\', 'r']
  else if c.toNat < 32 then ['\\', 'u', '0', '0'] ++ controlDigits c
  else [c]

def writeText (text : String) : String :=
  String.ofList ('"' :: text.toList.flatMap writeChar ++ ['"'])

def writeFlag (value : Bool) : String :=
  if value then "true" else "false"

/-- A member of a written record: its name and its written value. -/
def writeMember (member : String × String) : String :=
  writeText member.1 ++ ":" ++ member.2

/-- The written form of a record, from its members in order. -/
def writeRecord (members : List (String × String)) : String :=
  "\x7b" ++ ",".intercalate (members.map writeMember) ++ "\x7d"

end Json
end Possession

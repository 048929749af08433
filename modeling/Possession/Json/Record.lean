import Possession.Json.Skip

/-!
# Reading records

A record is described by its members in order, each with a name, a reader and what stands for it
when it is absent. It is read from a JSON object, or from a JSON list that holds the members in
order. Members of other names are skipped; a member may occur once.

Reading goes through the text once from its front, so of several faults the first one is reported.
A fault of the record as a whole, such as a missing member, counts where the record ends.
-/

namespace Possession
namespace Json

/-- A value that was read. -/
inductive Value where
  | null
  | flag (value : Bool)
  | integer (value : Int)
  | text (value : String)
  | record (members : List Value)

/-- Reads one value from the front of an octet string. -/
abbrev Reader := Bytes → Except Error (Value × Bytes)

/-! ## Scalars -/

/-- What a number is called in messages. -/
def Number.found : Number → Found
  | .integer value => .integer value
  | .real value => .real value

/-- The fault of a value of the wrong kind. The value is read first, if it is no list and no
record, and its own fault goes before. -/
def wrongKind (expected : String) (bytes : Bytes) : Error :=
  let word (rest : Except Error Bytes) (found : Found) : Error :=
    match rest with
    | .ok _ => .wrongType found expected
    | .error fault => fault
  match bytes with
  | [] => .endInValue
  | 110 :: rest => word (skipWord restOfNull rest) .null
  | 116 :: rest => word (skipWord restOfTrue rest) (.flag true)
  | 102 :: rest => word (skipWord restOfFalse rest) (.flag false)
  | 34 :: rest =>
    match readText rest with
    | .ok (text, _) => .wrongType (.text text) expected
    | .error fault => fault
  | 91 :: _ => .wrongType .sequence expected
  | 123 :: _ => .wrongType .record expected
  | byte :: rest =>
    if byte = 45 ∨ isDigit byte then
      match readNumber (byte :: rest) with
      | .ok (number, _) => .wrongType number.found expected
      | .error fault => fault
    else .valueExpected

/-- Reads a text that `refuse` has nothing against. -/
def readTextThat (expected : String) (refuse : String → Option String) : Reader := fun bytes =>
  match skipBlanks bytes with
  | 34 :: rest => do
    let (text, rest) ← readText rest
    match refuse text with
    | none => return (.text text, rest)
    | some reason => throw (.refused reason)
  | bytes => .error (wrongKind expected bytes)

def readAnyText : Reader :=
  readTextThat "a string" fun _ => none

/-- Reads an integer from `low` to `high`. -/
def readInteger (expected : String) (low high : Int) : Reader := fun bytes =>
  let bytes := skipBlanks bytes
  match bytes with
  | byte :: _ =>
    if byte = 45 ∨ isDigit byte then do
      let (number, rest) ← readNumber bytes
      match number with
      | .integer value =>
        if low ≤ value ∧ value ≤ high then return (.integer value, rest)
        else throw (.wrongValue (.integer value) expected)
      | .real value => throw (.wrongType (.real value) expected)
    else .error (wrongKind expected bytes)
  | [] => .error .endInValue

/-- Reads `true` or `false`. -/
def readFlag : Reader := fun bytes =>
  match skipBlanks bytes with
  | 116 :: rest => (skipWord restOfTrue rest).map fun rest => (.flag true, rest)
  | 102 :: rest => (skipWord restOfFalse rest).map fun rest => (.flag false, rest)
  | bytes => .error (wrongKind "a boolean" bytes)

/-- Reads `null`, or what another reader reads. -/
def readNullable (reader : Reader) : Reader := fun bytes =>
  match skipBlanks bytes with
  | 110 :: rest => (skipWord restOfNull rest).map fun rest => (.null, rest)
  | bytes => reader bytes

/-! ## Lists and objects -/

/-- Whether a further item of a list follows, and the octets at it or at the end of the list. -/
def itemAhead (first : Bool) (bytes : Bytes) : Except Error (Bool × Bytes) :=
  match skipBlanks bytes with
  | [] => .error .endInList
  | 93 :: rest => .ok (false, 93 :: rest)
  | byte :: rest =>
    if first then .ok (true, byte :: rest)
    else if byte = 44 then
      match skipBlanks rest with
      | [] => .error .endInValue
      | 93 :: _ => .error .trailingComma
      | rest => .ok (true, rest)
    else .error .listSeparatorExpected

/-- The octets behind the end of a list that must end here. -/
def endList (bytes : Bytes) : Except Error Bytes :=
  match skipBlanks bytes with
  | [] => .error .endInList
  | 93 :: rest => .ok rest
  | 44 :: rest =>
    match skipBlanks rest with
    | 93 :: _ => .error .trailingComma
    | _ => .error .trailingCharacters
  | _ => .error .trailingCharacters

/-- Whether a further member of an object follows, and the octets behind the opening quote of its
name or behind the end of the object. -/
def memberAhead (first : Bool) (bytes : Bytes) : Except Error (Bool × Bytes) :=
  match skipBlanks bytes with
  | [] => .error .endInRecord
  | 125 :: rest => .ok (false, rest)
  | byte :: rest =>
    if first then if byte = 34 then .ok (true, rest) else .error .nameNotText
    else if byte = 44 then
      match skipBlanks rest with
      | [] => .error .endInValue
      | 34 :: rest => .ok (true, rest)
      | 125 :: _ => .error .trailingComma
      | _ => .error .nameNotText
    else .error .recordSeparatorExpected

/-! ## Records -/

/-- A member of a record: its name, how it is read, and the value that stands for it when it is
absent, if it may be. -/
structure Member where
  name : String
  read : Reader
  absent : Option Value

/-- A record: what it is called in messages, and its members in order. -/
structure Shape where
  name : String
  members : List Member

/-- What messages say they want when they meet something else. -/
def Shape.expected (shape : Shape) : String :=
  s!"struct {shape.name}"

/-- What messages say they want of a list. -/
def Shape.expectedItems (shape : Shape) : String :=
  let count := shape.members.length
  let noun := if count = 1 then "element" else "elements"
  s!"struct {shape.name} with {count} {noun}"

/-- Reads the items of a list one after the other, `index` of them already read. -/
def readItems (expected : String) : (index : Nat) → List Member → Bytes →
    Except Error (List Value × Bytes)
  | _, [], bytes => .ok ([], bytes)
  | index, member :: members, bytes => do
    let (more, rest) ← itemAhead (index == 0) bytes
    if more then
      let (value, rest) ← member.read rest
      let (values, rest) ← readItems expected (index + 1) members rest
      return (value :: values, rest)
    else
      match member.absent with
      | some value =>
        let (values, rest) ← readItems expected (index + 1) members rest
        return (value :: values, rest)
      | none => throw (.wrongLength index expected)

/-- The values of a record's members read so far, in the order of the members. -/
abbrev Slots := List (Option Value)

/-- Reads the members of an object into their slots. Every member consumes octets, so the number
of octets is fuel enough. -/
def readMembers (members : List Member) : (fuel : Nat) → (first : Bool) → Slots → Bytes →
    Except Error (Slots × Bytes)
  | 0, _, _, _ => .error .tooDeep
  | fuel + 1, first, slots, bytes => do
    let (more, rest) ← memberAhead first bytes
    if !more then return (slots, rest)
    let (name, rest) ← readText rest
    match members.findIdx? (·.name == name) with
    | none =>
      let rest ← skipOne (← skipColon rest)
      readMembers members fuel false slots rest
    | some index =>
      if ((slots[index]?).bind id).isSome then throw (.duplicateMember name)
      let rest ← skipColon rest
      match members[index]? with
      | none => throw (.missingMember name)
      | some member =>
        let (value, rest) ← member.read rest
        readMembers members fuel false (slots.set index (some value)) rest

/-- Fills the slots that are still empty with what stands for their members. -/
def fillSlots : List Member → Slots → Except Error (List Value)
  | member :: members, slot :: slots => do
    match slot, member.absent with
    | some value, _ | none, some value => return value :: (← fillSlots members slots)
    | none, none => throw (.missingMember member.name)
  | _, _ => .ok []

def Shape.read (shape : Shape) : Reader := fun bytes =>
  match skipBlanks bytes with
  | 91 :: rest => do
    let (values, rest) ← readItems shape.expectedItems 0 shape.members rest
    return (.record values, ← endList rest)
  | 123 :: rest => do
    let slots := shape.members.map fun _ => none
    let (slots, rest) ← readMembers shape.members (rest.length + 1) true slots rest
    return (.record (← fillSlots shape.members slots), rest)
  | bytes => .error (wrongKind shape.expected bytes)

/-! ## Whole texts -/

/-- Reads an octet string that holds one value and nothing else but blanks. -/
def readWholeText (reader : Reader) (bytes : Bytes) : Except Error Value := do
  let (value, rest) ← reader bytes
  match skipBlanks rest with
  | [] => return value
  | _ => throw .trailingCharacters

end Json
end Possession

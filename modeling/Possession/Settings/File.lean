import Possession.Files.Fault
import Possession.Settings.Basic
import Possession.Text.Utf8
import Possession.Yaml.Node

/-!
# Settings from files

Settings read from a YAML document. Each part of a document is understood by what is wanted in its
place: a text, a number, a truth value, a mapping with known members. Members of other names are
passed over; a known one may occur once.
-/

namespace Possession
namespace Settings

open Yaml

/-- Reads a node as something. -/
abbrev NodeReader (α : Type) : Type :=
  Document → Node → Option α

/-! ## Scalars -/

/-- The tag of a kind of values that the language itself knows. -/
def coreTag (kind : String) : String :=
  "tag:yaml.org,2002:" ++ kind

/-- Whether a plain text is that of nothing. -/
def isNull (text : String) : Bool :=
  ["null", "Null", "NULL", "~"].contains text

def readText : NodeReader String := fun document node =>
  match document.follow node with
  | .scalar _ _ text => some text
  | _ => none

/-- The text of a scalar that may be understood as a value of a kind: a plain one, or a literal one
that says so. -/
def valueText? (kind : String) (document : Document) (node : Node) : Option String :=
  match document.follow node with
  | .scalar _ .plain text => some text
  | .scalar (some tag) .literal text => if tag = coreTag kind then some text else none
  | _ => none

def readTruth : NodeReader Bool := fun document node => do
  let text ← valueText? "bool" document node
  if ["true", "True", "TRUE"].contains text then some true
  else if ["false", "False", "FALSE"].contains text then some false
  else none

/-- The number that digits denote in a base, at least one of them. -/
def numberIn? (base : Nat) (digits : List Char) : Option Nat :=
  if digits.isEmpty then none else Digits.number? base digits

/-- Whether a text is of digits only, with a zero before others. -/
def hasLeadingZero : List Char → Bool
  | '0' :: rest => !rest.isEmpty && rest.all Char.isDigit
  | _ => false

/-- Whether a sign begins a text. -/
def isSigned : List Char → Bool
  | '+' :: _ | '-' :: _ => true
  | _ => false

/-- The natural number that a text denotes: in base sixteen, eight or two behind `0x`, `0o` and
`0b`, otherwise in base ten without leading zeros. -/
def naturalOf? (text : String) : Option Nat :=
  let chars :=
    match text.toList with
    | '+' :: rest => rest
    | chars => chars
  let based :=
    match chars with
    | '0' :: 'x' :: rest => some (16, rest)
    | '0' :: 'o' :: rest => some (8, rest)
    | '0' :: 'b' :: rest => some (2, rest)
    | _ => none
  match based with
  | some (base, rest) => if isSigned rest then none else numberIn? base rest
  | none => if isSigned chars || hasLeadingZero chars then none else numberIn? 10 chars

def readNatural (limit : Nat) : NodeReader Nat := fun document node => do
  let value ← naturalOf? (← valueText? "int" document node)
  if value ≤ limit then some value else none

def readOptionalText : NodeReader (Option String) := fun document node =>
  match document.follow node with
  | .scalar none .plain text => some (if text.isEmpty || isNull text then none else some text)
  | .scalar (some tag) .plain text =>
    if tag = coreTag "null" then if isNull text then some none else none else some (some text)
  | .scalar _ _ text => some (some text)
  | _ => none

/-- Reads the name of a kind of store. The name may also stand as a tag of nothing. -/
def readStore : NodeReader StoreKind := fun document node =>
  match document.follow node with
  | .scalar tag style text =>
    match tag.map String.toList with
    | some ('!' :: name) =>
      if style = .plain && (text.isEmpty || isNull text) then
        StoreKind.ofName? (String.ofList name)
      else none
    | _ => StoreKind.ofName? text
  | _ => none

def readAlgorithm : NodeReader Algorithm := fun document node => do
  Algorithm.ofName? (← readText document node)

/-! ## Mappings -/

/-- The members of a mapping by their names. Nothing at all stands for no members. -/
def members? (document : Document) (node : Node) : Option (List (String × Node)) :=
  match document.follow node with
  | .mapping members => members.mapM fun (key, value) => do return (← readText document key, value)
  | .scalar _ .plain "" => some []
  | _ => none

/-- Reads a member that may be absent and may occur once. -/
def readMember {α : Type} (document : Document) (members : List (String × Node)) (name : String)
    (read : NodeReader α) (absent : α) : Option α :=
  match members.filter fun member => member.1 == name with
  | [] => some absent
  | [member] => read document member.2
  | _ => none

def readPolicy : NodeReader Policy := fun document node => do
  let members ← members? document node
  let absent := Policy.standard
  return {
    keySize := ← readMember document members "key_size_bits" (readNatural Policy.maxSize)
      absent.keySize
    minKeySize := ← readMember document members "min_key_size_bits" (readNatural Policy.maxSize)
      absent.minKeySize
    maxAttempts := ← readMember document members "max_attempts" (readNatural Policy.maxCount)
      absent.maxAttempts
    preferIsolation := ← readMember document members "prefer_hardware_isolation" readTruth
      absent.preferIsolation }

/-- Reads how requests are signed: the algorithm, and how long a caller waits. -/
def readSigning : NodeReader (Algorithm × Nat) := fun document node => do
  let members ← members? document node
  return (← readMember document members "algorithm" readAlgorithm standard.algorithm,
    ← readMember document members "blocking_timeout_secs" (readNatural maxTimeout)
      standard.timeoutSeconds)

def readSettings : NodeReader Settings := fun document node => do
  let members ← members? document node
  let (algorithm, timeoutSeconds) ← readMember document members "signing" readSigning
    (standard.algorithm, standard.timeoutSeconds)
  return {
    store := ← readMember document members "store" readStore standard.store
    keyDirectory := ← readMember document members "key_dir" readOptionalText none
    policy := ← readMember document members "key" readPolicy standard.policy
    algorithm, timeoutSeconds }

/-! ## Files -/

/-- Reads the settings of a document. An empty text sets nothing. -/
def ofYaml (text : String) : Except SettingsError Settings :=
  let settings := do
    let document ← Document.ofText? text
    readSettings document (document.root.getD Node.blank)
  match settings with
  | some settings => .ok settings
  | none => .error .malformed

def ofFile (contents : Except FileFault Bytes) : Except SettingsError Settings :=
  match contents with
  | .error fault => .error (.inputOutput fault.message)
  | .ok bytes =>
    match Utf8.decode? bytes with
    | none => .error (.inputOutput FileFault.notText.message)
    | some text => ofYaml text

end Settings
end Possession

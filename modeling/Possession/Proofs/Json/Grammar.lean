import Possession.Proofs.Json.Text

/-!
# The grammar of JSON

Which octets are a JSON value, said without reading them. A value is seen as a tree, which keeps the
numbers and texts as they are written; blanks may stand around every value and every name.

* `Writes` relates trees to the octets in which they may be written.
* `Spells` relates what stands between two quotes to the octets that it stands for. A text that
  spells nothing, such as half a surrogate pair, is a value all the same.
* `Tree.IsRecord` says which trees stand for a record: an object that has its fields as members, or
  a list that has them in order.
-/

namespace Possession
namespace Json

/-! ## Blanks and numbers -/

/-- Whether octets are blanks, or none at all. -/
def Blanks (bytes : Bytes) : Prop :=
  ∀ byte ∈ bytes, isBlank byte = true

/-- Whether octets are digits, one at least. -/
def Digits (bytes : Bytes) : Prop :=
  bytes ≠ [] ∧ ∀ byte ∈ bytes, isDigit byte = true

/-- Digits that do not begin with a zero, or a single zero. -/
def Whole (bytes : Bytes) : Prop :=
  Digits bytes ∧ ∀ digits, bytes = 48 :: digits → digits = []

/-- A point and digits, or nothing. -/
inductive Fraction : Bytes → Prop where
  | none : Fraction []
  | some {digits : Bytes} : Digits digits → Fraction (46 :: digits)

/-- The letter `e` in either case, a sign or none, and digits; or nothing. -/
inductive Exponent : Bytes → Prop where
  | none : Exponent []
  | some {letter : UInt8} {sign digits : Bytes} : letter = 101 ∨ letter = 69 →
      sign = [] ∨ sign = [43] ∨ sign = [45] → Digits digits → Exponent (letter :: (sign ++ digits))

/-- A number, of whatever size. -/
inductive Numeral : Bytes → Prop where
  | mk {sign whole fraction exponent : Bytes} : sign = [] ∨ sign = [45] → Whole whole →
      Fraction fraction → Exponent exponent →
      Numeral (sign ++ (whole ++ (fraction ++ exponent)))

/-- The number that digits denote. -/
def decimal (digits : Bytes) : Nat :=
  digits.foldl (fun number digit => number * 10 + digitValue digit) 0

/-- A number without fraction and exponent, with the integer that it denotes. A minus sign in front
of zero denotes no integer. -/
inductive IntegerLiteral : Bytes → Int → Prop where
  | plain {digits : Bytes} : Whole digits → IntegerLiteral digits (decimal digits)
  | negative {digits : Bytes} : Whole digits → 0 < decimal digits →
      IntegerLiteral (45 :: digits) (-decimal digits)

/-! ## Texts -/

/-- What may stand between two quotes: octets that stand for themselves, and escapes. -/
inductive Quotable : Bytes → Prop where
  | nil : Quotable []
  | plain {byte : UInt8} {rest : Bytes} : IsPlain byte → Quotable rest → Quotable (byte :: rest)
  | letter {letter : UInt8} {rest : Bytes} : (escaped? letter).isSome → Quotable rest →
      Quotable (92 :: letter :: rest)
  | unit {a b c d : UInt8} {rest : Bytes} : (unit? a b c d).isSome → Quotable rest →
      Quotable (92 :: 117 :: a :: b :: c :: d :: rest)

/-- What stands between two quotes, and the octets that it stands for. A code unit is that of a
character, or it is half a pair and the other half follows. -/
inductive Spells : Bytes → Bytes → Prop where
  | nil : Spells [] []
  | plain {byte : UInt8} {rest content : Bytes} : IsPlain byte → Spells rest content →
      Spells (byte :: rest) (byte :: content)
  | letter {letter byte : UInt8} {rest content : Bytes} : escaped? letter = some byte →
      Spells rest content → Spells (92 :: letter :: rest) (byte :: content)
  | unit {a b c d : UInt8} {code : Nat} {rest content : Bytes} : unit? a b c d = some code →
      isHighSurrogate code = false → isLowSurrogate code = false → Spells rest content →
      Spells (92 :: 117 :: a :: b :: c :: d :: rest) (characterBytes code ++ content)
  | pair {a b c d e f g h : UInt8} {high low : Nat} {rest content : Bytes} :
      unit? a b c d = some high → isHighSurrogate high = true → unit? e f g h = some low →
      isLowSurrogate low = true → Spells rest content →
      Spells (92 :: 117 :: a :: b :: c :: d :: 92 :: 117 :: e :: f :: g :: h :: rest)
        (characterBytes (joinSurrogates high low) ++ content)

/-- What stands between the quotes of a text: its octets are spelled. -/
def SpellsText (body : Bytes) (text : String) : Prop :=
  Spells body (Utf8.encode text)

/-! ## Values -/

/-- A value as it is written, without the blanks in it. Numbers are kept as they are, and of texts
and of names what stands between the quotes. -/
inductive Tree where
  | null
  | flag (value : Bool)
  | number (numeral : Bytes)
  | text (body : Bytes)
  | list (items : List Tree)
  | object (members : List (Bytes × Tree))

/-- A part of a value: a value itself, one with blanks around it, such values with commas between
them, a name with such a value, and such members with commas between them. -/
inductive Part where
  | value (tree : Tree)
  | element (tree : Tree)
  | elements (trees : List Tree)
  | member (name : Bytes) (tree : Tree)
  | members (members : List (Bytes × Tree))

/-- The octets in which the parts of a value may be written. -/
inductive Writes : Part → Bytes → Prop where
  | null : Writes (.value .null) (110 :: restOfNull)
  | yes : Writes (.value (.flag true)) (116 :: restOfTrue)
  | no : Writes (.value (.flag false)) (102 :: restOfFalse)
  | number {numeral : Bytes} : Numeral numeral → Writes (.value (.number numeral)) numeral
  | text {body : Bytes} : Quotable body → Writes (.value (.text body)) (34 :: (body ++ [34]))
  | emptyList {gap : Bytes} : Blanks gap → Writes (.value (.list [])) (91 :: (gap ++ [93]))
  | list {items : List Tree} {bytes : Bytes} : Writes (.elements items) bytes →
      Writes (.value (.list items)) (91 :: (bytes ++ [93]))
  | emptyObject {gap : Bytes} : Blanks gap → Writes (.value (.object [])) (123 :: (gap ++ [125]))
  | object {members : List (Bytes × Tree)} {bytes : Bytes} : Writes (.members members) bytes →
      Writes (.value (.object members)) (123 :: (bytes ++ [125]))
  | element {tree : Tree} {front bytes back : Bytes} : Blanks front → Writes (.value tree) bytes →
      Blanks back → Writes (.element tree) (front ++ (bytes ++ back))
  | lastElement {tree : Tree} {bytes : Bytes} : Writes (.element tree) bytes →
      Writes (.elements [tree]) bytes
  | moreElements {tree : Tree} {trees : List Tree} {bytes rest : Bytes} :
      Writes (.element tree) bytes → Writes (.elements trees) rest →
      Writes (.elements (tree :: trees)) (bytes ++ 44 :: rest)
  | member {name : Bytes} {tree : Tree} {front back bytes : Bytes} : Blanks front →
      Quotable name → Blanks back → Writes (.element tree) bytes →
      Writes (.member name tree) (front ++ 34 :: (name ++ 34 :: (back ++ 58 :: bytes)))
  | lastMember {name : Bytes} {tree : Tree} {bytes : Bytes} : Writes (.member name tree) bytes →
      Writes (.members [(name, tree)]) bytes
  | moreMembers {name : Bytes} {tree : Tree} {members : List (Bytes × Tree)}
      {bytes rest : Bytes} : Writes (.member name tree) bytes → Writes (.members members) rest →
      Writes (.members ((name, tree) :: members)) (bytes ++ 44 :: rest)

/-- Octets that are one value, with nothing but blanks around it. -/
def IsDocument (tree : Tree) (bytes : Bytes) : Prop :=
  Writes (.element tree) bytes

/-! ## What trees stand for -/

namespace Tree

def IsText (tree : Tree) (value : String) : Prop :=
  ∃ body, tree = .text body ∧ SpellsText body value

/-- Whether a tree stands for a text, or for none. -/
def IsTextOrNull (tree : Tree) : Option String → Prop
  | some value => tree.IsText value
  | none => tree = .null

def IsInteger (tree : Tree) (value : Int) : Prop :=
  ∃ numeral, tree = .number numeral ∧ IntegerLiteral numeral value

/-- The names of an object's members are read. -/
def Named (members : List (Bytes × Tree)) (entries : List (String × Tree)) : Prop :=
  List.Forall₂ (fun member entry => SpellsText member.1 entry.1 ∧ member.2 = entry.2) members
    entries

/-- What an object has under a name, in order. -/
def under (name : String) (entries : List (String × Tree)) : List Tree :=
  (entries.filter fun entry => entry.1 == name).map (·.2)

end Tree

/-- How a reader of objects settles what there is under one name: it takes a tree, or takes none, or
refuses the object. -/
abbrev Settling : Type :=
  List Tree → Option (Option Tree)

namespace Settling

/-- Refuses a name that occurs twice. -/
def once : Settling
  | [] => some none
  | [tree] => some (some tree)
  | _ => none

/-- Takes the first occurrence. -/
def first : Settling := fun trees => some trees.head?

/-- Takes the last occurrence. -/
def last : Settling := fun trees => some trees.getLast?

end Settling

/-- A field of a record: its name, which trees stand for what it holds, and whether it holds what is
meant when there is none. -/
structure Field where
  name : String
  Fits : Tree → Prop
  FitsNone : Prop

namespace Field

/-- What is taken for a field stands for what it holds. -/
def Takes (field : Field) : Option Tree → Prop
  | some tree => field.Fits tree
  | none => field.FitsNone

/-- A field that holds a text. -/
def text (name value : String) : Field :=
  ⟨name, (·.IsText value), False⟩

/-- A field that holds a text, or nothing. -/
def optional (name : String) (value : Option String) : Field :=
  ⟨name, (·.IsTextOrNull value), value = none⟩

/-- A field that holds an integer within bounds. -/
def integer (name : String) (low high value : Int) : Field :=
  ⟨name, fun tree => tree.IsInteger value ∧ low ≤ value ∧ value ≤ high, False⟩

end Field

/-- Whether a tree stands for a record with given fields: an object whose names are all read and that
has the fields among its members, whichever others it has, or a list that has them in order and
nothing else. -/
def Tree.IsRecord (settle : Settling) (fields : List Field) : Tree → Prop
  | .object members => ∃ entries, Named members entries ∧
      ∀ field ∈ fields, ∃ taken, settle (under field.name entries) = some taken ∧
        field.Takes taken
  | .list items => List.Forall₂ Field.Fits fields items
  | _ => False

/-- A field that holds a record. -/
def Field.record (settle : Settling) (name : String) (fields : List Field) : Field :=
  ⟨name, (·.IsRecord settle fields), False⟩

end Json
end Possession

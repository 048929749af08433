/-!
# ASCII letter case

Case is folded for the letters `A` to `Z` alone; every other character stands for itself.
-/

namespace Possession
namespace Ascii

/-- The text with `A` to `Z` lowered. -/
def lower (text : String) : String :=
  String.ofList (text.toList.map Char.toLower)

/-- The text with `a` to `z` raised. -/
def upper (text : String) : String :=
  String.ofList (text.toList.map Char.toUpper)

/-- Whether two texts differ at most in the case of ASCII letters. -/
def eqIgnoringCase (left right : String) : Bool :=
  left.toList.map Char.toLower == right.toList.map Char.toLower

/-- Space, tab, line feed, form feed and carriage return. -/
def isBlank (c : Char) : Bool :=
  c == ' ' || c == '\t' || c == '\n' || c == '\x0c' || c == '\r'

def isAscii (c : Char) : Bool :=
  c.toNat < 128

end Ascii
end Possession

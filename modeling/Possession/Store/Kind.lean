import Possession.Store.Error
import Possession.Text.Ascii
import Possession.Text.Blank
import Possession.Text.Quoted

/-!
# Kinds of stores

The stores that a user can choose from, by name.
-/

namespace Possession

/-- Which store holds the device key. -/
inductive StoreKind where
  | memory
  | file
  | keyring
  deriving DecidableEq, Repr

namespace StoreKind

def all : List StoreKind := [memory, file, keyring]

def name : StoreKind → String
  | .memory => "memory"
  | .file => "file"
  | .keyring => "keyring"

def ofName? (text : String) : Option StoreKind :=
  all.find? fun kind => kind.name == text

/-- Reads the name of a kind. Blanks around it and the case of ASCII letters do not matter. -/
def parse (text : String) : Except StoreError StoreKind :=
  let name := Ascii.lower (Text.trim text)
  match ofName? name with
  | some kind => .ok kind
  | none => .error (.notInitialized ("unknown store kind " ++ Text.quoted name))

end StoreKind

end Possession

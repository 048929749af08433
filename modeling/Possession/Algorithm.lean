import Possession.Json.Record
import Possession.RequestError
import Possession.Rsa.Padding
import Possession.Text.Ascii
import Possession.Text.Blank

/-!
# Signature algorithms

An algorithm is a padding together with a hash function. It has two names: the one that token
headers use, such as `RS256`, and the one that key stores use, such as `SHA256withRSA/PSS`.
-/

namespace Possession

/-- How a hash value is padded before it is raised. -/
inductive Padding where
  | deterministic
  | salted
  deriving DecidableEq, Repr

/-- A signature algorithm. -/
structure Algorithm where
  padding : Padding
  digest : Digest
  deriving DecidableEq, Repr

namespace Algorithm

/-- Every algorithm, the deterministic ones first. -/
def all : List Algorithm := [
  ⟨.deterministic, .sha256⟩, ⟨.deterministic, .sha384⟩, ⟨.deterministic, .sha512⟩,
  ⟨.salted, .sha256⟩, ⟨.salted, .sha384⟩, ⟨.salted, .sha512⟩]

/-- The algorithm used where nothing else is said. -/
def rs256 : Algorithm := ⟨.deterministic, .sha256⟩

/-! ## Names -/

/-- The name that token headers use. -/
def name : Algorithm → String
  | ⟨.deterministic, .sha256⟩ => "RS256"
  | ⟨.deterministic, .sha384⟩ => "RS384"
  | ⟨.deterministic, .sha512⟩ => "RS512"
  | ⟨.salted, .sha256⟩ => "PS256"
  | ⟨.salted, .sha384⟩ => "PS384"
  | ⟨.salted, .sha512⟩ => "PS512"

/-- The name that key stores use. -/
def keystoreName : Algorithm → String
  | ⟨.deterministic, .sha256⟩ => "SHA256withRSA"
  | ⟨.deterministic, .sha384⟩ => "SHA384withRSA"
  | ⟨.deterministic, .sha512⟩ => "SHA512withRSA"
  | ⟨.salted, .sha256⟩ => "SHA256withRSA/PSS"
  | ⟨.salted, .sha384⟩ => "SHA384withRSA/PSS"
  | ⟨.salted, .sha512⟩ => "SHA512withRSA/PSS"

/-- The algorithm with a given name of either kind. Blanks around the name and the case of ASCII
letters do not matter. -/
def ofName? (text : String) : Option Algorithm :=
  let wanted := Ascii.upper (Text.trim text)
  all.find? fun algorithm =>
    algorithm.name == wanted || Ascii.upper algorithm.keystoreName == wanted

/-- The algorithm that a token header names: the header's name of it and nothing else. -/
def ofHeader? (text : String) : Option Algorithm :=
  all.find? fun algorithm => algorithm.name == text

def parse (text : String) : Except RequestError Algorithm :=
  match ofName? text with
  | some algorithm => .ok algorithm
  | none => .error (.unsupportedAlgorithm text)

/-- Why a text is not the name of an algorithm. -/
def refusal? (text : String) : Option String :=
  match parse text with
  | .ok _ => none
  | .error error => some error.message

/-- Reads the name of an algorithm from JSON. A text that is accepted is a name, so the last case
does not arise. -/
def ofJson (bytes : Bytes) : Except Json.Error Algorithm := do
  match ← Json.readWholeText (Json.readTextThat "a string" refusal?) bytes with
  | .text text =>
    match ofName? text with
    | some algorithm => return algorithm
    | none => throw .valueExpected
  | _ => throw .valueExpected

/-! ## Signatures -/

/-- Signs a message. The salt matters for the salted padding alone. -/
def sign (algorithm : Algorithm) (key : Rsa.PrivateKey) (salt message : Bytes) :
    Except Rsa.Fault Bytes :=
  match algorithm.padding with
  | .deterministic => Rsa.Deterministic.sign algorithm.digest key message
  | .salted => Rsa.Salted.sign algorithm.digest key salt message

def verify (algorithm : Algorithm) (key : Rsa.PublicKey) (message signature : Bytes) : Bool :=
  match algorithm.padding with
  | .deterministic => Rsa.Deterministic.verify algorithm.digest key message signature
  | .salted => Rsa.Salted.verify algorithm.digest key message signature

def saltSize (algorithm : Algorithm) : Nat :=
  algorithm.digest.size

end Algorithm

end Possession

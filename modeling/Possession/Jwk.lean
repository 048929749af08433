import Possession.Base64
import Possession.Json.Printer
import Possession.Json.Record
import Possession.RequestError

/-!
# RSA keys in JSON

The JSON form of an RSA public key, and the confirmation that wraps it in a token. Modulus and
exponent are base64url texts of big-endian octets.

* `Jwk.ofKey` writes a key in its shortest form.
* `Jwk.toKey` reads a key and refuses everything that is not a usable RSA key.
* `requestConfirmation` wraps a thumbprint for the request of a bound access token.
-/

namespace Possession

/-- The JSON form of an RSA public key: key type, modulus and exponent. -/
structure Jwk where
  keyType : String
  modulus : String
  exponent : String
  deriving DecidableEq, Repr

namespace Jwk

/-! ## Keys -/

/-- The JSON form of an RSA key from the texts of its numbers. -/
def rsa (modulus exponent : String) : Jwk :=
  ⟨"RSA", modulus, exponent⟩

/-- The text of a number: base64url of its shortest octets. -/
def number (value : Nat) : String :=
  Base64.url.encode (Bytes.ofNat value)

def ofKey (key : Rsa.PublicKey) : Jwk :=
  rsa (number key.modulus) (number key.exponent)

/-- The octets of a member with a given name. -/
def decodeMember (name text : String) : Except RequestError Bytes :=
  if text.isEmpty then .error (.invalidJwk s!"empty member {name}")
  else
    match Base64.url.decode text with
    | .ok bytes => .ok bytes
    | .error _ => .error (.invalidJwk s!"member {name} is not base64url")

/-- The octets of modulus and exponent, if the key type is RSA. -/
def components (jwk : Jwk) : Except RequestError (Bytes × Bytes) := do
  if jwk.keyType ≠ "RSA" then throw (.invalidJwk s!"kty={jwk.keyType}")
  let modulus ← decodeMember "n" jwk.modulus
  let exponent ← decodeMember "e" jwk.exponent
  return (modulus, exponent)

/-- The key that a JSON form denotes. -/
def toKey (jwk : Jwk) : Except RequestError Rsa.PublicKey := do
  let (modulus, exponent) ← jwk.components
  match Rsa.PublicKey.make (Bytes.toNat modulus) (Bytes.toNat exponent) with
  | .ok key => return key
  | .error fault => throw (.invalidJwk fault.message)

/-! ## JSON -/

/-- How a key is read: its three members, all of them texts. -/
def shape : Json.Shape where
  name := "RsaPublicJwk"
  members := [⟨"kty", Json.readAnyText, none⟩, ⟨"n", Json.readAnyText, none⟩,
    ⟨"e", Json.readAnyText, none⟩]

/-- The key that a value of the shape stands for. -/
def ofValue? : Json.Value → Option Jwk
  | .record [.text keyType, .text modulus, .text exponent] => some ⟨keyType, modulus, exponent⟩
  | _ => none

/-- Writes a key, its type first. -/
def toJson (jwk : Jwk) : String :=
  Json.writeRecord [("kty", Json.writeText jwk.keyType), ("n", Json.writeText jwk.modulus),
    ("e", Json.writeText jwk.exponent)]

end Jwk

/-- Reads octets as a value of a shape and turns it into what it stands for. Every value of the
shape stands for something, so the last case does not arise. -/
def Json.Shape.decode {α : Type} (shape : Json.Shape) (ofValue? : Json.Value → Option α)
    (bytes : Bytes) : Except Json.Error α := do
  let value ← Json.readWholeText shape.read bytes
  match ofValue? value with
  | some result => return result
  | none => throw .valueExpected

def Jwk.ofJson (bytes : Bytes) : Except Json.Error Jwk :=
  Jwk.shape.decode Jwk.ofValue? bytes

/-! ## Confirmations -/

/-- What a token says about the key that it is bound to. -/
structure Confirmation where
  jwk : Jwk
  deriving DecidableEq, Repr

namespace Confirmation

/-- How a confirmation is read: its one member is a key. -/
def shape : Json.Shape where
  name := "Confirmation"
  members := [⟨"jwk", Jwk.shape.read, none⟩]

/-- The confirmation that a value of the shape stands for. -/
def ofValue? : Json.Value → Option Confirmation
  | .record [jwk] => (Jwk.ofValue? jwk).map Confirmation.mk
  | _ => none

def toJson (confirmation : Confirmation) : String :=
  Json.writeRecord [("jwk", confirmation.jwk.toJson)]

def ofJson (bytes : Bytes) : Except Json.Error Confirmation :=
  shape.decode ofValue? bytes

end Confirmation

/-- The request confirmation of a key: base64url of a record that holds its thumbprint. -/
def requestConfirmation (thumbprint : String) : String :=
  Base64.url.encode (Utf8.encode (Json.writeRecord [("kid", Json.writeText thumbprint)]))

end Possession

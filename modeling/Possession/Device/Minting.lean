import Possession.Der.KeyInfo
import Possession.Device.Lifecycle
import Possession.Mint

/-!
# Requests signed with the device key

Minting tokens with the device key, and handing out its public half. Each procedure fetches the
entry once, so that everything it answers is about one and the same key.
-/

namespace Possession

/-- The forms in which the public key is handed out. -/
inductive ExportFormat where
  /-- Base64 of the `SubjectPublicKeyInfo`. -/
  | der
  | jwk
  deriving DecidableEq, Repr

namespace ExportFormat

def name : ExportFormat → String
  | .der => "der"
  | .jwk => "jwk"

/-- Reads the name of a form. Blanks around it and the case of ASCII letters do not matter. -/
def parse (text : String) : Except DeviceError ExportFormat :=
  let name := Ascii.lower (Text.trim text)
  if ["der", "spki", "x_509_subjectpublickeyinfo_asn_1"].contains name then .ok .der
  else if name = "jwk" then .ok .jwk
  else .error (.unknownExportFormat text)

end ExportFormat

/-- The text in which a form hands out a public key. -/
def KeyEntry.exported (entry : KeyEntry) : ExportFormat → String
  | .der => Base64.standard.encode entry.publicKey.toDer
  | .jwk => entry.publicJwk.toJson

/-- An entry as a signer that uses an algorithm and a given salt. -/
def KeyEntry.signer (entry : KeyEntry) (algorithm : Algorithm) (salt : Bytes) :
    Signer DeviceError where
  algorithm := algorithm
  publicJwk := .ok entry.publicJwk
  sign := fun message => DeviceKey.liftStore (entry.sign algorithm salt message)
  refuse := .ofRequestError

namespace DeviceKey

def mint (algorithm : Algorithm) (salt : Bytes) (request : Request) :
    StoreDialogue (Except DeviceError String) := do
  return (← entry).bind fun entry => Possession.mint (entry.signer algorithm salt) request

/-- The confirmation of the device key for the request of a bound access token. -/
def confirmation : StoreDialogue (Except DeviceError String) := do
  return (← thumbprint).map requestConfirmation

def publicKey (format : ExportFormat) : StoreDialogue (Except DeviceError String) := do
  return (← entry).map fun entry => entry.exported format

end DeviceKey

end Possession

import Possession.Base64
import Possession.Device.Lifecycle
import Possession.Text.Ascii

/-!
# Signatures of texts

Signing any text with the device key, and checking such signatures. A signature is written in
base64; one that is checked may be broken into lines.
-/

namespace Possession

/-- What checking a signature shows. -/
inductive Verdict where
  | valid
  | invalid
  | failed (error : DeviceError)
  deriving DecidableEq, Repr

namespace DeviceKey

def parseAlgorithm (name : String) : Except DeviceError Algorithm :=
  (Algorithm.parse name).mapError .ofRequestError

def sign (name : String) (salt : Bytes) (text : String) :
    StoreDialogue (Except DeviceError String) :=
  match parseAlgorithm name with
  | .error error => return .error error
  | .ok algorithm => do
    match ← entry with
    | .error error => return .error error
    | .ok entry =>
      return (liftStore (entry.sign algorithm salt (Utf8.encode text))).map
        Base64.standard.encode

/-- The text without its ASCII blanks. -/
def compact (text : String) : String :=
  String.ofList (text.toList.filter fun c => !Ascii.isBlank c)

/-- The octets of a written signature, wherever it is broken into lines. -/
def readSignature (text : String) : Except DeviceError Bytes :=
  (Base64.standard.decode (compact text)).mapError fun fault =>
    .encodingFailure ("signature is not base64: " ++ fault.message)

/-- Checks a signature of a text under a named algorithm. -/
def verify (name text signature : String) : StoreDialogue Verdict :=
  match parseAlgorithm name with
  | .error error => return .failed error
  | .ok algorithm =>
    match readSignature signature with
    | .error error => return .failed error
    | .ok signature => do
      match ← entry with
      | .error error => return .failed error
      | .ok entry =>
        return if entry.verify algorithm (Utf8.encode text) signature then .valid else .invalid

/-- Whether a signature is valid; one that cannot be checked is not. -/
def verifies (name text signature : String) : StoreDialogue Bool := do
  return (← verify name text signature) = .valid

end DeviceKey

end Possession

import Possession.Json.Error
import Possession.Rsa.Key

/-!
# Errors of signed requests

What can go wrong while a signed request is built or taken apart.
-/

namespace Possession

/-- Why a signed request could not be built or read. -/
inductive RequestError where
  /-- A name that is the name of no algorithm. -/
  | unsupportedAlgorithm (name : String)
  | invalidJwk (reason : String)
  | invalidUrl (reason : String)
  /-- The key refused to sign. -/
  | signing (fault : Rsa.Fault)
  | keyGeneration (fault : Rsa.Fault)
  | invalidSignature
  | keyEncoding (reason : String)
  | json (fault : Json.Error)
  /-- A token that is not three non-empty segments. -/
  | tokenFormat
  /-- A segment that is not base64. -/
  | segmentEncoding
  deriving DecidableEq, Repr

namespace RequestError

def message : RequestError → String
  | .unsupportedAlgorithm name => "Unsupported signing algorithm: " ++ name
  | .invalidJwk reason => "Invalid JWK: " ++ reason
  | .invalidUrl reason => "Invalid request URL: " ++ reason
  | .signing fault => "Signing error: " ++ fault.message
  | .keyGeneration fault => "Key generation error: " ++ fault.message
  | .invalidSignature => "Invalid signature"
  | .keyEncoding reason => "Key encoding error: " ++ reason
  | .json fault => "JSON error: " ++ fault.message
  | .tokenFormat => "Invalid token format"
  | .segmentEncoding => "Invalid base64"

/-- The wording of the cause behind an error, if there is one. -/
def cause? : RequestError → Option String
  | .signing fault | .keyGeneration fault => some fault.message
  | .json fault => some fault.message
  | _ => none

end RequestError

end Possession

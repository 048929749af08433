import Possession.RequestError
import Possession.Store.Error

/-!
# Errors of the device key

What can go wrong with the key of the device, each with a fixed code. Errors of key stores and of
signed requests become errors of the device key by what they mean to its user.
-/

namespace Possession

/-- Why an operation with the device key fails. -/
inductive DeviceError where
  /-- The key store cannot be reached. -/
  | storeUnavailable (cause : StoreError)
  | keyMissing
  /-- Every attempt made a key below the smallest size. -/
  | badKeySize (minBits attempts : Nat)
  | unsupportedAlgorithm (name : String)
  | signingFailure (reason : String)
  | thumbprintFailure (cause : RequestError)
  /-- The stored key cannot be opened, or keys cannot be generated as asked. -/
  | protectionInvalid (reason : String)
  | encodingFailure (reason : String)
  /-- The result of an operation never arrived. -/
  | interruptedWait (reason : String)
  | unknownExportFormat (name : String)
  deriving DecidableEq, Repr

namespace DeviceError

def code : DeviceError → String
  | .storeUnavailable _ => "KEYSTORE_UNAVAILABLE"
  | .keyMissing => "KEY_MISSING"
  | .badKeySize _ _ => "BAD_KEY_SIZE"
  | .unsupportedAlgorithm _ => "UNSUPPORTED_ALGORITHM"
  | .signingFailure _ => "SIGNING_FAILURE"
  | .thumbprintFailure _ => "THUMBPRINT_COMPUTATION_FAILURE"
  | .protectionInvalid _ => "PROTECTION_PARAMS_INVALID"
  | .encodingFailure _ => "ENCODING_FAILURE"
  | .interruptedWait _ => "INTERRUPTED_WAIT"
  | .unknownExportFormat _ => "UNKNOWN_EXPORT_FORMAT"

def message : DeviceError → String
  | .storeUnavailable cause => "Key store unavailable: " ++ cause.message
  | .keyMissing => "No device key present"
  | .badKeySize minBits attempts =>
    s!"Generated key below {minBits} bits after {attempts} attempts"
  | .unsupportedAlgorithm name => "Unsupported signing algorithm: " ++ name
  | .signingFailure reason => "Signing failed: " ++ reason
  | .thumbprintFailure cause => "Thumbprint computation failed: " ++ cause.message
  | .protectionInvalid reason => "Key protection parameters invalid: " ++ reason
  | .encodingFailure reason => "Encoding failed: " ++ reason
  | .interruptedWait reason => "Interrupted while waiting for result: " ++ reason
  | .unknownExportFormat name => "Unknown public key export format: " ++ name

/-- The wordings of the causes behind an error, the nearest first. -/
def causes : DeviceError → List String
  | .storeUnavailable cause => cause.message :: cause.cause?.toList
  | .thumbprintFailure cause => cause.message :: cause.cause?.toList
  | _ => []

/-- What an error of the key store means for the device key. -/
def ofStoreError : StoreError → DeviceError
  | .notFound _ => .keyMissing
  | .unrecoverable reason => .protectionInvalid reason
  | .signing reason => .signingFailure reason
  | error => .storeUnavailable error

/-- What an error of a signed request means for the device key. -/
def ofRequestError : RequestError → DeviceError
  | .invalidJwk reason => .thumbprintFailure (.invalidJwk reason)
  | .unsupportedAlgorithm name => .unsupportedAlgorithm name
  | .signing fault => .signingFailure fault.message
  | .invalidSignature => .signingFailure RequestError.invalidSignature.message
  | error => .encodingFailure error.message

end DeviceError

end Possession

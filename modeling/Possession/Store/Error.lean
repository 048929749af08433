/-!
# Errors of key stores

What a key store may answer instead of a key.
-/

namespace Possession

/-- Why a key store refuses. -/
inductive StoreError where
  | notInitialized (reason : String)
  /-- There is no entry under the alias. -/
  | notFound (label : String)
  /-- There is an entry, but no key can be made of it. -/
  | unrecoverable (reason : String)
  /-- The store has no isolated module. -/
  | isolationUnavailable
  | unsupportedParameters (reason : String)
  | signing (reason : String)
  | backend (reason : String)
  | inputOutput (reason : String)
  deriving DecidableEq, Repr

namespace StoreError

def message : StoreError → String
  | .notInitialized reason => "Key store not initialized: " ++ reason
  | .notFound label => "Key not found: " ++ label
  | .unrecoverable reason => "Key entry unrecoverable: " ++ reason
  | .isolationUnavailable => "Isolated key storage unavailable"
  | .unsupportedParameters reason => "Unsupported key parameters: " ++ reason
  | .signing reason => "Signing error: " ++ reason
  | .backend reason => "Storage backend error: " ++ reason
  | .inputOutput reason => "IO error: " ++ reason

/-- The wording of the cause behind an error, if there is one. -/
def cause? : StoreError → Option String
  | .inputOutput reason => some reason
  | _ => none

end StoreError

end Possession

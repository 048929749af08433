import Possession.Algorithm
import Possession.Device.Gateway
import Possession.Device.Policy
import Possession.Store.Kind

/-!
# Settings

What a user may set: the store that holds the device key, how keys are generated, how requests are
signed and how long a caller waits for a result.
-/

namespace Possession

/-- The settings of a device. -/
structure Settings where
  store : StoreKind
  /-- The directory of the store of files, if it is not the usual one. -/
  keyDirectory : Option String
  policy : Policy
  algorithm : Algorithm
  timeoutSeconds : Nat
  deriving DecidableEq, Repr

/-- Why settings cannot be used. -/
inductive SettingsError where
  /-- A variable whose value cannot be read. -/
  | invalidValue (name value : String)
  /-- Settings that can never work. -/
  | invalid (problem : String)
  | inputOutput (reason : String)
  /-- A file that is no YAML, or whose YAML is no settings. -/
  | malformed
  deriving DecidableEq, Repr

def SettingsError.message : SettingsError → String
  | .invalidValue name value => "Invalid value for " ++ name ++ ": " ++ Text.quoted value
  | .invalid problem => "Invalid configuration: " ++ problem
  | .inputOutput reason => "IO error: " ++ reason
  | .malformed => "YAML parse error"

namespace Settings

def standard : Settings where
  store := .file
  keyDirectory := none
  policy := .standard
  algorithm := .rs256
  timeoutSeconds := 30

/-- The longest wait that can be set. -/
def maxTimeout : Nat := 0xffff_ffff_ffff_ffff

def timeout (settings : Settings) : Duration :=
  .ofSeconds settings.timeoutSeconds

/-- What makes settings unusable, the policy first. -/
def problem? (settings : Settings) : Option String :=
  settings.policy.problem?.or
    (if settings.timeoutSeconds = 0 then some "blocking_timeout_secs must be at least 1" else none)

/-- Refuses settings that can never work. -/
def validate (settings : Settings) : Except SettingsError Unit :=
  match settings.problem? with
  | some problem => .error (.invalid problem)
  | none => .ok ()

end Settings

end Possession

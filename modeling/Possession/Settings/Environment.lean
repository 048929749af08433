import Possession.Settings.Basic
import Possession.Text.Digits

/-!
# Settings from variables

Settings read from variables of the environment. A variable that is not set leaves its setting as it
is; of several unreadable ones the first is reported, in a fixed order.
-/

namespace Possession
namespace Settings

/-- The values of the variables that are set. -/
abbrev Environment : Type := String → Option String

def storeVariable : String := "DEVICE_POP_STORE"

def readFlag? : String → Option Bool
  | "true" => some true
  | "false" => some false
  | _ => none

/-- Reads a number of 64 bits; a plus sign may stand before it. -/
def readNumber? (text : String) : Option Nat :=
  let digits :=
    match text.toList with
    | '+' :: rest => rest
    | chars => chars
  (Digits.decimal? digits).filter (· ≤ maxTimeout)

/-- Changes settings by a variable, if it is set. Blanks around a value do not matter. -/
def setFrom {α : Type} (environment : Environment) (name : String) (read? : String → Option α)
    (change : Settings → α → Settings) (settings : Settings) : Except SettingsError Settings :=
  match environment name with
  | none => .ok settings
  | some value =>
    match read? (Text.trim value) with
    | some setting => .ok (change settings setting)
    | none => .error (.invalidValue name value)

/-- The settings with a directory for keys, if its variable is set. It is taken as it stands. -/
def setDirectory (environment : Environment) (settings : Settings) : Settings :=
  match environment "DEVICE_POP_KEY_DIR" with
  | none => settings
  | some directory => { settings with keyDirectory := some directory }

def ofEnvironment (environment : Environment) : Except SettingsError Settings := do
  let settings ← setFrom environment storeVariable (fun text => (StoreKind.parse text).toOption)
    (fun settings store => { settings with store }) standard
  let settings := setDirectory environment settings
  let settings ← setFrom environment "DEVICE_POP_SIGNING_ALG" Algorithm.ofName?
    (fun settings algorithm => { settings with algorithm }) settings
  let settings ← setFrom environment "DEVICE_POP_PREFER_ISOLATION" readFlag?
    (fun settings preferIsolation =>
      { settings with policy := { settings.policy with preferIsolation } }) settings
  setFrom environment "DEVICE_POP_TIMEOUT_SECS" readNumber?
    (fun settings timeoutSeconds => { settings with timeoutSeconds }) settings

end Settings
end Possession

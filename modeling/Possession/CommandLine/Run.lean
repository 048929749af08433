import Possession.CommandLine.Arguments
import Possession.Device.Signatures
import Possession.Settings.File
import Possession.Store.Directory
import Possession.Store.Keychain
import Possession.Store.Memory

/-!
# Running commands

A command is a procedure over the files of the user: it reads the settings, opens the store that
they name, and works on the device key in it. Its outcome is what it prints, and why it fails if it
does.

Settings are read from the file that is given, or else from the file in the usual place if there is
one, or else from variables. They are checked before a store is opened.
-/

namespace Possession

/-- What a command prints, and why it fails if it does. -/
structure Report where
  lines : List String
  failure : Option String
  deriving DecidableEq, Repr

namespace Report

def success (lines : List String) : Report := ⟨lines, none⟩

/-- A command that fails after it has printed something. -/
def failed (lines : List String) (reason : String) : Report := ⟨lines, some reason⟩

def ofResult (result : Except DeviceError String) : Report :=
  match result with
  | .ok line => success [line]
  | .error error => failed [] error.message

def exitCode (report : Report) : Nat :=
  if report.failure.isSome then 1 else 0

end Report

/-- What a command finds around it. -/
structure Surroundings where
  environment : Settings.Environment
  workingDirectory : Path
  supply : Supply

namespace CommandLine

/-! ## Commands -/

def keyLines (identity : KeyIdentity) : List String :=
  ["  Thumbprint: " ++ identity.thumbprint,
    "  Created: " ++ identity.createdAt.textWithOffset,
    "  Hardware backed: " ++ if identity.hardwareBacked then "yes" else "no"]

def generate (policy : Policy) : StoreDialogue Report := do
  match ← DeviceKey.generate policy with
  | .ok identity =>
    return .success (("Generated device key: " ++ identity.label) :: keyLines identity)
  | .error error => return .failed [] error.message

/-- The lines that tell of the store and the algorithm. -/
def storeLines (settings : Settings) (capabilities : Capabilities) : List String :=
  ["Store: " ++ settings.store.name ++ " (" ++ capabilities.backing.label ++ ")",
    "  Isolated module: " ++ if capabilities.isolation then "available" else "unavailable",
    "Signing algorithm: " ++ settings.algorithm.name]

def status (settings : Settings) (capabilities : Capabilities) : StoreDialogue Report := do
  let lines := storeLines settings capabilities
  if ← DeviceKey.isPresent then
    match ← DeviceKey.identity with
    | .ok identity =>
      return .success (lines ++ ("Device key: " ++ identity.label) :: keyLines identity)
    | .error error => return .failed lines error.message
  else
    return .success (lines ++ ["Device key: none", "  Create one with: device-pop generate"])

def verify (algorithm input signature : String) : StoreDialogue Report := do
  if ← DeviceKey.verifies algorithm input signature then return .success ["Signature valid"]
  else return .failed [] "Signature invalid"

/-- The report of a deletion, which is carried out only by force. -/
def clear (force : Bool) : StoreDialogue Report := do
  if !force then
    return .success ["This will delete the device key.",
      "Tokens bound to it will no longer be usable.", "", "Use --force to confirm."]
  else if ← DeviceKey.clear then return .success ["Device key deleted."]
  else return .failed [] "Failed to delete the device key"

/-- The salt for a named algorithm. -/
def saltFor (entropy : Entropy) (name : String) : Bytes :=
  match Algorithm.ofName? name with
  | some algorithm => (entropy.bytes algorithm.saltSize).1
  | none => []

def run (settings : Settings) (capabilities : Capabilities) (supply : Supply) :
    Command → StoreDialogue Report
  | .generate noIsolation =>
    let policy := settings.policy
    generate { policy with preferIsolation := policy.preferIsolation && !noIsolation }
  | .status => status settings capabilities
  | .thumbprint => do return .ofResult (← DeviceKey.thumbprint)
  | .confirmation => do return .ofResult (← DeviceKey.confirmation)
  | .publicKey format => do return .ofResult (← DeviceKey.publicKey format)
  | .mint url accessToken method nonce timestamp => do
    let algorithm := settings.algorithm
    let request : Request :=
      { url, accessToken, method, nonce, timestamp := timestamp.getD supply.now.seconds }
    return .ofResult
      (← DeviceKey.mint algorithm (supply.entropy.bytes algorithm.saltSize).1 request)
  | .sign algorithm input => do
    return .ofResult (← DeviceKey.sign algorithm (saltFor supply.entropy algorithm) input)
  | .verify algorithm input signature => verify algorithm input signature
  | .clear force => clear force

/-! ## Places -/

/-- A place of the user by the variable that names it, if that is an absolute path, or else below
the user's home. -/
def userPlace (environment : Settings.Environment) (name : String) (belowHome : Path) : Path :=
  match environment name with
  | some text => if text.startsWith "/" then Path.ofText text else home ++ belowHome
  | none => home ++ belowHome
where
  home : Path := Path.ofText ((environment "HOME").getD "")

/-- The name of the program in the places of the user. -/
def programName : String := "device-pop"

def settingsPath (environment : Settings.Environment) : Path :=
  userPlace environment "XDG_CONFIG_HOME" [".config"] ++ [programName, "config.yaml"]

def keysPath (environment : Settings.Environment) : Path :=
  userPlace environment "XDG_DATA_HOME" [".local", "share"] ++ [programName]

/-! ## Settings -/

def readSettings (path : Path) : FileDialogue (Except SettingsError Settings) := do
  return Settings.ofFile (← (FileTask.read path).run)

/-- Reads the settings from the usual place, or else from variables. -/
def readUsualSettings (environment : Settings.Environment) :
    FileDialogue (Except SettingsError Settings) := do
  let path := settingsPath environment
  let settings ←
    if ← FileDialogue.isPresent path then readSettings path
    else pure (Settings.ofEnvironment environment)
  return settings.bind fun settings => settings.validate.map fun () => settings

/-- The settings under which a command runs. A store that was asked for replaces the one set. -/
def effectiveSettings (surroundings : Surroundings) (invocation : Invocation) :
    FileDialogue (Except SettingsError Settings) := do
  let settings ←
    match invocation.settingsFile with
    | some file => readSettings (Path.fromText surroundings.workingDirectory file)
    | none => readUsualSettings surroundings.environment
  return settings.bind fun settings =>
    let settings := { settings with store := invocation.store.getD settings.store }
    settings.validate.map fun () => settings

/-! ## Stores -/

/-- Runs a procedure over a store that needs no files. -/
def runApart {σ : Type} (store : KeyStore σ) (procedure : StoreDialogue Report) (state : σ) :
    Report :=
  (store.run procedure state).1.getD (.failed [] Gateway.crashed.message)

/-- The directory of keys. An empty text names none. -/
def keyDirectory? (surroundings : Surroundings) (settings : Settings) : Option Path :=
  match settings.keyDirectory with
  | none => some (keysPath surroundings.environment)
  | some text =>
    if text.isEmpty then none else some (Path.fromText surroundings.workingDirectory text)

def prepareDirectory (surroundings : Surroundings) (settings : Settings) :
    FileDialogue (Except StoreError Path) :=
  match keyDirectory? surroundings settings with
  | none => return .error (.inputOutput FileFault.notFound.message)
  | some directory => KeyDirectory.liftFault do
    KeyDirectory.prepare directory
    return directory

/-- Carries out a command on the store that is set. -/
def runOnStore (surroundings : Surroundings) (settings : Settings) (command : Command) :
    FileDialogue Report := do
  let supply := surroundings.supply
  let procedure := run settings .software supply command
  match settings.store with
  | .memory => return runApart Memory.store procedure (Memory.empty supply)
  | .keyring => return runApart Keychain.store procedure (Keychain.empty supply)
  | .file =>
    match ← prepareDirectory surroundings settings with
    | .error error => return .failed [] (DeviceError.ofStoreError error).message
    | .ok directory =>
      let (report, _) ← procedure.through (KeyDirectory.serve directory) supply
      return report

def perform (surroundings : Surroundings) (invocation : Invocation) : FileDialogue Report := do
  match ← effectiveSettings surroundings invocation with
  | .error error => return .failed [] error.message
  | .ok settings => runOnStore surroundings settings invocation.command

/-! ## The program -/

def versionLine : String := "device-pop 0.1.0"

/-- What the program does for a list of arguments: its exit code, what it prints, and why it fails
if it does. Misused arguments have an exit code of their own. -/
def program (surroundings : Surroundings) (arguments : List String) :
    FileDialogue (Nat × Report) := do
  match Arguments.read surroundings.environment arguments with
  | .error .version => return (0, .success [versionLine])
  | .error .help => return (0, .success [])
  | .error .misuse => return (2, .success [])
  | .ok invocation =>
    let report ← perform surroundings invocation
    return (report.exitCode, report)

end CommandLine

end Possession

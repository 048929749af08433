import Possession.Store.Record
import Possession.Store.Software

/-!
# Keys in a keychain

The store that keeps each key as a password of one service in the keychain of the system, the alias
being the user. Each of the keychain's calls may fail.
-/

namespace Possession

/-- Why a keychain refuses. -/
inductive KeychainFault where
  | noEntry
  /-- A password that is not UTF-8. -/
  | badEncoding
  | noStorageAccess (reason : String)
  | tooLong (name : String) (limit : Nat)
  | invalid (name reason : String)
  /-- Several passwords of which any could be meant; `candidates` shows them. -/
  | ambiguous (count : Nat) (candidates : String)
  | platformFailure (reason : String)
  deriving DecidableEq, Repr

def KeychainFault.message : KeychainFault → String
  | .noEntry => "No matching entry found in secure storage"
  | .badEncoding => "Password cannot be UTF-8 encoded"
  | .noStorageAccess reason => "Couldn't access platform secure storage: " ++ reason
  | .tooLong name limit =>
    "Attribute '" ++ name ++ "' is longer than platform limit of " ++ toString limit ++ " chars"
  | .invalid name reason => "Attribute " ++ name ++ " is invalid: " ++ reason
  | .ambiguous count candidates =>
    "Entry is matched by " ++ toString count ++ " credendials: " ++ candidates
  | .platformFailure reason => "Platform secure storage failure: " ++ reason

/-- A call of the keychain. -/
inductive KeychainCall where
  | reach
  | get
  | set
  | delete
  deriving DecidableEq, Repr

/-- A keychain: passwords by service and user, the calls that fail, and what new keys are made
of. -/
structure Keychain where
  passwords : List ((String × String) × String)
  fault? : KeychainCall → Option KeychainFault
  supply : Supply

namespace Keychain

def empty (supply : Supply) : Keychain :=
  ⟨[], fun _ => none, supply⟩

/-- The service under which device keys are kept. -/
def service : String := "device-pop"

/-! ## Calls -/

/-- Whether a call fails. -/
def attempt (keychain : Keychain) (call : KeychainCall) : Except KeychainFault Unit :=
  match keychain.fault? call with
  | some fault => .error fault
  | none => .ok ()

def get (keychain : Keychain) (user : String) : Except KeychainFault String := do
  keychain.attempt .get
  match keychain.passwords.lookup (service, user) with
  | some password => return password
  | none => throw .noEntry

def erase (keychain : Keychain) (user : String) : Keychain :=
  { keychain with passwords := keychain.passwords.filter fun item => item.1 != (service, user) }

/-- The keychain with a password of a user, in place of any other. -/
def insert (keychain : Keychain) (user password : String) : Keychain :=
  { keychain with passwords := ((service, user), password) :: (keychain.erase user).passwords }

/-- Sets the password of a user. -/
def set (keychain : Keychain) (user password : String) : Except KeychainFault Keychain := do
  keychain.attempt .set
  return keychain.insert user password

def delete (keychain : Keychain) (user : String) : Except KeychainFault Keychain := do
  keychain.attempt .delete
  match keychain.passwords.lookup (service, user) with
  | some _ => return keychain.erase user
  | none => throw .noEntry

/-! ## The store -/

def reach (keychain : Keychain) : Except StoreError Unit :=
  (keychain.attempt .reach).mapError fun fault => .notInitialized fault.message

def contains (keychain : Keychain) (label : String) : Except StoreError Bool := do
  keychain.reach
  match keychain.get label with
  | .ok _ => return true
  | .error .noEntry => return false
  | .error fault => throw (.backend fault.message)

def readKey (keychain : Keychain) (label : String) : Except StoreError StoredKey := do
  keychain.reach
  match keychain.get label with
  | .ok password => StoredKey.ofJson (Utf8.encode password)
  | .error .noEntry => throw (.notFound label)
  | .error .badEncoding => throw (.unrecoverable "keychain entry is not UTF-8")
  | .error fault => throw (.backend fault.message)

def writeKey (keychain : Keychain) (label : String) (stored : StoredKey) :
    Except StoreError Keychain := do
  keychain.reach
  match keychain.set label stored.toJson with
  | .ok keychain => return keychain
  | .error (.ambiguous _ _) => throw (.backend "Ambiguous keychain entry")
  | .error fault => throw (.backend fault.message)

def removeKey (keychain : Keychain) (label : String) : Except StoreError Keychain := do
  keychain.reach
  match keychain.delete label with
  | .ok keychain => return keychain
  | .error .noEntry => return keychain
  | .error fault => throw (.backend fault.message)

/-- Makes a key and keeps it under an alias. The key is made before the keychain is asked. -/
def generate (keychain : Keychain) (label : String) (spec : KeySpec) :
    Except StoreError KeyEntry × Keychain :=
  if spec.isolated then (.error .isolationUnavailable, keychain)
  else
    match keychain.supply.generateKey spec.bits with
    | (.error error, supply) => (.error error, { keychain with supply })
    | (.ok key, supply) =>
      let keychain := { keychain with supply }
      let written := (StoredKey.ofKey key supply.now).bind (keychain.writeKey label)
      match written with
      | .error error => (.error error, keychain)
      | .ok keychain => (.ok (KeyEntry.ofPrivateKey label key supply.now .software), keychain)

def answer : Partner StoreCall StoreCall.Answer Keychain
  | .contains label, keychain => (some (keychain.contains label), keychain)
  | .generate label spec, keychain =>
    let (result, keychain) := keychain.generate label spec
    (some result, keychain)
  | .entry label, keychain =>
    (some ((keychain.readKey label).bind fun stored => stored.toEntry label), keychain)
  | .delete label, keychain =>
    match keychain.removeKey label with
    | .ok keychain => (some (.ok ()), keychain)
    | .error error => (some (.error error), keychain)
  | .creationDate label, keychain =>
    (some ((keychain.readKey label).map (·.createdAt)), keychain)

def store : KeyStore Keychain :=
  ⟨.software, answer⟩

end Keychain

end Possession

import Possession.Device.Policy
import Possession.Store.Basic

/-!
# The life of the device key

Generating, inspecting and clearing the one key of a device, which a store keeps under a reserved
alias.

* `DeviceKey.generate` asks the store for keys until one is good enough and deletes those that are
  not.
* `DeviceKey.clear` deletes the key.
* The other procedures only read.
-/

namespace Possession

/-- What is told about the device key. -/
structure KeyIdentity where
  label : String
  createdAt : Instant
  thumbprint : String
  hardwareBacked : Bool
  deriving DecidableEq, Repr

def KeyEntry.identity (entry : KeyEntry) : KeyIdentity :=
  ⟨entry.label, entry.createdAt, entry.thumbprint, entry.isHardwareBacked⟩

namespace DeviceKey

/-- The alias of the device key. -/
def label : String := "device-pop"

/-- An answer of the store, with its errors taken for what they mean for the device key. -/
def liftStore {α : Type} (result : Except StoreError α) : Except DeviceError α :=
  result.mapError .ofStoreError

/-! ## Generating -/

/-- Asks for one key, in an isolated module first if the policy prefers that, and without one if
there is none. -/
def generateOnce (policy : Policy) : StoreDialogue (Except StoreError KeyEntry) := do
  let preferred ← StoreDialogue.generate label ⟨policy.keySize, policy.preferIsolation⟩
  match preferred, policy.preferIsolation with
  | .error .isolationUnavailable, true =>
    StoreDialogue.generate label ⟨policy.keySize, false⟩
  | result, _ => return result

/-- Deletes a key that is not good enough. That it cannot be deleted is passed over. -/
def discard : StoreDialogue Unit := do
  let _ ← StoreDialogue.delete label
  return ()

/-- Asks for keys until one is good enough, `attempts` times at most. Deletes each key that is not,
and once more when all attempts are used up. -/
def generateWithin (policy : Policy) : (attempts : Nat) →
    StoreDialogue (Except DeviceError KeyIdentity)
  | 0 => do
    discard
    return .error (.badKeySize policy.minKeySize policy.maxAttempts)
  | attempts + 1 => do
    match ← generateOnce policy with
    | .error error => return .error (.ofStoreError error)
    | .ok entry =>
      if policy.accepts entry.reportedBits then return .ok entry.identity
      else
        discard
        generateWithin policy attempts

/-- Generates the device key in place of any other. A policy that can never produce a usable key is
refused before the store is asked anything. -/
def generate (policy : Policy) : StoreDialogue (Except DeviceError KeyIdentity) :=
  match policy.validate with
  | .error error => return .error error
  | .ok () => generateWithin policy policy.maxAttempts

/-- Deletes the device key; false when the store refuses to. -/
def clear : StoreDialogue Bool := do
  match ← StoreDialogue.delete label with
  | .ok () => return true
  | .error _ => return false

/-! ## Inspecting -/

/-- Whether there is a device key. A store that cannot tell has none. -/
def isPresent : StoreDialogue Bool := do
  match ← StoreDialogue.contains label with
  | .ok present => return present
  | .error _ => return false

def entry : StoreDialogue (Except DeviceError KeyEntry) := do
  return liftStore (← StoreDialogue.entry label)

def thumbprint : StoreDialogue (Except DeviceError String) := do
  return (← entry).map (·.thumbprint)

def identity : StoreDialogue (Except DeviceError KeyIdentity) := do
  return (← entry).map (·.identity)

/-- Whether there is a device key with a given thumbprint. No key has the empty one. -/
def hasThumbprint (wanted : String) : StoreDialogue Bool :=
  if wanted.isEmpty then return false
  else do
    match ← thumbprint with
    | .ok current => return current == wanted
    | .error _ => return false

/-- When the device key was made, if there is one. -/
def creationDate : StoreDialogue (Except DeviceError (Option Instant)) := do
  match ← StoreDialogue.creationDate label with
  | .ok date => return .ok (some date)
  | .error (.notFound _) => return .ok none
  | .error error => return .error (.storeUnavailable error)

end DeviceKey

end Possession

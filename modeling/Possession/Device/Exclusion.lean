import Possession.Device.Lifecycle

/-!
# One change at a time

Several threads may generate and clear the device key of one store. Whoever does holds a lock from
before the first call to the store until after the last, so the others wait. The lock is given up on
every way out, also when a call to the store never comes back; it guards no data of its own, so it
can be taken again after that as after any other change.

A policy that can never produce a usable key is refused before the lock is asked for.
-/

namespace Possession

/-- A call that changes the device key. -/
inductive KeyChange where
  | generate (policy : Policy)
  | clear
  deriving DecidableEq, Repr

namespace KeyChange

abbrev Answer : KeyChange → Type
  | .generate _ => Except DeviceError KeyIdentity
  | .clear => Bool

/-- What a change says with the store. -/
def dialogue : (change : KeyChange) → StoreDialogue change.Answer
  | .generate policy => DeviceKey.generate policy
  | .clear => DeviceKey.clear

/-- Whether a change asks for the lock. -/
def locks : KeyChange → Bool
  | .generate policy => policy.problem?.isNone
  | .clear => true

end KeyChange

/-! ## The lock -/

/-- What a change asks for: the lock, or something of the store. -/
inductive GuardedCall where
  | lock
  | unlock
  | store (call : StoreCall)
  deriving DecidableEq, Repr

def GuardedCall.Answer : GuardedCall → Type
  | .lock | .unlock => Unit
  | .store call => call.Answer

/-- A procedure over a key store and the lock of its changes. -/
abbrev GuardedDialogue (α : Type) : Type :=
  Dialogue GuardedCall GuardedCall.Answer α

namespace GuardedDialogue

variable {α : Type}

/-- Goes through with a procedure of somebody who holds the lock, and gives the lock up. -/
def holding : StoreDialogue α → GuardedDialogue α
  | .done value => .ask .unlock fun _ => .done value
  | .ask call next => .ask (.store call) fun answer => holding (next answer)

/-- Takes the lock first. -/
def exclusively (dialogue : StoreDialogue α) : GuardedDialogue α :=
  .ask .lock fun _ => holding dialogue

end GuardedDialogue

/-- A change beside others. -/
def KeyChange.guarded : (change : KeyChange) → GuardedDialogue change.Answer
  | .generate policy =>
    match policy.validate with
    | .error error => .done (.error error)
    | .ok () => GuardedDialogue.exclusively (DeviceKey.generateWithin policy policy.maxAttempts)
  | .clear => GuardedDialogue.exclusively DeviceKey.clear

end Possession

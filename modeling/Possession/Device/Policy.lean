import Possession.Device.Error
import Possession.Json.Printer
import Possession.Jwk

/-!
# Generation policies

How the device key is generated, and which keys are good enough.
-/

namespace Possession

/-- How a key is generated: the size asked for, the smallest size accepted, how often generation is
attempted, and whether an isolated module is asked for first. -/
structure Policy where
  keySize : Nat
  minKeySize : Nat
  maxAttempts : Nat
  preferIsolation : Bool
  deriving DecidableEq, Repr

namespace Policy

/-- The policy that is used where nothing else is said. -/
def standard : Policy :=
  ⟨2048, 2048, 4, true⟩

/-- Whether a key of a reported size is good enough. A negative size is that of a key whose store
cannot tell; it is taken on trust. -/
def accepts (policy : Policy) (bits : Int) : Bool :=
  bits < 0 || policy.minKeySize ≤ bits.toNat

/-- What makes a policy unusable. -/
def problem? (policy : Policy) : Option String :=
  if policy.maxAttempts = 0 then some "max_attempts must be at least 1"
  else if policy.keySize < policy.minKeySize then
    let least := policy.minKeySize
    let wanted := policy.keySize
    some s!"min_key_size_bits ({least}) exceeds key_size_bits ({wanted})"
  else none

/-- Refuses a policy that can never produce a usable key. -/
def validate (policy : Policy) : Except DeviceError Unit :=
  match policy.problem? with
  | some problem => .error (.protectionInvalid problem)
  | none => .ok ()

/-! ## JSON -/

/-- The largest size of a key that can be asked for. -/
def maxSize : Nat := 0xffff_ffff_ffff_ffff

/-- The largest number of attempts that can be asked for. -/
def maxCount : Nat := 0xffff_ffff

def sizeMember (name : String) (absent : Nat) : Json.Member :=
  ⟨name, Json.readInteger "usize" 0 maxSize, some (.integer absent)⟩

/-- How a policy is read: every member may be absent. -/
def shape : Json.Shape where
  name := "GenerationPolicy"
  members := [sizeMember "key_size_bits" standard.keySize,
    sizeMember "min_key_size_bits" standard.minKeySize,
    ⟨"max_attempts", Json.readInteger "u32" 0 maxCount, some (.integer standard.maxAttempts)⟩,
    ⟨"prefer_hardware_isolation", Json.readFlag, some (.flag standard.preferIsolation)⟩]

/-- The policy that a value of the shape stands for. -/
def ofValue? : Json.Value → Option Policy
  | .record [.integer keySize, .integer minKeySize, .integer maxAttempts, .flag preferIsolation] =>
    some ⟨keySize.toNat, minKeySize.toNat, maxAttempts.toNat, preferIsolation⟩
  | _ => none

def ofJson (bytes : Bytes) : Except Json.Error Policy :=
  shape.decode ofValue? bytes

def toJson (policy : Policy) : String :=
  Json.writeRecord [("key_size_bits", toString policy.keySize),
    ("min_key_size_bits", toString policy.minKeySize),
    ("max_attempts", toString policy.maxAttempts),
    ("prefer_hardware_isolation", Json.writeFlag policy.preferIsolation)]

end Policy

end Possession

import Possession.Algorithm
import Possession.Instant.Printer
import Possession.Store.Error
import Possession.Text.Quoted
import Possession.Thumbprint

/-!
# Entries of key stores

What a store hands out for a key: its public half, what is known about it, and the means to sign
with it. The private half stays inside.
-/

namespace Possession

/-- Where a store keeps private keys. -/
inductive Backing where
  | software
  | hardwareBacked
  | isolatedModule
  deriving DecidableEq, Repr

namespace Backing

def name : Backing → String
  | .software => "software"
  | .hardwareBacked => "hardware-backed"
  | .isolatedModule => "isolated-module"

def label : Backing → String
  | .software => "Software"
  | .hardwareBacked => "HardwareBacked"
  | .isolatedModule => "IsolatedModule"

def ofName? (text : String) : Option Backing :=
  [software, hardwareBacked, isolatedModule].find? fun backing => backing.name == text

end Backing

/-- What a store can offer. -/
structure Capabilities where
  backing : Backing
  isolation : Bool
  deriving DecidableEq, Repr

/-- What is asked of a new key: its size, and whether it must lie in an isolated module. -/
structure KeySpec where
  bits : Nat
  isolated : Bool
  deriving DecidableEq, Repr

/-- A stored key. The reported size is negative when the store cannot tell. Signing takes the salt
to be used by salted algorithms. -/
structure KeyEntry where
  label : String
  publicKey : Rsa.PublicKey
  createdAt : Instant
  backing : Backing
  reportedBits : Int
  sign : Algorithm → (salt message : Bytes) → Except StoreError Bytes

namespace KeyEntry

def thumbprint (entry : KeyEntry) : String :=
  Thumbprint.ofKey entry.publicKey

def publicJwk (entry : KeyEntry) : Jwk :=
  Jwk.ofKey entry.publicKey

/-- Whether the private key is kept by more than software. -/
def isHardwareBacked (entry : KeyEntry) : Bool :=
  entry.backing != .software

/-- Whether a signature belongs to a message. -/
def verify (entry : KeyEntry) (algorithm : Algorithm) (message signature : Bytes) : Bool :=
  algorithm.verify entry.publicKey message signature

/-- An entry in a report: nothing of the private key. -/
def report (entry : KeyEntry) : String :=
  "KeyEntry \x7b alias: " ++ Text.quoted entry.label ++ ", thumbprint: " ++
    Text.quoted entry.thumbprint ++ ", created_at: " ++ entry.createdAt.text ++ ", backing: " ++
    entry.backing.label ++ ", .. \x7d"

/-- The largest size that is reported. -/
def maxReportedBits : Nat := 0x7fff_ffff

def ofPrivateKey (label : String) (key : Rsa.PrivateKey) (createdAt : Instant)
    (backing : Backing) : KeyEntry where
  label := label
  publicKey := key.publicKey
  createdAt := createdAt
  backing := backing
  reportedBits := min key.publicKey.bits maxReportedBits
  sign := fun algorithm salt message =>
    (algorithm.sign key salt message).mapError fun fault =>
      .signing (RequestError.signing fault).message

end KeyEntry

end Possession

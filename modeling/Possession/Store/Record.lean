import Possession.Der.KeyInfo
import Possession.Instant.Reader
import Possession.Json.Printer
import Possession.Store.Entry

/-!
# Stored keys

The text in which a private key is kept: a JSON record of the time at which the key was made and the
key itself, as base64 of its `PrivateKeyInfo`.

* `StoredKey.ofKey` and `StoredKey.toJson` write a key.
* `StoredKey.ofJson` and `StoredKey.toKey` read it; whatever stands in the place of a record, the
  only error is that it is unrecoverable.
-/

namespace Possession

/-- A private key as it is kept. -/
structure StoredKey where
  createdAt : Instant
  /-- Base64 of the `PrivateKeyInfo`. -/
  sealed : String
  deriving DecidableEq, Repr

namespace StoredKey

/-- Puts a key into the form in which it is kept, unless that is longer than the encoding allows. -/
def ofKey (key : Rsa.PrivateKey) (createdAt : Instant) : Except StoreError StoredKey :=
  let encoded := key.toDer
  if Der.maxLength < encoded.length then
    .error (.backend "PKCS#8 encoding failed: PKCS#8 ASN.1 error: integer overflow")
  else .ok ⟨createdAt, Base64.standard.encode encoded⟩

/-- Takes the key out. -/
def toKey (stored : StoredKey) : Except StoreError Rsa.PrivateKey :=
  match Base64.standard.decode stored.sealed with
  | .error fault => .error (.unrecoverable ("Base64 decode error: " ++ fault.message))
  | .ok bytes =>
    match Rsa.PrivateKey.ofDer? bytes with
    | none => .error (.unrecoverable "PKCS#8 decode error")
    | some key => .ok key

/-! ## JSON -/

/-- Why a text is no time. -/
def timeRefusal? (text : String) : Option String :=
  match Instant.parse text with
  | .ok _ => none
  | .error fault => some fault.message

def shape : Json.Shape where
  name := "StoredKeyRecord"
  members := [
    ⟨"created_at", Json.readTextThat "an RFC 3339 formatted date and time string" timeRefusal?,
      none⟩,
    ⟨"private_key", Json.readAnyText, none⟩]

/-- The stored key that a value of the shape stands for. -/
def ofValue? : Json.Value → Option StoredKey
  | .record [.text createdAt, .text sealed] => do
    let createdAt ← (Instant.parse createdAt).toOption
    return ⟨createdAt, sealed⟩
  | _ => none

def ofJson (bytes : Bytes) : Except StoreError StoredKey :=
  (shape.decode ofValue? bytes).mapError fun fault =>
    .unrecoverable ("Malformed key record: " ++ fault.message)

def toJson (stored : StoredKey) : String :=
  Json.writeRecord [("created_at", Json.writeText stored.createdAt.text),
    ("private_key", Json.writeText stored.sealed)]

/-! ## Entries -/

def toEntry (stored : StoredKey) (label : String) : Except StoreError KeyEntry := do
  let key ← stored.toKey
  return KeyEntry.ofPrivateKey label key stored.createdAt .software

end StoredKey

end Possession

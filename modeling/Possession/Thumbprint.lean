import Possession.Digest
import Possession.Jwk

/-!
# Thumbprints

The thumbprint of a key is the SHA-256 hash value of its canonical JSON text, whose members stand in
lexicographic order, in base64url.
-/

namespace Possession
namespace Thumbprint

/-- The canonical text of a key from the texts of its numbers, which are taken as they are. -/
def canonical (modulus exponent : String) : String :=
  "\x7b\"e\":\"" ++ exponent ++ "\",\"kty\":\"RSA\",\"n\":\"" ++ modulus ++ "\"\x7d"

/-- The thumbprint of a key from the texts of its numbers. -/
def ofComponents (modulus exponent : String) : String :=
  Base64.url.encode (Digest.sha256.hash (Utf8.encode (canonical modulus exponent)))

def ofKey (key : Rsa.PublicKey) : String :=
  ofComponents (Jwk.number key.modulus) (Jwk.number key.exponent)

/-- The thumbprint of a key's JSON form as it stands, if it is of an RSA key with two numbers. -/
def ofJwk (jwk : Jwk) : Except RequestError String := do
  let _ ← jwk.components
  return ofComponents jwk.modulus jwk.exponent

end Thumbprint
end Possession

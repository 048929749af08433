import Possession.Algorithm
import Possession.Target
import Possession.Thumbprint
import Possession.Token

/-!
# Minting tokens

A token is minted for a request by a signer: something that has an algorithm, can tell its public
key and can sign. Refusals come in a fixed order: the URL, the public key, the form of the key, the
signature.
-/

namespace Possession

/-- The request that a token is minted for. -/
structure Request where
  url : String
  accessToken : String
  timestamp : Int
  method : Option String
  nonce : Option String
  deriving DecidableEq, Repr

/-- A key that can sign, with errors of its own among which there are those of requests. -/
structure Signer (ε : Type) where
  algorithm : Algorithm
  publicJwk : Except ε Jwk
  sign : Bytes → Except ε Bytes
  refuse : RequestError → ε

namespace Mint

/-- A text that counts as absent when it is empty. -/
def nonEmpty (text : Option String) : Option String :=
  text.filter fun text => !text.isEmpty

def claims (request : Request) (target : Target) (jwk : Jwk) : Claims where
  accessToken := request.accessToken
  timestamp := request.timestamp
  authority := String.ofList target.authority
  path := target.path
  method := nonEmpty request.method
  nonce := nonEmpty request.nonce
  confirmation := ⟨jwk⟩

def header (algorithm : Algorithm) (thumbprint : String) : Header :=
  ⟨algorithm.name, thumbprint⟩

/-- Reports an error of a request as one of the signer. -/
def liftError {ε α : Type} (signer : Signer ε) (result : Except RequestError α) : Except ε α :=
  result.mapError signer.refuse

end Mint

def mint {ε : Type} (signer : Signer ε) (request : Request) : Except ε String := do
  let target ← Mint.liftError signer (Target.parse request.url)
  let jwk ← signer.publicJwk
  let thumbprint ← Mint.liftError signer (Thumbprint.ofJwk jwk)
  let signingInput := Token.signingInputOf (Mint.header signer.algorithm thumbprint)
    (Mint.claims request target jwk)
  let signature ← signer.sign (Utf8.encode signingInput)
  return Token.join signingInput signature

/-! ## Clients -/

/-- A client that holds its private key itself. -/
structure Client where
  key : Rsa.PrivateKey
  algorithm : Algorithm
  deriving DecidableEq, Repr

namespace Client

/-- The client of a key, with the usual algorithm. -/
def ofKey (key : Rsa.PrivateKey) : Client :=
  ⟨key, Algorithm.rs256⟩

def thumbprint (client : Client) : String :=
  Thumbprint.ofKey client.key.publicKey

def publicJwk (client : Client) : Jwk :=
  Jwk.ofKey client.key.publicKey

/-- The client as a signer that uses a given salt. -/
def signer (client : Client) (salt : Bytes) : Signer RequestError where
  algorithm := client.algorithm
  publicJwk := .ok client.publicJwk
  sign := fun message => (client.algorithm.sign client.key salt message).mapError .signing
  refuse := id

def mint (client : Client) (salt : Bytes) (request : Request) : Except RequestError String :=
  Possession.mint (client.signer salt) request

end Client

end Possession

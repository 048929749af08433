import Possession.Algorithm
import Possession.Text.Quoted
import Possession.Thumbprint
import Possession.Token

/-!
# Validation of tokens

What a resource server checks of a token before it serves the request. The token must be whole and
signed with the key that it names; only then its time and its claims are held against what the
server expects. Expectations that are not set are not checked.

* `validate` checks a token at a given time.
* `verifyBinding` compares the thumbprint of a token's key with the one an access token is bound to.
-/

namespace Possession

/-- What a server expects of a request. -/
structure Expectations where
  maxAge : Nat
  method : Option String
  authority : Option String
  path : Option String
  requireNonce : Bool
  nonce : Option String
  accessToken : Option String
  deriving DecidableEq, Repr

/-- The age that is accepted where nothing else is said, in seconds. -/
def Expectations.defaultMaxAge : Nat := 60

/-- What is expected where nothing else is said: a recent request. -/
def Expectations.standard : Expectations :=
  ⟨defaultMaxAge, none, none, none, false, none, none⟩

/-- A token that passed. -/
structure Accepted where
  algorithm : Algorithm
  thumbprint : String
  claims : Claims
  deriving DecidableEq, Repr

/-- Why a token is refused. -/
inductive Refusal where
  | format
  | encoding
  | json (reason : String)
  | unsupportedAlgorithm (name : String)
  | invalidKey (reason : String)
  | invalidSignature
  | keyIdMismatch (keyId thumbprint : String)
  | expired (timestamp now : Int)
  | methodMismatch (expected : String) (actual : Option String)
  | authorityMismatch (expected actual : String)
  | pathMismatch (expected : String) (actual : Option String)
  | missingNonce
  | nonceMismatch
  | accessTokenMismatch
  | thumbprintMismatch (expected actual : String)
  deriving DecidableEq, Repr

namespace Refusal

def shown : Option String → String
  | some text => "Some(" ++ Text.quoted text ++ ")"
  | none => "None"

def message : Refusal → String
  | .format => "Invalid token format"
  | .encoding => "Base64 decode error"
  | .json reason => "JSON parse error: " ++ reason
  | .unsupportedAlgorithm name => "Unsupported algorithm: " ++ name
  | .invalidKey reason => "Invalid confirmation key: " ++ reason
  | .invalidSignature => "Invalid signature"
  | .keyIdMismatch keyId thumbprint =>
    s!"Key id does not match confirmation key (kid={keyId}, thumbprint={thumbprint})"
  | .expired timestamp now => s!"Signed request expired (ts={timestamp}, now={now})"
  | .methodMismatch expected actual =>
    s!"Method mismatch (expected={expected}, actual={shown actual})"
  | .authorityMismatch expected actual => s!"Host mismatch (expected={expected}, actual={actual})"
  | .pathMismatch expected actual => s!"Path mismatch (expected={expected}, actual={shown actual})"
  | .missingNonce => "Missing nonce"
  | .nonceMismatch => "Nonce mismatch"
  | .accessTokenMismatch => "Access token mismatch"
  | .thumbprintMismatch expected actual =>
    s!"Thumbprint mismatch (expected={expected}, actual={actual})"

/-- An error of reading a token or its key as a refusal. -/
def ofError : RequestError → Refusal
  | .tokenFormat => .format
  | .segmentEncoding => .encoding
  | .json fault => .json fault.message
  | .unsupportedAlgorithm name => .unsupportedAlgorithm name
  | .invalidJwk reason => .invalidKey reason
  | .invalidSignature | .signing _ => .invalidSignature
  | .invalidUrl reason | .keyEncoding reason => .json reason
  | .keyGeneration fault => .invalidKey fault.message

end Refusal

namespace Validation

/-- How far a timestamp may be ahead of the server's clock, in seconds. -/
def maxLead : Int := 5

/-- Keeps a number inside the range of 64-bit integers. -/
def saturate (value : Int) : Int :=
  max Claims.minTimestamp (min Claims.maxTimestamp value)

/-- Whether a timestamp is too old or too far ahead. Differences and sums stay inside the range of
64-bit integers. -/
def isExpired (maxAge : Nat) (now timestamp : Int) : Bool :=
  decide (min (Int.ofNat maxAge) Claims.maxTimestamp < saturate (now - timestamp)) ||
    decide (saturate (now + maxLead) < timestamp)

/-- The token, its algorithm and the thumbprint of its key, if the token is signed with the key that
it names. Nothing that the server expects is looked at. -/
def authenticate (text : String) : Except Refusal (Token × Algorithm × String) := do
  let token ← (Token.decode text).mapError Refusal.ofError
  match Algorithm.ofHeader? token.header.algorithm with
  | none => throw (.unsupportedAlgorithm token.header.algorithm)
  | some algorithm =>
    let jwk := token.claims.confirmation.jwk
    let key ← jwk.toKey.mapError Refusal.ofError
    if !algorithm.verify key (Utf8.encode token.signingInput) token.signature then
      throw .invalidSignature
    let thumbprint ← (Thumbprint.ofJwk jwk).mapError Refusal.ofError
    if token.header.keyId ≠ thumbprint then
      throw (.keyIdMismatch token.header.keyId thumbprint)
    return (token, algorithm, thumbprint)

/-- What is wrong with the nonce of a request, when one is required. -/
def nonceRefusal? (expected actual : Option String) : Option Refusal :=
  match actual, expected with
  | none, _ => some .missingNonce
  | some actual, some expected => if actual = expected then none else some .nonceMismatch
  | some _, none => none

/-- The first of the server's expectations that claims do not meet. -/
def claimsRefusal? (expectations : Expectations) (now : Int) (claims : Claims) : Option Refusal :=
  if isExpired expectations.maxAge now claims.timestamp then
    some (.expired claims.timestamp now)
  else
    (match expectations.method with
      | some expected =>
        if claims.method = some expected then none
        else some (.methodMismatch expected claims.method)
      | none => none) <|>
    (match expectations.authority with
      | some expected =>
        if Ascii.eqIgnoringCase claims.authority expected then none
        else some (.authorityMismatch expected claims.authority)
      | none => none) <|>
    (match expectations.path with
      | some expected =>
        if claims.path = some expected then none else some (.pathMismatch expected claims.path)
      | none => none) <|>
    (if expectations.requireNonce then nonceRefusal? expectations.nonce claims.nonce else none) <|>
    (match expectations.accessToken with
      | some expected => if claims.accessToken = expected then none else some .accessTokenMismatch
      | none => none)

end Validation

/-- Checks a token at a given time, in seconds. -/
def validate (text : String) (expectations : Expectations) (now : Int) :
    Except Refusal Accepted := do
  let (token, algorithm, thumbprint) ← Validation.authenticate text
  match Validation.claimsRefusal? expectations now token.claims with
  | some refusal => throw refusal
  | none => return ⟨algorithm, thumbprint, token.claims⟩

/-- Checks that the key of a request is the one that an access token is bound to. -/
def verifyBinding (request bound : String) : Except Refusal Unit :=
  if request = bound then .ok () else .error (.thumbprintMismatch bound request)

end Possession

import Possession.Jwk

/-!
# Signed request tokens

A token is three base64url segments joined by dots: a header, claims, and a signature over the text
before the second dot.

* `Token.decode` takes a token apart without checking its signature.
* `Header.toJson` and `Claims.toJson` write what the first two segments hold; absent claims are left
  out.
-/

namespace Possession

/-- The header of a token: the name of its algorithm and the thumbprint of its key. -/
structure Header where
  algorithm : String
  keyId : String
  deriving DecidableEq, Repr

namespace Header

/-- How a header is read: two texts. -/
def shape : Json.Shape where
  name := "ShrHeader"
  members := [⟨"alg", Json.readAnyText, none⟩, ⟨"kid", Json.readAnyText, none⟩]

/-- The header that a value of the shape stands for. -/
def ofValue? : Json.Value → Option Header
  | .record [.text algorithm, .text keyId] => some ⟨algorithm, keyId⟩
  | _ => none

def ofJson (bytes : Bytes) : Except Json.Error Header :=
  shape.decode ofValue? bytes

def toJson (header : Header) : String :=
  Json.writeRecord [("alg", Json.writeText header.algorithm), ("kid", Json.writeText header.keyId)]

end Header

/-- The claims of a token: the access token, the time in seconds, host and port, path, method and
nonce of the request, and the key. -/
structure Claims where
  accessToken : String
  timestamp : Int
  authority : String
  path : Option String
  method : Option String
  nonce : Option String
  confirmation : Confirmation
  deriving DecidableEq, Repr

namespace Claims

/-- The smallest integer of 64 bits. -/
def minTimestamp : Int := -0x8000_0000_0000_0000

/-- The largest integer of 64 bits. -/
def maxTimestamp : Int := 0x7fff_ffff_ffff_ffff

/-- A text that may be absent or `null`. -/
def optional (name : String) : Json.Member :=
  ⟨name, Json.readNullable Json.readAnyText, some .null⟩

def shape : Json.Shape where
  name := "ShrClaims"
  members := [⟨"at", Json.readAnyText, none⟩,
    ⟨"ts", Json.readInteger "i64" minTimestamp maxTimestamp, none⟩,
    ⟨"u", Json.readAnyText, none⟩, optional "p", optional "m", optional "nonce",
    ⟨"cnf", Confirmation.shape.read, none⟩]

/-- The optional text that a value stands for. -/
def textOrNull? : Json.Value → Option (Option String)
  | .text text => some (some text)
  | .null => some none
  | _ => none

/-- The claims that a value of the shape stands for. -/
def ofValue? : Json.Value → Option Claims
  | .record [.text accessToken, .integer timestamp, .text authority, path, method, nonce, key] => do
    return {
      accessToken, timestamp, authority
      path := ← textOrNull? path
      method := ← textOrNull? method
      nonce := ← textOrNull? nonce
      confirmation := ← Confirmation.ofValue? key }
  | _ => none

def ofJson (bytes : Bytes) : Except Json.Error Claims :=
  shape.decode ofValue? bytes

/-- A member that is left out when its text is absent. -/
def member? (name : String) (text : Option String) : List (String × String) :=
  match text with
  | some text => [(name, Json.writeText text)]
  | none => []

def toJson (claims : Claims) : String :=
  Json.writeRecord
    ([("at", Json.writeText claims.accessToken), ("ts", toString claims.timestamp),
      ("u", Json.writeText claims.authority)] ++
      member? "p" claims.path ++ member? "m" claims.method ++ member? "nonce" claims.nonce ++
      [("cnf", claims.confirmation.toJson)])

end Claims

/-- A token taken apart: what its segments hold, and the text that its signature covers. -/
structure Token where
  header : Header
  claims : Claims
  signingInput : String
  signature : Bytes
  deriving DecidableEq, Repr

namespace Token

/-- The three segments of a token between its dots, none of them empty. -/
def segments? (text : String) : Option (String × String × String) :=
  match text.toList.splitOn '.' with
  | [header, claims, signature] =>
    if header.isEmpty || claims.isEmpty || signature.isEmpty then none
    else some (String.ofList header, String.ofList claims, String.ofList signature)
  | _ => none

def segmentBytes (segment : String) : Except RequestError Bytes :=
  match Base64.url.decode segment with
  | .ok bytes => .ok bytes
  | .error _ => .error .segmentEncoding

/-- Reports a fault of a JSON text. -/
def readJson {α : Type} (reading : Except Json.Error α) : Except RequestError α :=
  match reading with
  | .ok value => .ok value
  | .error fault => .error (.json fault)

/-- Takes a token apart. All segments are decoded before the first two are read. -/
def decode (text : String) : Except RequestError Token := do
  match segments? text with
  | none => throw .tokenFormat
  | some (header, claims, signature) =>
    let headerBytes ← segmentBytes header
    let claimsBytes ← segmentBytes claims
    let signatureBytes ← segmentBytes signature
    let decodedHeader ← readJson (Header.ofJson headerBytes)
    let decodedClaims ← readJson (Claims.ofJson claimsBytes)
    return {
      header := decodedHeader
      claims := decodedClaims
      signingInput := header ++ "." ++ claims
      signature := signatureBytes }

/-- The segment that holds a JSON text. -/
def segment (json : String) : String :=
  Base64.url.encode (Utf8.encode json)

/-- The text that a signature over header and claims covers. -/
def signingInputOf (header : Header) (claims : Claims) : String :=
  segment header.toJson ++ "." ++ segment claims.toJson

def join (signingInput : String) (signature : Bytes) : String :=
  signingInput ++ "." ++ Base64.url.encode signature

end Token

end Possession

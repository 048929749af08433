import Possession.Url.Host

/-!
# URLs

Reading of absolute URLs, as far as scheme, host and port are concerned. Controls and spaces at the
ends are dropped and tabs and line ends are ignored everywhere. The schemes of the web have rules of
their own: any number of slashes and backslashes may stand before the host, there must be a host,
and it is a domain name or an address.
-/

namespace Possession

/-- An absolute URL: its scheme in lower case, its host if it has one, and its port unless it is the
one the scheme implies. -/
structure Url where
  scheme : List Char
  host : Option Url.Host
  port : Option Nat
  deriving DecidableEq, Repr

namespace Url

/-! ## Schemes -/

/-- The kinds of schemes that are read differently. -/
inductive Kind where
  | web
  | file
  | other
  deriving DecidableEq, Repr

def impliedPort? (scheme : List Char) : Option Nat :=
  if scheme = "http".toList ∨ scheme = "ws".toList then some 80
  else if scheme = "https".toList ∨ scheme = "wss".toList then some 443
  else if scheme = "ftp".toList then some 21
  else none

def kind (scheme : List Char) : Kind :=
  if scheme = "file".toList then .file
  else if (impliedPort? scheme).isSome then .web
  else .other

/-- Whether a character may stand in a scheme. -/
def isSchemeChar (c : Char) : Bool :=
  c.isAlphanum || c == '+' || c == '-' || c == '.'

/-- The scheme at the front, in lower case, and the text behind its colon. -/
def readScheme? (chars : List Char) : Option (List Char × List Char) :=
  let scheme := chars.takeWhile isSchemeChar
  match scheme, chars.drop scheme.length with
  | first :: _, ':' :: rest =>
    if first.isAlpha then some (scheme.map Char.toLower, rest) else none
  | _, _ => none

/-! ## Parts of the text -/

/-- Controls and the space, which are dropped at the ends. -/
def isEdge (c : Char) : Bool :=
  c.toNat ≤ 32

/-- Tabs and line ends, which are ignored everywhere. -/
def isIgnored (c : Char) : Bool :=
  c == '\t' || c == '\n' || c == '\r'

/-- Slashes and backslashes. -/
def isSlash (c : Char) : Bool :=
  c == '/' || c == '\\'

/-- Whether a character ends the part that holds user and host. Backslashes do so where the scheme
takes them for slashes. -/
def endsAuthority (special : Bool) (c : Char) : Bool :=
  c == '/' || c == '?' || c == '#' || (special && c == '\\')

/-- The list without its first part up to and including the last character that equals `c`, and the
part before that character, if there is one. -/
def splitLast (c : Char) (chars : List Char) : Option (List Char × List Char) :=
  if chars.contains c then
    let after := (chars.reverse.takeWhile (· != c)).reverse
    some (chars.take (chars.length - after.length - 1), after)
  else none

/-- Whether a user part says anything: a name, or a password behind its colon. -/
def namesUser (userinfo : List Char) : Bool :=
  match userinfo with
  | [] => false
  | [':'] => false
  | _ => true

/-- Drops the user part of a text that begins with one, and says whether that named a user. -/
def readUser (special : Bool) (chars : List Char) : Except Fault (Bool × List Char) :=
  let authority := chars.takeWhile fun c => !endsAuthority special c
  match splitLast '@' authority with
  | none => .ok (false, chars)
  | some (userinfo, host) =>
    let rest := host ++ chars.drop authority.length
    if userinfo.isEmpty then
      match rest with
      | c :: _ => if endsAuthority special c then .error .emptyHost else .ok (false, rest)
      | [] => .ok (false, rest)
    else .ok (namesUser userinfo, rest)

/-- The host at the front: everything up to a colon outside brackets or the end of the part. -/
def takeHost (special : Bool) : (bracketed : Bool) → List Char → List Char
  | _, [] => []
  | bracketed, c :: rest =>
    if endsAuthority special c || (c == ':' && !bracketed) then []
    else
      c :: takeHost special (if c == '[' then true else if c == ']' then false else bracketed) rest

/-- Reads the port at the front, if there is one, up to the end of the part. -/
def readPort (implied : Option Nat) (chars : List Char) : Except Fault (Option Nat) :=
  let digits := chars.takeWhile Char.isDigit
  let value := Digits.decimal digits
  if 65535 < value then .error .invalidPort
  else
    match chars.drop digits.length with
    | c :: _ =>
      if endsAuthority true c then
        .ok (if digits.isEmpty ∨ some value = implied then none else some value)
      else .error .invalidPort
    | [] => .ok (if digits.isEmpty ∨ some value = implied then none else some value)

/-- Reads user, host and port behind the slashes. -/
def readAuthority (scheme : List Char) (special : Bool) (chars : List Char) :
    Except Fault Url := do
  let (named, rest) ← readUser special chars
  let text := takeHost special false rest
  if special && text.isEmpty then throw .emptyHost
  let host ← if special then Host.parse text else Host.parseOpaque text
  match rest.drop text.length with
  | ':' :: rest =>
    if host.isEmpty then throw .emptyHost
    let port ← readPort (impliedPort? scheme) rest
    return ⟨scheme, some host, port⟩
  | _ =>
    if host.isEmpty then
      if named then throw .emptyHost
      return ⟨scheme, none, none⟩
    return ⟨scheme, some host, none⟩

/-! ## Files -/

/-- Whether a text is a letter and a colon or bar, which names a drive and not a host. -/
def isDrive (chars : List Char) : Bool :=
  match chars with
  | [letter, mark] => letter.isAlpha && (mark == ':' || mark == '|')
  | _ => false

/-- Whether a path segment stands for the directory itself. -/
def isDot (segment : List Char) : Bool :=
  let text := Ascii.lower (String.ofList segment)
  text == "." || text == "%2e"

/-- Whether a path segment stands for the directory above. -/
def isDoubleDot (segment : List Char) : Bool :=
  let text := Ascii.lower (String.ofList segment)
  text == ".." || text == ".%2e" || text == "%2e." || text == "%2e%2e"

/-- The pieces of a path between its slashes. -/
def pathSegments : List Char → List (List Char)
  | [] => [[]]
  | c :: rest =>
    if isSlash c then [] :: pathSegments rest
    else
      match pathSegments rest with
      | segment :: more => (c :: segment) :: more
      | [] => [[c]]

/-- Whether a segment that names a drive comes first once dots are resolved. `depth` counts the
segments above. -/
def beginsWithDrive : (depth : Nat) → List (List Char) → Bool
  | _, [] => false
  | depth, segment :: rest =>
    if isDoubleDot segment then beginsWithDrive (depth - 1) rest
    else if isDot segment then beginsWithDrive depth rest
    else (depth == 0 && isDrive segment) || beginsWithDrive (depth + 1) rest

/-- Reads the host of a file URL. The local host counts as none, and so does any host before a path
that begins with a drive. -/
def readFile (scheme chars : List Char) : Except Fault Url := do
  match chars with
  | first :: second :: rest =>
    if isSlash first && isSlash second then
      let text := rest.takeWhile fun c => !endsAuthority true c
      if text.isEmpty || isDrive text then return ⟨scheme, none, none⟩
      let host ← Host.parse text
      let path := (rest.drop text.length).takeWhile fun c => c != '?' && c != '#'
      let segments :=
        pathSegments (if (path.head?.map isSlash).getD false then path.drop 1 else path)
      if host = .domain "localhost".toList || beginsWithDrive 0 segments then
        return ⟨scheme, none, none⟩
      return ⟨scheme, some host, none⟩
    else return ⟨scheme, none, none⟩
  | _ => return ⟨scheme, none, none⟩

/-! ## Whole URLs -/

def parseChars (chars : List Char) : Except Fault Url :=
  let trimmed := ((chars.dropWhile isEdge).reverse.dropWhile isEdge).reverse
  match readScheme? (trimmed.filter fun c => !isIgnored c) with
  | none => .error .relative
  | some (scheme, rest) =>
    match kind scheme with
    | .web => readAuthority scheme true (rest.dropWhile isSlash)
    | .file => readFile scheme rest
    | .other =>
      match rest with
      | '/' :: '/' :: rest => readAuthority scheme false rest
      | _ => .ok ⟨scheme, none, none⟩

def parse (text : String) : Except Fault Url :=
  parseChars text.toList

end Url

end Possession

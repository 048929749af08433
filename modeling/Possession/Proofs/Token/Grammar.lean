import Possession.Proofs.Json.Readers
import Possession.Proofs.Token.Canonicity

/-!
# What the segments of a token may hold

Header and claims are read from the octets that a grammar gives them: one JSON value, either an
object in which each known field occurs once, or once at most if it may be absent, or a list that
has the fields in order. Members of other names may hold values of any kind.

* `Header.IsWritten` and `Claims.IsWritten` relate a header and claims to the octets in which they
  may be written.
* `Token.decode_grammar` says that these are read, and no others, and that readers which take the
  first or the last of several members of a name read the same.
-/

namespace Possession

open Json

/-! ## Fields -/

namespace Jwk

def fields (jwk : Jwk) : List Field :=
  [.text "kty" jwk.keyType, .text "n" jwk.modulus, .text "e" jwk.exponent]

end Jwk

namespace Confirmation

def fields (settle : Settling) (confirmation : Confirmation) : List Field :=
  [.record settle "jwk" confirmation.jwk.fields]

end Confirmation

namespace Header

def fields (header : Header) : List Field :=
  [.text "alg" header.algorithm, .text "kid" header.keyId]

/-- The octets in which a header may be written. -/
def IsWritten (header : Header) (bytes : Bytes) : Prop :=
  ∃ tree, IsDocument tree bytes ∧ tree.IsRecord .once header.fields

end Header

namespace Claims

def fields (settle : Settling) (claims : Claims) : List Field :=
  [.text "at" claims.accessToken, .integer "ts" minTimestamp maxTimestamp claims.timestamp,
    .text "u" claims.authority, .optional "p" claims.path, .optional "m" claims.method,
    .optional "nonce" claims.nonce, .record settle "cnf" (claims.confirmation.fields settle)]

/-- The octets in which claims may be written. -/
def IsWritten (claims : Claims) (bytes : Bytes) : Prop :=
  ∃ tree, IsDocument tree bytes ∧ tree.IsRecord .once (claims.fields .once)

end Claims

/-! ## Members and their fields -/

namespace Json.Binding

def text (name value : String) : Binding where
  member := ⟨name, readAnyText, none⟩
  value := .text value
  field := .text name value
  name_eq := rfl
  reads := recognizes_text value
  absent_iff := ⟨nofun, nofun⟩

def integer (name expected : String) {low high : Int} (value : Int)
    (hlow : -0x8000_0000_0000_0000 ≤ low) (hhigh : high ≤ 0x7fff_ffff_ffff_ffff) : Binding where
  member := ⟨name, readInteger expected low high, none⟩
  value := .integer value
  field := .integer name low high value
  name_eq := rfl
  reads := recognizes_integer expected hlow hhigh
  absent_iff := ⟨nofun, nofun⟩

theorem recognizes_optional (value : Option String) :
    Recognizes (readNullable readAnyText) (Claims.optionalValue value) (·.IsTextOrNull value) := by
  cases value with
  | none => exact recognizes_null readAnyText_ne_null
  | some value =>
    refine (recognizes_text value).nullable nofun ?_
    rintro ⟨_, heq, _⟩
    cases heq

def optional (name : String) (value : Option String) : Binding where
  member := Claims.optional name
  value := Claims.optionalValue value
  field := .optional name value
  name_eq := rfl
  reads := recognizes_optional value
  absent_iff := by
    cases value with
    | none => exact ⟨fun _ => rfl, fun _ => rfl⟩
    | some value => exact ⟨nofun, nofun⟩

def record (name : String) {shape : Shape} {value : Value} {fields : List Field}
    (h : Recognizes shape.read value (Tree.IsRecord .once fields)) : Binding where
  member := ⟨name, shape.read, none⟩
  value := value
  field := .record .once name fields
  name_eq := rfl
  reads := h
  absent_iff := ⟨nofun, nofun⟩

end Json.Binding

namespace Jwk

def bindings (jwk : Jwk) : List Binding :=
  [.text "kty" jwk.keyType, .text "n" jwk.modulus, .text "e" jwk.exponent]

/-- The value that a key is read as. -/
def toValue (jwk : Jwk) : Value :=
  .record (jwk.bindings.map (·.value))

theorem recognizes (jwk : Jwk) :
    Recognizes shape.read jwk.toValue (Tree.IsRecord .once jwk.fields) := by
  have hnames : (jwk.bindings.map (·.field.name)).Nodup :=
    (by decide : ["kty", "n", "e"].Nodup)
  have hrequired : EndsRequired jwk.bindings := by
    rintro _ ⟨⟩
    rfl
  exact @Shape.recognizes shape jwk.bindings rfl hnames hrequired

theorem ofValue?_eq_some_iff {value : Value} {jwk : Jwk} :
    ofValue? value = some jwk ↔ value = jwk.toValue := by
  constructor
  · intro h
    unfold ofValue? at h
    split at h
    · cases h
      rfl
    · cases h
  · rintro rfl
    rfl

end Jwk

namespace Confirmation

def bindings (confirmation : Confirmation) : List Binding :=
  [.record "jwk" confirmation.jwk.recognizes]

/-- The value that a confirmation is read as. -/
def toValue (confirmation : Confirmation) : Value :=
  .record (confirmation.bindings.map (·.value))

theorem recognizes (confirmation : Confirmation) :
    Recognizes shape.read confirmation.toValue
      (Tree.IsRecord .once (confirmation.fields .once)) := by
  have hnames : (confirmation.bindings.map (·.field.name)).Nodup :=
    (by decide : ["jwk"].Nodup)
  have hrequired : EndsRequired confirmation.bindings := by
    rintro _ ⟨⟩
    rfl
  exact @Shape.recognizes shape confirmation.bindings rfl hnames hrequired

theorem ofValue?_eq_some_iff {value : Value} {confirmation : Confirmation} :
    ofValue? value = some confirmation ↔ value = confirmation.toValue := by
  constructor
  · intro h
    unfold ofValue? at h
    split at h
    · rcases Option.map_eq_some_iff.mp h with ⟨jwk, hjwk, rfl⟩
      rw [Jwk.ofValue?_eq_some_iff.mp hjwk]
      rfl
    · cases h
  · rintro rfl
    exact Option.map_eq_some_iff.mpr ⟨confirmation.jwk, Jwk.ofValue?_eq_some_iff.mpr rfl, rfl⟩

end Confirmation

/-! ## Headers and claims -/

/-- What is decoded is what the one value stands for that is read. -/
theorem decode_eq_ok_iff_grammar {α : Type} {shape : Shape} {ofValue? : Value → Option α}
    {toValue : α → Value} {Fits : α → Tree → Prop} {bytes : Bytes} {result : α}
    (hvalue : ∀ {value result}, ofValue? value = some result ↔ value = toValue result)
    (hreads : ∀ result, Recognizes shape.read (toValue result) (Fits result)) :
    shape.decode ofValue? bytes = .ok result ↔
      ∃ tree, IsDocument tree bytes ∧ Fits result tree := by
  rw [← (hreads result).whole, Shape.decode, Outcome.bind_eq_ok_iff]
  constructor
  · rintro ⟨value, hread, h⟩
    split at h
    · next found hfound =>
      cases h
      rw [← hvalue.mp hfound]
      exact hread
    · cases h
  · intro hread
    refine ⟨_, hread, ?_⟩
    rw [hvalue.mpr rfl]
    rfl

namespace Header

def bindings (header : Header) : List Binding :=
  [.text "alg" header.algorithm, .text "kid" header.keyId]

/-- The value that a header is read as. -/
def toValue (header : Header) : Value :=
  .record (header.bindings.map (·.value))

theorem recognizes (header : Header) :
    Recognizes shape.read header.toValue (Tree.IsRecord .once header.fields) := by
  have hnames : (header.bindings.map (·.field.name)).Nodup :=
    (by decide : ["alg", "kid"].Nodup)
  have hrequired : EndsRequired header.bindings := by
    rintro _ ⟨⟩
    rfl
  exact @Shape.recognizes shape header.bindings rfl hnames hrequired

theorem ofValue?_eq_some_iff {value : Value} {header : Header} :
    ofValue? value = some header ↔ value = header.toValue := by
  constructor
  · intro h
    unfold ofValue? at h
    split at h
    · cases h
      rfl
    · cases h
  · rintro rfl
    rfl

theorem ofJson_eq_ok_iff {bytes : Bytes} {header : Header} :
    ofJson bytes = .ok header ↔ header.IsWritten bytes :=
  decode_eq_ok_iff_grammar ofValue?_eq_some_iff recognizes

/-- A member of another name may hold any value, and a name may be written with escapes. -/
example : (ofJson (Utf8.encode
      "\x7b\"alg\":\"a\", \"x\":[1e999,\"\\ud800\"], \"\\u006bid\":\"b\"\x7d")).toOption =
    some ⟨"a", "b"⟩ := by
  decide +kernel

/-- A name that occurs twice is refused, however it is written. -/
example : (ofJson (Utf8.encode
      "\x7b\"alg\":\"a\",\"kid\":\"b\",\"\\u0061lg\":\"c\"\x7d")).toOption = none := by
  decide +kernel

end Header

namespace Claims

def bindings (claims : Claims) : List Binding :=
  [.text "at" claims.accessToken,
    .integer "ts" "i64" claims.timestamp (Int.le_refl minTimestamp) (Int.le_refl maxTimestamp),
    .text "u" claims.authority, .optional "p" claims.path, .optional "m" claims.method,
    .optional "nonce" claims.nonce, .record "cnf" claims.confirmation.recognizes]

/-- The value that claims are read as. -/
def toValue (claims : Claims) : Value :=
  .record (claims.bindings.map (·.value))

theorem recognizes (claims : Claims) :
    Recognizes shape.read claims.toValue (Tree.IsRecord .once (claims.fields .once)) := by
  have hnames : (claims.bindings.map (·.field.name)).Nodup :=
    (by decide : ["at", "ts", "u", "p", "m", "nonce", "cnf"].Nodup)
  have hrequired : EndsRequired claims.bindings := by
    rintro _ ⟨⟩
    rfl
  exact @Shape.recognizes shape claims.bindings rfl hnames hrequired

theorem textOrNull?_eq_some_iff {value : Value} {text : Option String} :
    textOrNull? value = some text ↔ value = optionalValue text := by
  constructor
  · intro h
    unfold textOrNull? at h
    split at h
    · cases h
      rfl
    · cases h
      rfl
    · cases h
  · rintro rfl
    exact textOrNull?_optionalValue text

theorem ofValue?_eq_some_iff {value : Value} {claims : Claims} :
    ofValue? value = some claims ↔ value = claims.toValue := by
  constructor
  · intro h
    unfold ofValue? at h
    split at h
    · simp only [Option.bind_eq_bind, Option.bind_eq_some_iff, textOrNull?_eq_some_iff,
        Confirmation.ofValue?_eq_some_iff] at h
      rcases h with ⟨path, rfl, method, rfl, nonce, rfl, confirmation, rfl, hclaims⟩
      cases hclaims
      rfl
    · cases h
  · rintro rfl
    have hkey : Confirmation.ofValue? claims.confirmation.toValue = some claims.confirmation :=
      Confirmation.ofValue?_eq_some_iff.mpr rfl
    simp only [toValue, bindings, List.map_cons, List.map_nil, Binding.text, Binding.integer,
      Binding.optional, Binding.record, ofValue?, textOrNull?_optionalValue, hkey]
    rfl

theorem ofJson_eq_ok_iff {bytes : Bytes} {claims : Claims} :
    ofJson bytes = .ok claims ↔ claims.IsWritten bytes :=
  decode_eq_ok_iff_grammar ofValue?_eq_some_iff recognizes

end Claims

/-! ## Readers of repeated names -/

/-- Whether a reader of objects that settles repeated names in some way reads one value, and no
other, from octets. -/
def ReadsOnly {α : Type} (fields : α → List Field) (settle : Settling) (bytes : Bytes)
    (value : α) : Prop :=
  ∀ tree, IsDocument tree bytes → ∀ seen, tree.IsRecord settle (fields seen) ↔ seen = value

theorem readsOnly_of_grammar {α : Type} (fields : Settling → α → List Field) {loose : Settling}
    {bytes : Bytes} {value : α} (hsettle : Settling.Agrees .once loose)
    (himplies : List.Forall₂ Field.Implies (fields .once value) (fields loose value))
    (honly : ∀ {tree : Tree} {seen : α}, tree.IsRecord loose (fields loose seen) →
      tree.IsRecord loose (fields loose value) → seen = value)
    (h : ∃ tree, IsDocument tree bytes ∧ tree.IsRecord .once (fields .once value)) :
    ReadsOnly (fields loose) loose bytes value := by
  rcases h with ⟨tree, hdocument, hrecord⟩
  intro tree' hdocument' seen
  -- all readers have the same tree before them
  cases hdocument.unique hdocument'
  have hloose := hrecord.mono hsettle himplies
  constructor
  · intro hseen
    exact honly hseen hloose
  · rintro rfl
    exact hloose

namespace Jwk

theorem eq_of_isRecord {settle : Settling} {tree : Tree} {jwk other : Jwk}
    (h : tree.IsRecord settle jwk.fields) (hother : tree.IsRecord settle other.fields) :
    jwk = other := by
  have hmeets := h.meets hother rfl
  rcases jwk with ⟨keyType, modulus, exponent⟩
  rcases other with ⟨keyType', modulus', exponent'⟩
  simp only [fields, List.forall₂_cons] at hmeets
  rcases hmeets with ⟨hkeyType, hmodulus, hexponent, -⟩
  rw [Field.text_of_meets hkeyType, Field.text_of_meets hmodulus, Field.text_of_meets hexponent]

end Jwk

namespace Confirmation

theorem eq_of_isRecord {settle : Settling} {tree : Tree} {confirmation other : Confirmation}
    (h : tree.IsRecord settle (confirmation.fields settle))
    (hother : tree.IsRecord settle (other.fields settle)) : confirmation = other := by
  have hmeets := h.meets hother rfl
  rcases confirmation with ⟨jwk⟩
  rcases other with ⟨jwk'⟩
  simp only [fields, List.forall₂_cons] at hmeets
  rcases Field.record_of_meets hmeets.1 with ⟨_, hjwk, hjwk'⟩
  rw [Jwk.eq_of_isRecord hjwk hjwk']

theorem implies_fields {loose : Settling} (hsettle : Settling.Agrees .once loose)
    (confirmation : Confirmation) :
    List.Forall₂ Field.Implies (confirmation.fields .once) (confirmation.fields loose) :=
  .cons (Field.implies_record "jwk" hsettle (Field.Implies.refl_fields _)) .nil

end Confirmation

namespace Header

theorem eq_of_isRecord {settle : Settling} {tree : Tree} {header other : Header}
    (h : tree.IsRecord settle header.fields) (hother : tree.IsRecord settle other.fields) :
    header = other := by
  have hmeets := h.meets hother rfl
  rcases header with ⟨algorithm, keyId⟩
  rcases other with ⟨algorithm', keyId'⟩
  simp only [fields, List.forall₂_cons] at hmeets
  rcases hmeets with ⟨halgorithm, hkeyId, -⟩
  rw [Field.text_of_meets halgorithm, Field.text_of_meets hkeyId]

theorem IsWritten.readsOnly {header : Header} {bytes : Bytes} {loose : Settling}
    (hsettle : Settling.Agrees .once loose) (h : header.IsWritten bytes) :
    ReadsOnly fields loose bytes header :=
  readsOnly_of_grammar (fun _ => fields) hsettle (Field.Implies.refl_fields _) eq_of_isRecord h

end Header

namespace Claims

theorem eq_of_isRecord {settle : Settling} {tree : Tree} {claims other : Claims}
    (h : tree.IsRecord settle (claims.fields settle))
    (hother : tree.IsRecord settle (other.fields settle)) : claims = other := by
  have hmeets := h.meets hother rfl
  rcases claims with ⟨accessToken, timestamp, authority, path, method, nonce, confirmation⟩
  rcases other with ⟨accessToken', timestamp', authority', path', method', nonce', confirmation'⟩
  simp only [fields, List.forall₂_cons] at hmeets
  rcases hmeets with
    ⟨haccessToken, htimestamp, hauthority, hpath, hmethod, hnonce, hconfirmation, -⟩
  rcases Field.record_of_meets hconfirmation with ⟨_, hkey, hkey'⟩
  rw [Field.text_of_meets haccessToken, Field.integer_of_meets htimestamp,
    Field.text_of_meets hauthority, Field.optional_of_meets hpath,
    Field.optional_of_meets hmethod, Field.optional_of_meets hnonce,
    Confirmation.eq_of_isRecord hkey hkey']

theorem implies_fields {loose : Settling} (hsettle : Settling.Agrees .once loose)
    (claims : Claims) :
    List.Forall₂ Field.Implies (claims.fields .once) (claims.fields loose) := by
  have hkey := Field.implies_record "cnf" hsettle (claims.confirmation.implies_fields hsettle)
  exact .cons (.refl _) (.cons (.refl _) (.cons (.refl _) (.cons (.refl _) (.cons (.refl _)
    (.cons (.refl _) (.cons hkey .nil))))))

theorem IsWritten.readsOnly {claims : Claims} {bytes : Bytes} {loose : Settling}
    (hsettle : Settling.Agrees .once loose) (h : claims.IsWritten bytes) :
    ReadsOnly (fields loose) loose bytes claims :=
  readsOnly_of_grammar fields hsettle (implies_fields hsettle claims) eq_of_isRecord h

end Claims

/-! ## Tokens -/

namespace Token

variable {header claims signature : Bytes} {token : Token}

theorem splitOn_write (header claims signature : Bytes) :
    (write header claims signature).toList.splitOn '.' =
      [(Base64.url.encode header).toList, (Base64.url.encode claims).toList,
        (Base64.url.encode signature).toList] := by
  refine Text.splitOn_eq_three_iff.mpr ⟨?_, dot_not_mem_encode header, dot_not_mem_encode claims,
    dot_not_mem_encode signature⟩
  simp [write, join]

/-- What is written tells the three octet strings. -/
theorem write_injective {header' claims' signature' : Bytes}
    (h : write header claims signature = write header' claims' signature') :
    header = header' ∧ claims = claims' ∧ signature = signature' := by
  have hencode {bytes bytes' : Bytes}
      (heq : (Base64.url.encode bytes).toList = (Base64.url.encode bytes').toList) :
      bytes = bytes' :=
    Base64.encode_injective Base64.proper_url (String.toList_inj.mp heq)
  have hpieces := splitOn_write header claims signature
  rw [h, splitOn_write] at hpieces
  rcases List.cons.inj hpieces with ⟨hheader, hpieces⟩
  rcases List.cons.inj hpieces with ⟨hclaims, hpieces⟩
  exact ⟨hencode hheader.symm, hencode hclaims.symm, hencode (List.cons.inj hpieces).1.symm⟩

/-- A token is taken apart when its first two segments are written as the grammar has them. -/
theorem decode_write_eq_ok_iff :
    decode (write header claims signature) = .ok token ↔
      (signature ≠ [] ∧ token.signature = signature ∧
        token.signingInput = Base64.url.encode header ++ "." ++ Base64.url.encode claims) ∧
      token.header.IsWritten header ∧ token.claims.IsWritten claims := by
  rw [decode_eq_ok_iff, ← Header.ofJson_eq_ok_iff, ← Claims.ofJson_eq_ok_iff]
  constructor
  · rintro ⟨header', claims', hempty, hinput, htext, hheader, hclaims⟩
    rw [hinput] at htext
    rcases write_injective htext with ⟨rfl, rfl, rfl⟩
    exact ⟨⟨hempty.2.2, rfl, hinput⟩, hheader, hclaims⟩
  · rintro ⟨⟨hsignature, rfl, hinput⟩, hheader, hclaims⟩
    -- no segment is empty, as no value is written without an octet
    have hne {tree : Tree} {bytes : Bytes} (h : IsDocument tree bytes) : bytes ≠ [] :=
      List.ne_nil_of_length_pos (Writes.length_pos h)
    rcases Header.ofJson_eq_ok_iff.mp hheader with ⟨_, hdocument, _⟩
    rcases Claims.ofJson_eq_ok_iff.mp hclaims with ⟨_, hdocument', _⟩
    refine ⟨header, claims, ⟨hne hdocument, hne hdocument', hsignature⟩, hinput, ?_, hheader,
      hclaims⟩
    rw [hinput, write]

/-- A token is taken apart exactly when its signature is not empty and header and claims are written
as the grammar has them. Then readers of objects that take the first of several members of a name,
or the last one, see the same header and the same claims. -/
theorem decode_grammar (header claims signature : Bytes) :
    (∀ token, decode (write header claims signature) = .ok token ↔
      (signature ≠ [] ∧ token.signature = signature ∧
        token.signingInput = Base64.url.encode header ++ "." ++ Base64.url.encode claims) ∧
      token.header.IsWritten header ∧ token.claims.IsWritten claims) ∧
    ∀ token, decode (write header claims signature) = .ok token →
      ∀ settle, settle = Settling.first ∨ settle = Settling.last →
        ReadsOnly Header.fields settle header token.header ∧
        ReadsOnly (Claims.fields settle) settle claims token.claims := by
  refine ⟨fun _ => decode_write_eq_ok_iff, ?_⟩
  intro token h settle hsettle
  rcases decode_write_eq_ok_iff.mp h with ⟨-, hheader, hclaims⟩
  have hagrees : Settling.Agrees .once settle := by
    rcases hsettle with rfl | rfl
    · exact Settling.agrees_first
    · exact Settling.agrees_last
  exact ⟨hheader.readsOnly hagrees, hclaims.readsOnly hagrees⟩

/-- A token that was put together holds what readers see that take the first of repeated names. -/
theorem sample_decode_grammar :
    decode (write (Utf8.encode sample.header.toJson) (Utf8.encode sample.claims.toJson) [1]) =
        .ok sample ∧
      ReadsOnly (Claims.fields .first) .first (Utf8.encode sample.claims.toJson) sample.claims := by
  have hdecode : decode (join sample.signingInput sample.signature) = .ok sample :=
    decode_join sample.header sample.claims (by decide) (by decide) (by decide)
  exact ⟨hdecode, ((decode_grammar _ _ [1]).2 sample hdecode .first (.inl rfl)).2⟩

end Token

end Possession

import Possession.Proofs.Json.Values
import Possession.Proofs.Jwk
import Possession.Proofs.Text.Split
import Possession.Token

/-!
# Tokens read back

Header and claims are read back from the JSON that is written for them, whichever of the optional
claims are there. A token is taken apart exactly when it is three dot-free segments
that are the base64url texts of non-empty octet strings, the first two of them a header and claims;
so a token that was put together is taken apart into what it was put together from.
-/

namespace Possession

open Json

/-! ## Headers and claims -/

namespace Header

theorem reads_toJson (header : Header) :
    Reads shape.read header.toJson (.record [.text header.algorithm, .text header.keyId]) := by
  -- both members are always written, in the order of the shape
  have hslots : Fills shape.members [none, none]
      [("alg", writeText header.algorithm), ("kid", writeText header.keyId)]
      [some (.text header.algorithm), some (.text header.keyId)] := by
    refine Fills.next rfl rfl rfl (reads_text _) ?_
    refine Fills.next rfl rfl rfl (reads_text _) ?_
    exact Fills.done _
  exact reads_record hslots rfl

theorem ofJson_toJson (header : Header) :
    ofJson (Utf8.encode header.toJson) = .ok header := by
  rw [ofJson, Shape.decode, readWholeText_of_reads header.reads_toJson]
  rfl

end Header

namespace Claims

/-- The value that an optional text is read as. -/
def optionalValue : Option String → Value
  | some text => .text text
  | none => .null

theorem textOrNull?_optionalValue (text : Option String) :
    textOrNull? (optionalValue text) = some text := by
  cases text with
  | some text => rfl
  | none => rfl

/-- An optional member fills its slot, and an absent one leaves it empty. -/
theorem fills_member? (name : String) {slots : Slots} {index : Nat}
    (hindex : shape.members.findIdx? (·.name == name) = some index)
    (hmember : shape.members[index]? = some (optional name)) (hslot : slots[index]? = some none)
    (text : Option String) :
    Fills shape.members slots (member? name text) (slots.set index (text.map Value.text)) := by
  cases text with
  | some text => exact Fills.next hindex hmember hslot (reads_nullable_text text) (Fills.done _)
  | none =>
    -- setting an empty slot to nothing leaves the slots as they are
    have hsame : slots.set index none = slots := by
      rcases List.getElem?_eq_some_iff.mp hslot with ⟨hlt, hget⟩
      rw [← hget, List.set_getElem_self]
    rw [Option.map_none, hsame]
    exact Fills.done _

/-- The slots of claims that were written, in the order of the shape; the key may yet be missing. -/
def slots (claims : Claims) (key : Option Value) : Slots :=
  [some (.text claims.accessToken), some (.integer claims.timestamp),
    some (.text claims.authority), claims.path.map .text, claims.method.map .text,
    claims.nonce.map .text, key]

theorem fillSlots_slots (claims : Claims) (key : Value) :
    fillSlots shape.members (claims.slots (some key)) =
      .ok [.text claims.accessToken, .integer claims.timestamp, .text claims.authority,
        optionalValue claims.path, optionalValue claims.method, optionalValue claims.nonce,
        key] := by
  rcases claims with ⟨accessToken, timestamp, authority, path, method, nonce, confirmation⟩
  -- a member that is left out is read as null
  cases path <;> cases method <;> cases nonce <;> rfl

theorem reads_toJson (claims : Claims) (hlow : minTimestamp ≤ claims.timestamp)
    (hhigh : claims.timestamp ≤ maxTimestamp) :
    Reads shape.read claims.toJson
      (.record [.text claims.accessToken, .integer claims.timestamp, .text claims.authority,
        optionalValue claims.path, optionalValue claims.method, optionalValue claims.nonce,
        .record [.record [.text claims.confirmation.jwk.keyType,
          .text claims.confirmation.jwk.modulus, .text claims.confirmation.jwk.exponent]]]) := by
  have hfront : Fills shape.members [none, none, none, none, none, none, none]
      [("at", writeText claims.accessToken), ("ts", toString claims.timestamp),
        ("u", writeText claims.authority)]
      [some (.text claims.accessToken), some (.integer claims.timestamp),
        some (.text claims.authority), none, none, none, none] := by
    refine Fills.next rfl rfl rfl (reads_text _) ?_
    refine Fills.next rfl rfl rfl (reads_integer "i64" hlow hhigh) ?_
    refine Fills.next rfl rfl rfl (reads_text _) ?_
    exact Fills.done _
  have hpath := hfront.append (fills_member? "p" rfl rfl rfl claims.path)
  have hmethod := hpath.append (fills_member? "m" rfl rfl rfl claims.method)
  have hnonce := hmethod.append (fills_member? "nonce" rfl rfl rfl claims.nonce)
  have hkey : Fills shape.members (claims.slots none) [("cnf", claims.confirmation.toJson)]
      (claims.slots (some (.record [.record [.text claims.confirmation.jwk.keyType,
        .text claims.confirmation.jwk.modulus, .text claims.confirmation.jwk.exponent]]))) :=
    Fills.next rfl rfl rfl claims.confirmation.reads_toJson (Fills.done _)
  exact reads_record (hnonce.append hkey) (claims.fillSlots_slots _)

/-- Claims read back from their JSON form when their time is an integer of 64 bits. -/
theorem ofJson_toJson (claims : Claims) (hlow : minTimestamp ≤ claims.timestamp)
    (hhigh : claims.timestamp ≤ maxTimestamp) :
    ofJson (Utf8.encode claims.toJson) = .ok claims := by
  rw [ofJson, Shape.decode, readWholeText_of_reads (claims.reads_toJson hlow hhigh)]
  rcases claims with ⟨accessToken, timestamp, authority, path, method, nonce, confirmation⟩
  simp only [Outcome.ok_bind, ofValue?, textOrNull?_optionalValue]
  rfl

/-- The time of claims that were read is an integer of 64 bits. -/
theorem timestamp_bounds {bytes : Bytes} {claims : Claims}
    (h : ofJson bytes = .ok claims) :
    minTimestamp ≤ claims.timestamp ∧ claims.timestamp ≤ maxTimestamp := by
  simp only [ofJson, Shape.decode, Outcome.bind_eq_ok_iff] at h
  rcases h with ⟨value, hread, h⟩
  rcases readWholeText_admitted hread with ⟨values, rfl, hvalues⟩
  split at h
  · rename_i result hresult
    cases h
    unfold ofValue? at hresult
    split at hresult
    · rename_i accessToken timestamp authority path method nonce key heq
      cases heq
      have hsame : claims.timestamp = timestamp := by
        simp only [Option.bind_eq_bind, Option.bind_eq_some_iff, Option.pure_def] at hresult
        rcases hresult with ⟨_, -, _, -, _, -, _, -, hclaims⟩
        cases hclaims
        rfl
      -- the time is the second member, and its reader bounds what it answers
      rcases hvalues 1 _ rfl with ⟨member, hmember, ⟨front, back, hread⟩ | habsent⟩
      · cases hmember
        rw [hsame]
        exact readInteger_bounds hread
      · cases hmember
        cases habsent
    · cases hresult
  · cases h

end Claims

/-! ## Segments -/

namespace Token

theorem segments?_eq_some_iff {text header claims signature : String} :
    segments? text = some (header, claims, signature) ↔
      text = header ++ "." ++ claims ++ "." ++ signature ∧
        (header ≠ "" ∧ claims ≠ "" ∧ signature ≠ "") ∧
        '.' ∉ header.toList ∧ '.' ∉ claims.toList ∧ '.' ∉ signature.toList := by
  have hform : text = header ++ "." ++ claims ++ "." ++ signature ↔
      text.toList = header.toList ++ '.' :: (claims.toList ++ '.' :: signature.toList) := by
    rw [← String.toList_inj]
    simp
  constructor
  · intro h
    rw [segments?] at h
    split at h
    · rename_i first second third hsplit
      split at h
      · cases h
      · rename_i hempty
        cases h
        rcases Text.splitOn_eq_three_iff.mp hsplit with ⟨hchars, hfree⟩
        refine ⟨hform.mpr (by simpa using hchars), ?_, by simpa using hfree⟩
        simpa [not_or, and_assoc] using hempty
    · cases h
  · rintro ⟨htext, hempty, hfree⟩
    have hsplit := Text.splitOn_eq_three_iff.mpr ⟨hform.mp htext, hfree⟩
    have hsome : ¬(header.toList.isEmpty || claims.toList.isEmpty || signature.toList.isEmpty) := by
      simpa [not_or, and_assoc] using hempty
    rw [segments?, hsplit]
    simp only [hsome, Bool.false_eq_true, if_false, String.ofList_toList]

/-- A segment holds no dot. -/
theorem dot_not_mem_encode (bytes : Bytes) : '.' ∉ (Base64.url.encode bytes).toList :=
  Base64.not_mem_encode Base64.proper_url (by decide) (by decide) bytes

theorem segmentBytes_eq_ok_iff {text : String} {bytes : Bytes} :
    segmentBytes text = .ok bytes ↔ text = Base64.url.encode bytes := by
  rw [← Base64.decode_eq_ok_iff Base64.proper_url, segmentBytes]
  cases Base64.url.decode text with
  | ok bytes => simp
  | error fault => simp

theorem readJson_eq_ok_iff {α : Type} {reading : Except Json.Error α} {value : α} :
    readJson reading = .ok value ↔ reading = .ok value := by
  cases reading with
  | ok value => simp [readJson]
  | error fault => simp [readJson]

/-- A token is taken apart exactly when it is three segments, none empty, and the first two hold a
header and claims. -/
theorem decode_eq_ok_iff {text : String} {token : Token} :
    decode text = .ok token ↔
      ∃ header claims : Bytes, (header ≠ [] ∧ claims ≠ [] ∧ token.signature ≠ []) ∧
        token.signingInput = Base64.url.encode header ++ "." ++ Base64.url.encode claims ∧
        text = join token.signingInput token.signature ∧
        Header.ofJson header = .ok token.header ∧ Claims.ofJson claims = .ok token.claims := by
  have hne (bytes : Bytes) : Base64.url.encode bytes ≠ "" ↔ bytes ≠ [] :=
    Base64.encode_eq_empty_iff.not
  constructor
  · intro h
    rw [decode] at h
    cases hsegments : segments? text with
    | none => simp [hsegments] at h
    | some segments =>
      rcases segments with ⟨first, second, third⟩
      simp only [hsegments, Outcome.bind_eq_ok_iff, segmentBytes_eq_ok_iff,
        readJson_eq_ok_iff] at h
      obtain ⟨header, rfl, claims, rfl, signature, rfl, decodedHeader, hheader, decodedClaims,
        hclaims, htoken⟩ := h
      cases htoken
      -- the segments are texts of octets, so none is empty because its octets are not
      rcases segments?_eq_some_iff.mp hsegments with ⟨htext, hempty, -⟩
      rw [hne, hne, hne] at hempty
      exact ⟨header, claims, hempty, rfl, htext, hheader, hclaims⟩
  · rintro ⟨header, claims, hempty, hinput, htext, hheader, hclaims⟩
    rw [← hne header, ← hne claims, ← hne token.signature] at hempty
    have hwhole : text = Base64.url.encode header ++ "." ++ Base64.url.encode claims ++ "." ++
        Base64.url.encode token.signature := by rw [htext, join, hinput]
    -- base64url has no dot, so the token falls apart where it was joined
    have hsegments := segments?_eq_some_iff.mpr
      ⟨hwhole, hempty, dot_not_mem_encode header, dot_not_mem_encode claims,
        dot_not_mem_encode token.signature⟩
    have hsegment (bytes : Bytes) : segmentBytes (Base64.url.encode bytes) = .ok bytes :=
      segmentBytes_eq_ok_iff.mpr rfl
    simp only [decode, hsegments, hsegment, Outcome.ok_bind, hheader, hclaims, readJson, ← hinput,
      Outcome.pure_eq]

/-- The octets that a signature covers. -/
theorem encode_signingInputOf (header : Header) (claims : Claims) :
    Utf8.encode (signingInputOf header claims) =
      Base64.url.octets (Utf8.encode header.toJson) ++
        46 :: Base64.url.octets (Utf8.encode claims.toJson) := by
  have hdot : Utf8.encode "." = [46] := by decide
  rw [signingInputOf, segment, segment, Utf8.encode_append, Utf8.encode_append,
    Base64.encode_octets Base64.proper_url, Base64.encode_octets Base64.proper_url, hdot,
    List.append_assoc, List.singleton_append]

theorem encode_writeRecord_ne_nil (members : List (String × String)) :
    Utf8.encode (writeRecord members) ≠ [] := by
  rw [encode_writeRecord]
  exact List.cons_ne_nil _ _

/-- A token that was put together is taken apart into its parts. -/
theorem decode_join (header : Header) (claims : Claims) {signature : Bytes}
    (hlow : Claims.minTimestamp ≤ claims.timestamp) (hhigh : claims.timestamp ≤ Claims.maxTimestamp)
    (hsignature : signature ≠ []) :
    decode (join (signingInputOf header claims) signature) =
      .ok ⟨header, claims, signingInputOf header claims, signature⟩ :=
  decode_eq_ok_iff.mpr ⟨Utf8.encode header.toJson, Utf8.encode claims.toJson,
    ⟨encode_writeRecord_ne_nil _, encode_writeRecord_ne_nil _, hsignature⟩, rfl, rfl,
    header.ofJson_toJson, claims.ofJson_toJson hlow hhigh⟩

end Token

end Possession

import Possession.Proofs.Token

/-!
# Tokens in one text only

Nothing of a token's text is lost when it is taken apart: the text can be put together again from
the signing input and the signature. So a token is accepted in one text only, and whoever keeps
accepted texts to tell a repetition is not deceived by a segment that is spelled in another way.

* `Token.Spells` is the relation of a segment to its octets, `Token.Layout` that of an accepted text
  to its parts.
* `Token.decode_canonical` holds an accepted text against every other one, and against every reader
  of tokens, however generous, that reads what is written.
-/

namespace Possession.Token

/-! ## Segments -/

/-- A segment spells octets when it is their base64url text, which has a symbol at least and neither
padding nor dots. -/
structure Spells (segment : String) (bytes : Bytes) : Prop where
  nonempty : segment ≠ ""
  symbols : ∀ c ∈ segment.toList, c.isAlphanum ∨ c = '-' ∨ c = '_'
  dotFree : '.' ∉ segment.toList
  written : segment = Base64.url.encode bytes
  read : Base64.url.decode segment = .ok bytes

theorem isAlphanum_symbol : ∀ value < 64, (Base64.url.symbol value).isAlphanum ∨
    Base64.url.symbol value = '-' ∨ Base64.url.symbol value = '_' := by
  decide

theorem isAlphanum_of_mem_encode {bytes : Bytes} {c : Char}
    (h : c ∈ (Base64.url.encode bytes).toList) : c.isAlphanum ∨ c = '-' ∨ c = '_' :=
  Base64.of_mem_encode_url (P := fun c => c.isAlphanum ∨ c = '-' ∨ c = '_') isAlphanum_symbol h

theorem spells_encode {bytes : Bytes} (h : bytes ≠ []) :
    Spells (Base64.url.encode bytes) bytes where
  nonempty := Base64.encode_eq_empty_iff.not.mpr h
  symbols := fun _ => isAlphanum_of_mem_encode
  dotFree := dot_not_mem_encode bytes
  written := rfl
  read := Base64.decode_encode Base64.proper_url bytes

theorem Spells.ne_nil {segment : String} {bytes : Bytes} (h : Spells segment bytes) : bytes ≠ [] :=
  Base64.encode_eq_empty_iff.not.mp (h.written ▸ h.nonempty)

variable {header claims signature : Bytes}

/-- The text of three octet strings. -/
def write (header claims signature : Bytes) : String :=
  join (Base64.url.encode header ++ "." ++ Base64.url.encode claims) signature

theorem segments?_write (hheader : header ≠ []) (hclaims : claims ≠ [])
    (hsignature : signature ≠ []) :
    segments? (write header claims signature) =
      some (Base64.url.encode header, Base64.url.encode claims, Base64.url.encode signature) := by
  have hfirst := spells_encode hheader
  have hsecond := spells_encode hclaims
  have hthird := spells_encode hsignature
  exact segments?_eq_some_iff.mpr ⟨rfl, ⟨hfirst.nonempty, hsecond.nonempty, hthird.nonempty⟩,
    hfirst.dotFree, hsecond.dotFree, hthird.dotFree⟩

/-! ## Accepted texts -/

/-- The layout of an accepted text: two segments, of the octets that the header and the claims are
read from, and a third one of the octets of the signature. -/
structure Layout (text : String) (token : Token) (first second : String) (header claims : Bytes) :
    Prop where
  whole : text = token.signingInput ++ "." ++ Base64.url.encode token.signature
  signed : token.signingInput = first ++ "." ++ second
  cut : segments? text = some (first, second, Base64.url.encode token.signature)
  spellsHeader : Spells first header
  spellsClaims : Spells second claims
  spellsSignature : Spells (Base64.url.encode token.signature) token.signature
  readsHeader : Header.ofJson header = .ok token.header
  readsClaims : Claims.ofJson claims = .ok token.claims

variable {text other first second : String} {token token' : Token}

theorem exists_layout (h : decode text = .ok token) :
    ∃ first second header claims, Layout text token first second header claims := by
  rcases decode_eq_ok_iff.mp h with
    ⟨header, claims, ⟨hheader, hclaims, hsignature⟩, hsigned, htext, hreadHeader, hreadClaims⟩
  have hwrite : text = write header claims token.signature := by rw [write, ← hsigned, htext]
  have hcut := segments?_write hheader hclaims hsignature
  rw [← hwrite] at hcut
  exact ⟨_, _, header, claims, htext, hsigned, hcut, spells_encode hheader, spells_encode hclaims,
    spells_encode hsignature, hreadHeader, hreadClaims⟩

theorem Layout.eq_write (layout : Layout text token first second header claims) :
    text = write header claims token.signature := by
  rw [layout.whole, layout.signed, layout.spellsHeader.written, layout.spellsClaims.written, write,
    join]

/-- The octets that are signed and those of the signature are told by one accepted text only. -/
theorem eq_of_decode (h : decode text = .ok token) (h' : decode other = .ok token')
    (hsigned : Utf8.encode token'.signingInput = Utf8.encode token.signingInput)
    (hsignature : token'.signature = token.signature) : other = text := by
  rcases exists_layout h with ⟨_, _, _, _, layout⟩
  rcases exists_layout h' with ⟨_, _, _, _, layout'⟩
  rw [layout'.whole, layout.whole, Utf8.encode_injective hsigned, hsignature]

/-! ## Generous readers -/

/-- A reader of the three octet strings of a token which reads what is written. It may read other
texts as well. -/
def ReadsWritten (read : String → Option (Bytes × Bytes × Bytes)) : Prop :=
  ∀ header claims signature : Bytes, header ≠ [] → claims ≠ [] → signature ≠ [] →
    read (write header claims signature) = some (header, claims, signature)

theorem ReadsWritten.read_eq {read : String → Option (Bytes × Bytes × Bytes)}
    (hread : ReadsWritten read) (layout : Layout text token first second header claims) :
    read text = some (header, claims, token.signature) := by
  rw [layout.eq_write]
  exact hread header claims token.signature layout.spellsHeader.ne_nil layout.spellsClaims.ne_nil
    layout.spellsSignature.ne_nil

/-- Accepted texts that some generous reader takes for the same are the same. -/
theorem ReadsWritten.eq_of_decode {read : String → Option (Bytes × Bytes × Bytes)}
    (hread : ReadsWritten read) (h : decode text = .ok token) (h' : decode other = .ok token')
    (hsame : read other = read text) : other = text := by
  rcases exists_layout h with ⟨_, _, _, _, layout⟩
  rcases exists_layout h' with ⟨_, _, _, _, layout'⟩
  rw [hread.read_eq layout, hread.read_eq layout', Option.some.injEq, Prod.mk.injEq,
    Prod.mk.injEq] at hsame
  rcases hsame with ⟨hheader, hclaims, hsignature⟩
  rw [layout.eq_write, layout'.eq_write, hheader, hclaims, hsignature]

/-- An accepted text is the signing input, a dot and the text of the signature, and the signing
input two segments which spell the octets that the header and the claims are read from. Another
accepted text differs from it in the octets that are signed or in those of the signature, and no
reader of tokens which reads what is written takes the one for the other. -/
theorem decode_canonical (h : decode text = .ok token) :
    (∃ first second header claims, Layout text token first second header claims) ∧
      ∀ other token', decode other = .ok token' → other ≠ text →
        (Utf8.encode token'.signingInput ≠ Utf8.encode token.signingInput ∨
          token'.signature ≠ token.signature) ∧
        ∀ read, ReadsWritten read → read other ≠ read text := by
  refine ⟨exists_layout h, ?_⟩
  intro other token' h' hother
  constructor
  · by_contra hsame
    rw [not_or, not_not, not_not] at hsame
    exact hother (eq_of_decode h h' hsame.1 hsame.2)
  · intro read hread hsame
    exact hother (hread.eq_of_decode h h' hsame)

/-! ## A sample -/

/-- What a generous reader passes over: padding and white space. -/
def isFiller (c : Char) : Bool :=
  c = '=' || c.isWhitespace

/-- A reader that passes over padding and white space wherever they stand. -/
def readGenerously (text : String) : Option (Bytes × Bytes × Bytes) := do
  let (first, second, third) ← segments? (String.ofList (text.toList.filter (!isFiller ·)))
  let header ← (Base64.url.decode first).toOption
  let claims ← (Base64.url.decode second).toOption
  let signature ← (Base64.url.decode third).toOption
  return (header, claims, signature)

theorem isFiller_of_isAlphanum {c : Char} (h : c.isAlphanum ∨ c = '-' ∨ c = '_') :
    isFiller c = false := by
  by_contra hfiller
  simp only [isFiller, Char.isWhitespace, Bool.not_eq_false, Bool.or_eq_true,
    decide_eq_true_eq] at hfiller
  rcases hfiller with rfl | ((rfl | rfl) | rfl) | rfl <;> revert h <;> decide

/-- Nothing of what is written is passed over. -/
theorem filter_write (header claims signature : Bytes) :
    (write header claims signature).toList.filter (!isFiller ·) =
      (write header claims signature).toList := by
  have hsegment (bytes : Bytes) :
      (Base64.url.encode bytes).toList.filter (!isFiller ·) = (Base64.url.encode bytes).toList := by
    rw [List.filter_eq_self]
    intro c hc
    rw [isFiller_of_isAlphanum (isAlphanum_of_mem_encode hc), Bool.not_false]
  have hdot : ".".toList.filter (!isFiller ·) = ".".toList := by decide
  rw [write, join]
  simp only [String.toList_append, List.filter_append, hsegment, hdot]

theorem readsWritten_readGenerously : ReadsWritten readGenerously := by
  intro header claims signature hheader hclaims hsignature
  rw [readGenerously, filter_write, String.ofList_toList,
    segments?_write hheader hclaims hsignature]
  simp [Base64.decode_encode Base64.proper_url, Except.toOption]

/-- Padding behind a token is passed over. -/
theorem readGenerously_append_padding (text : String) :
    readGenerously (text ++ "=") = readGenerously text := by
  have hfilter : (text ++ "=").toList.filter (!isFiller ·) =
      text.toList.filter (!isFiller ·) := by
    simp [isFiller]
  rw [readGenerously, readGenerously, hfilter]

/-- A token of a signature of one octet, so that padding could follow. -/
def sample : Token :=
  let header : Header := ⟨"RS256", "k"⟩
  let claims : Claims := ⟨"t", 7, "h", some "/", none, none, ⟨.rsa "AQ" "Aw"⟩⟩
  ⟨header, claims, signingInputOf header claims, [1]⟩

/-- The sample is accepted as it is written, but not with padding. -/
theorem sample_decode_canonical :
    decode (join sample.signingInput sample.signature) = .ok sample ∧
      ∀ token, decode (join sample.signingInput sample.signature ++ "=") ≠ .ok token := by
  have hdecode : decode (join sample.signingInput sample.signature) = .ok sample :=
    decode_join sample.header sample.claims (by decide) (by decide) (by decide)
  refine ⟨hdecode, ?_⟩
  intro token hpadded
  have hother : join sample.signingInput sample.signature ++ "=" ≠
      join sample.signingInput sample.signature := by
    simp
  exact ((decode_canonical hdecode).2 _ token hpadded hother).2 readGenerously
    readsWritten_readGenerously (readGenerously_append_padding _)

end Possession.Token

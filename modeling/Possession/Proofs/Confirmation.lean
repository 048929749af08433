import Mathlib.Logic.Function.Basic
import Possession.Proofs.Device.Naming
import Possession.Proofs.Json.Unambiguous

/-!
# Request confirmations

A request confirmation is the base64 of an object with one member, and the member is the thumbprint
that it is made of, whatever characters are in it: those that JSON does not let stand for themselves
are escaped, and those beyond ASCII are octets like any others to base64.

* `Json.isDocument_iff_written` is what the octets of a record with one text can be read as.
* `requestConfirmation_roundTrip` is what a confirmation can be read as, and what it consists of.
-/

namespace Possession

/-! ## Records of one text -/

namespace Json

/-- What stands between the quotes of a written text. -/
def writtenBody (text : String) : Bytes :=
  Utf8.encodeChars (text.toList.flatMap writeChar)

theorem isDocument_written (name text : String) :
    IsDocument (.object [(writtenBody name, .text (writtenBody text))])
      (Utf8.encode (writeRecord [(name, writeText text)])) := by
  have hname : Quotable (writtenBody name) := (spellsText_written name).quotable
  have htext : Quotable (writtenBody text) := (spellsText_written text).quotable
  have hgap : Blanks [] := nofun
  have hmember := Writes.member hgap hname hgap (.element hgap (.text htext) hgap)
  have hobject := Writes.element hgap (.object (.lastMember hmember)) hgap
  rw [encode_writeRecord, memberOctets, memberOctets, encode_writeText, encode_writeText]
  simpa [IsDocument, writtenBody] using hobject

/-- The octets of a record with one text are an object with one member, and nothing else. -/
theorem isDocument_iff_written {name text : String} {tree : Tree} :
    IsDocument tree (Utf8.encode (writeRecord [(name, writeText text)])) ↔
      tree = .object [(writtenBody name, .text (writtenBody text))] := by
  constructor
  · intro htree
    exact htree.unique (isDocument_written name text)
  · rintro rfl
    exact isDocument_written name text

theorem spellsText_writtenBody_iff {text other : String} :
    SpellsText (writtenBody text) other ↔ other = text := by
  constructor
  · intro hother
    exact hother.unique (spellsText_written text)
  · rintro rfl
    exact spellsText_written other

end Json

/-! ## Confirmations -/

/-- A request confirmation is unpadded base64 for URLs, and what it holds is an object with a single
member: its name is `kid`, and its value the thumbprint that the confirmation is made of, whatever
text that is. So no two thumbprints have the same confirmation. -/
theorem requestConfirmation_roundTrip :
    (∀ thumbprint, ∃ octets name body,
      Base64.url.decode (requestConfirmation thumbprint) = .ok octets ∧
      (∀ tree, Json.IsDocument tree octets ↔ tree = .object [(name, .text body)]) ∧
      (∀ text, Json.SpellsText name text ↔ text = "kid") ∧
      ∀ text, Json.SpellsText body text ↔ text = thumbprint) ∧
    (∀ thumbprint, RequestConfirmation.keyId? (requestConfirmation thumbprint) = some thumbprint) ∧
    Function.Injective requestConfirmation ∧
    ∀ thumbprint, ∀ c ∈ (requestConfirmation thumbprint).toList,
      (c.isAlphanum = true ∨ c = '-' ∨ c = '_') ∧ c ≠ '=' ∧ c ≠ '+' ∧ c ≠ '/' ∧
        Text.isBlank c = false := by
  refine ⟨fun thumbprint => ?_, RequestConfirmation.keyId?_requestConfirmation, ?_, ?_⟩
  · exact ⟨_, Json.writtenBody "kid", Json.writtenBody thumbprint,
      Base64.decode_encode Base64.proper_url _, fun tree => Json.isDocument_iff_written,
      fun text => Json.spellsText_writtenBody_iff, fun text => Json.spellsText_writtenBody_iff⟩
  · intro thumbprint other hsame
    have hread := RequestConfirmation.keyId?_requestConfirmation thumbprint
    rw [hsame, RequestConfirmation.keyId?_requestConfirmation] at hread
    exact (Option.some.inj hread).symm
  · intro thumbprint c hc
    refine Base64.of_mem_encode_url (P := fun c => (c.isAlphanum = true ∨ c = '-' ∨ c = '_') ∧
      c ≠ '=' ∧ c ≠ '+' ∧ c ≠ '/' ∧ Text.isBlank c = false) ?_ hc
    decide

end Possession

import Possession.Proofs.Digest
import Possession.Proofs.Jwk
import Possession.Proofs.Text.Split
import Possession.Thumbprint

/-!
# Thumbprints

A key and its JSON form have the same thumbprint. The canonical text of a key is put together
without escapes, but the texts of its numbers hold no quote, so it determines them; two keys of one
thumbprint are therefore the same key or a collision of the hash function.
-/

namespace Possession
namespace Thumbprint

/-! ## Thumbprints of JSON forms -/

/-- A JSON form has a thumbprint when it has components, and then it is that of its texts. -/
theorem ofJwk_eq_ok_iff {jwk : Jwk} {thumbprint : String} :
    ofJwk jwk = .ok thumbprint ↔
      (∃ numbers, jwk.components = .ok numbers) ∧
        thumbprint = ofComponents jwk.modulus jwk.exponent := by
  cases h : jwk.components with
  | ok numbers => simp [ofJwk, h, eq_comm]
  | error fault => simp [ofJwk, h]

theorem ofJwk_ofKey {key : Rsa.PublicKey} (h : key.fault? = none) :
    ofJwk (Jwk.ofKey key) = .ok (ofKey key) :=
  ofJwk_eq_ok_iff.mpr ⟨⟨_, Jwk.components_ofKey h⟩, rfl⟩

/-- No key has the empty thumbprint. -/
theorem ofKey_ne_empty (key : Rsa.PublicKey) : ofKey key ≠ "" := by
  rw [ofKey, ofComponents, ne_eq, Base64.encode_eq_empty_iff]
  intro hnil
  have hlength := Digest.length_hash .sha256
    (Utf8.encode (canonical (Jwk.number key.modulus) (Jwk.number key.exponent)))
  rw [hnil] at hlength
  exact absurd hlength (by decide)

/-! ## Canonical texts -/

/-- The canonical text determines the texts that it is made of, if they hold no quote. -/
theorem canonical_injective {modulus exponent modulus' exponent' : String}
    (hexponent : '"' ∉ exponent.toList) (hexponent' : '"' ∉ exponent'.toList)
    (h : canonical modulus exponent = canonical modulus' exponent') :
    modulus = modulus' ∧ exponent = exponent' := by
  have hchars := congrArg String.toList h
  simp only [canonical, String.toList_append] at hchars
  have hopen : "\x7b\"e\":\"".toList = ['{', '"', 'e', '"', ':', '"'] := by decide
  have hmiddle : "\",\"kty\":\"RSA\",\"n\":\"".toList =
      '"' :: ",\"kty\":\"RSA\",\"n\":\"".toList := by decide
  rw [hopen, hmiddle] at hchars
  simp only [List.append_assoc, List.cons_append, List.nil_append, List.cons.injEq,
    true_and] at hchars
  -- the first quote behind the exponent is where its text ends in both
  rcases Text.append_cons_inj hexponent hexponent' hchars with ⟨hsame, hrest⟩
  have hmodulus : modulus.toList = modulus'.toList := by
    rw [List.append_cancel_left_eq, List.append_cancel_right_eq] at hrest
    exact hrest
  exact ⟨String.toList_inj.mp hmodulus, String.toList_inj.mp hsame⟩

/-- The text of a number holds no quote. -/
theorem quote_not_mem_encode (bytes : Bytes) : '"' ∉ (Base64.url.encode bytes).toList :=
  Base64.not_mem_encode Base64.proper_url (by decide) (by decide) bytes

end Thumbprint
end Possession

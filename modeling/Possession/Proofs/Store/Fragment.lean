import Possession.Proofs.Json.Bracket
import Possession.Proofs.Store.Record

/-!
# Parts of stored keys

A file that was emptied, overwritten with zeros or filled in part holds no record: the only bracket
that closes anything is the last octet of a record. Whoever reads such a file is told that the key
cannot be recovered, and never of another key.
-/

namespace Possession

namespace StoredKey

open Json

/-- Octets without a closing bracket are no record. -/
theorem ofJson_of_isUnclosed {bytes : Bytes} (h : IsUnclosed bytes) :
    ∃ reason, ofJson bytes = .error (.unrecoverable reason) := by
  have hreaders : ∀ member ∈ shape.members, LeavesPart member.read := by
    simp only [shape, List.forall_mem_cons]
    exact ⟨leavesPart_textThat _ _, leavesPart_textThat _ _, nofun⟩
  rw [ofJson]
  cases hdecoded : shape.decode ofValue? bytes with
  | error fault => exact ⟨_, rfl⟩
  | ok stored =>
    rcases Outcome.bind_eq_ok_iff.mp hdecoded with ⟨value, hread, -⟩
    rcases mem_of_readWholeText hreaders hread with hmem | hmem
    · exact absurd hmem h.1
    · exact absurd hmem h.2

theorem ofJson_zeros (count : Nat) :
    ∃ reason, ofJson (List.replicate count 0) = .error (.unrecoverable reason) := by
  refine ofJson_of_isUnclosed ⟨fun hmem => ?_, fun hmem => ?_⟩
  · exact absurd (List.eq_of_mem_replicate hmem) (by decide)
  · exact absurd (List.eq_of_mem_replicate hmem) (by decide)

/-- The only closing bracket in the record of a key is its last octet. -/
theorem exists_front_of_toJson {key : Rsa.PrivateKey} {createdAt : Instant} {stored : StoredKey}
    (h : ofKey key createdAt = .ok stored) :
    ∃ front, Utf8.encode stored.toJson = front ++ [125] ∧ IsUnclosed front := by
  have hsealed : stored.sealed = Base64.standard.encode key.toDer := by
    simp only [ofKey] at h
    split at h
    · cases h
    · cases h
      rfl
  have hbase64 {c : Char} (hsymbol : Base64.standard.value? (UInt8.ofNat c.toNat) = none)
      (hpadding : c ≠ '=') : c ∉ stored.sealed.toList := by
    rw [hsealed]
    exact Base64.not_mem_encode Base64.proper_standard hsymbol hpadding _
  have htime {c : Char} (hdigit : c.isDigit = false)
      (hmark : c ∉ Instant.marks) : c ∉ stored.createdAt.text.toList := by
    intro hmem
    rcases Instant.mem_text hmem with h | h
    · rw [hdigit] at h
      cases h
    · exact hmark h
  refine exists_front_of_writeRecord ?_
  simp only [List.forall_mem_cons]
  refine ⟨⟨isUnclosed_writeText (by decide) (by decide), isUnclosed_writeText ?_ ?_⟩,
    ⟨isUnclosed_writeText (by decide) (by decide), isUnclosed_writeText ?_ ?_⟩,
    List.forall_mem_nil _⟩
  · exact htime (by decide) (by decide)
  · exact htime (by decide) (by decide)
  · exact hbase64 (by decide) (by decide)
  · exact hbase64 (by decide) (by decide)

/-- A record that is not there as a whole is none. -/
theorem ofJson_of_prefix {key : Rsa.PrivateKey} {createdAt : Instant} {stored : StoredKey}
    (h : ofKey key createdAt = .ok stored) {part : Bytes}
    (hpart : part <+: Utf8.encode stored.toJson) (hne : part ≠ Utf8.encode stored.toJson) :
    ∃ reason, ofJson part = .error (.unrecoverable reason) := by
  rcases exists_front_of_toJson h with ⟨front, hfront, hunclosed⟩
  rw [hfront] at hpart hne
  rcases List.prefix_concat_iff.mp hpart with hwhole | hpart
  · exact absurd hwhole hne
  · exact ofJson_of_isUnclosed (hunclosed.of_subset hpart.subset)

end StoredKey

end Possession

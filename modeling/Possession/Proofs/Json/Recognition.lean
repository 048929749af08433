import Possession.Proofs.Json.Integer
import Possession.Proofs.Json.Unambiguous
import Possession.Proofs.Json.Values

/-!
# Values are read as the grammar has them

A reader recognizes a value when it answers it for the octets of the trees that stand for it, and
for no others. Texts, integers and `null` are recognized; a text that may be `null` is recognized
as the one or the other.
-/

namespace Possession
namespace Json

variable {bytes rest : Bytes}

/-- A reader passes over blanks, answers a value where a tree is written that stands for it, and
answers it nowhere else. It stops behind the tree. -/
structure Recognizes (reader : Reader) (value : Value) (Fits : Tree → Prop) : Prop where
  skips : ∀ bytes, reader (skipBlanks bytes) = reader bytes
  sound : ∀ {bytes rest}, reader bytes = .ok (value, rest) →
    ∃ tree front, Fits tree ∧ Writes (.element tree) front ∧ bytes = front ++ rest
  complete : ∀ {tree text rest}, Fits tree → Writes (.value tree) text → EndsNumber rest →
    reader (text ++ rest) = .ok (value, rest)

namespace Recognizes

variable {reader : Reader} {value : Value} {Fits : Tree → Prop} {tree : Tree}

theorem gap {blanks : Bytes} (h : Recognizes reader value Fits) (hblanks : Blanks blanks)
    (bytes : Bytes) : reader (blanks ++ bytes) = reader bytes := by
  rw [← h.skips, skipBlanks_append hblanks, h.skips]

/-- With blanks around it a value is read up to the blanks behind it. -/
theorem element (h : Recognizes reader value Fits) (hfits : Fits tree)
    (hwrites : Writes (.element tree) bytes) (hrest : EndsNumber rest) :
    ∃ gap, Blanks gap ∧ reader (bytes ++ rest) = .ok (value, gap ++ rest) := by
  cases hwrites with
  | @element _ front text back hfront hvalue hback =>
    refine ⟨back, hback, ?_⟩
    rw [List.append_assoc, List.append_assoc, h.gap hfront]
    exact h.complete hfits hvalue (endsNumber_gap hback hrest)

/-- What a whole octet string is read as. -/
theorem whole (h : Recognizes reader value Fits) :
    readWholeText reader bytes = .ok value ↔ ∃ tree, IsDocument tree bytes ∧ Fits tree := by
  constructor
  · intro hread
    simp only [readWholeText, Outcome.bind_eq_ok_iff] at hread
    rcases hread with ⟨⟨found, rest⟩, hvalue, hend⟩
    split at hend
    · next hblanks =>
      cases hend
      rcases h.sound hvalue with ⟨tree, front, hfits, hwrites, rfl⟩
      rcases exists_blanks rest with ⟨gap, hgap, hrest⟩
      rw [hblanks, List.append_nil] at hrest
      subst hrest
      exact ⟨tree, hwrites.element_back hgap, hfits⟩
    · cases hend
  · rintro ⟨tree, hwrites, hfits⟩
    rcases h.element hfits hwrites (endsNumber_blanks .nil) with ⟨gap, hgap, hread⟩
    have hblanks : skipBlanks (gap ++ []) = [] := skipBlanks_append hgap []
    rw [List.append_nil] at hread
    rw [readWholeText, hread, Outcome.ok_bind]
    dsimp only
    rw [hblanks]
    rfl

end Recognizes

/-! ## Scalars -/

theorem recognizes_text (text : String) :
    Recognizes readAnyText (.text text) (·.IsText text) where
  skips bytes := by
    rw [readAnyText, readTextThat, readTextThat, skipBlanks_skipBlanks]
  sound {bytes rest} h := by
    rw [readAnyText, readTextThat] at h
    split at h
    · next hquote =>
      rcases Outcome.bind_eq_ok_iff.mp h with ⟨⟨found, behind⟩, hread, hfound⟩
      cases hfound
      rcases readText_eq_ok_iff.mp hread with ⟨body, hbody, rfl⟩
      rw [List.append_cons, ← List.cons_append] at hquote
      rcases exists_front (.text hbody.quotable) hquote with ⟨front, hwrites, hbytes⟩
      exact ⟨.text body, front, ⟨body, rfl, hbody⟩, hwrites, hbytes⟩
    · cases h
  complete {tree form rest} hfits hwrites _ := by
    rcases hfits with ⟨body, rfl, hbody⟩
    cases hwrites with
    | text =>
      have hread : readText (body ++ 34 :: rest) = .ok (text, rest) :=
        readText_eq_ok_iff.mpr ⟨body, hbody, rfl⟩
      simp only [readAnyText, readTextThat, List.cons_append, ← List.append_cons,
        skipBlanks_cons (rfl : isBlank 34 = false), hread, Outcome.ok_bind]
      rfl

/-- An integer within bounds is recognized. -/
theorem recognizes_integer (expected : String) {low high value : Int}
    (hlow : -0x8000_0000_0000_0000 ≤ low) (hhigh : high ≤ 0x7fff_ffff_ffff_ffff) :
    Recognizes (readInteger expected low high) (.integer value)
      (fun tree => tree.IsInteger value ∧ low ≤ value ∧ value ≤ high) where
  skips bytes := by
    rw [readInteger, readInteger, skipBlanks_skipBlanks]
  sound {bytes rest} h := by
    have hbounds := readInteger_bounds h
    simp only [readInteger] at h
    split at h
    · next heq =>
      split at h
      · rcases Outcome.bind_eq_ok_iff.mp h with ⟨⟨number, behind⟩, hread, hnumber⟩
        dsimp only at hnumber
        split at hnumber
        · split at hnumber
          · cases hnumber
            rcases exists_integerLiteral hread with ⟨lexeme, hlexeme, hbytes⟩
            rcases exists_front (.number hlexeme.numeral) hbytes with ⟨front, hwrites, hfront⟩
            exact ⟨.number lexeme, front, ⟨⟨lexeme, rfl, hlexeme⟩, hbounds⟩, hwrites, hfront⟩
          · cases hnumber
        · cases hnumber
      · cases h
    · cases h
  complete {tree form rest} hfits hwrites hrest := by
    rcases hfits with ⟨⟨numeral, rfl, hvalue⟩, hbounds⟩
    cases hwrites with
    | number hnumeral =>
      have hread := readNumber_literal hvalue (Int.le_trans hlow hbounds.1)
        (Int.le_trans hbounds.2 hhigh) hrest
      obtain ⟨first, more, rfl, hfirst⟩ := hnumeral.exists_first
      rw [readInteger, List.cons_append, skipBlanks_cons (opens_of_number hfirst).1]
      rw [List.cons_append] at hread
      simp only [hfirst, if_true, hread, Outcome.ok_bind]
      rw [if_pos hbounds]
      rfl

/-! ## Values that may be null -/

section Nullable

variable {reader : Reader} {value : Value} {Fits : Tree → Prop}

theorem readNullable_skipBlanks (reader : Reader) (bytes : Bytes) :
    readNullable reader (skipBlanks bytes) = readNullable reader bytes := by
  rw [readNullable, readNullable, skipBlanks_skipBlanks]

/-- What is read with `null` admitted is `null`, or it is read as before. -/
theorem readNullable_eq_ok (h : readNullable reader bytes = .ok (value, rest)) :
    value = .null ∧ (∃ front, Writes (.element .null) front ∧ bytes = front ++ rest) ∨
      reader (skipBlanks bytes) = .ok (value, rest) := by
  rw [readNullable] at h
  split at h
  · next behind hblanks =>
    cases hword : skipWord restOfNull behind with
    | error fault =>
      rw [hword] at h
      cases h
    | ok last =>
      rw [hword] at h
      cases h
      rw [skipWord_eq_ok_iff.mp hword, ← List.cons_append] at hblanks
      exact .inl ⟨rfl, exists_front .null hblanks⟩
  · exact .inr h

theorem Recognizes.nullable (h : Recognizes reader value Fits) (hvalue : value ≠ .null)
    (hfits : ¬ Fits .null) : Recognizes (readNullable reader) value Fits where
  skips := readNullable_skipBlanks reader
  sound {bytes rest} hread := by
    rcases readNullable_eq_ok hread with ⟨hnull, -⟩ | hread
    · exact absurd hnull hvalue
    · rw [h.skips] at hread
      exact h.sound hread
  complete {tree form rest} htree hwrites hrest := by
    have hread := h.complete htree hwrites hrest
    rw [readNullable, hwrites.skipBlanks_eq]
    split
    · next heq =>
      -- only `null` itself begins with the letter
      rcases hwrites.exists_cons with ⟨first, more, rfl, -⟩
      cases (List.cons.inj heq).1
      cases hwrites.eq_null
      exact absurd htree hfits
    · exact hread

theorem recognizes_null (h : ∀ bytes rest, reader bytes ≠ .ok (.null, rest)) :
    Recognizes (readNullable reader) .null (· = .null) where
  skips := readNullable_skipBlanks reader
  sound {bytes rest} hread := by
    rcases readNullable_eq_ok hread with ⟨-, front, hwrites, hbytes⟩ | hread
    · exact ⟨.null, front, rfl, hwrites, hbytes⟩
    · exact absurd hread (h _ _)
  complete {tree form rest} htree hwrites _ := by
    subst htree
    cases hwrites with
    | null =>
      have hword : skipWord restOfNull (restOfNull ++ rest) = .ok rest := skipWord_eq_ok_iff.mpr rfl
      simp only [readNullable, List.cons_append, skipBlanks_cons (rfl : isBlank 110 = false), hword]
      rfl

theorem readAnyText_ne_null (bytes rest : Bytes) : readAnyText bytes ≠ .ok (.null, rest) := by
  intro h
  rw [readAnyText, readTextThat] at h
  split at h
  · rcases Outcome.bind_eq_ok_iff.mp h with ⟨_, _, hfound⟩
    cases hfound
  · cases h

end Nullable

end Json
end Possession

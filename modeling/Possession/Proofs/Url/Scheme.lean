import Possession.Proofs.Text.Split
import Possession.Url.Basic

/-!
# Scheme and rest of a URL

A URL is read without the controls and spaces at its ends and without tabs and line ends. What is
left is cut at its first colon. The two parts are cleaned apart from each other, so the scheme that
was read can be put before another text and is read again.
-/

namespace Possession
namespace Url

/-! ## Cleaned texts -/

/-- A text as it is read where other text stands before it: without controls and spaces at its end,
and without tabs and line ends. -/
def visible (chars : List Char) : List Char :=
  (chars.rdropWhile isEdge).filter fun c => !isIgnored c

theorem isIgnored_of_not_isEdge {c : Char} (h : isEdge c = false) : isIgnored c = false := by
  rw [Bool.eq_false_iff]
  intro hignored
  simp only [isIgnored, Bool.or_eq_true, beq_iff_eq] at hignored
  rcases hignored with (rfl | rfl) | rfl <;> exact absurd h (by decide)

/-- A character that is neither control nor space keeps what stands before it. -/
theorem visible_append_cons {c : Char} (h : isEdge c = false) (front back : List Char) :
    visible (front ++ c :: back) = front.filter (!isIgnored ·) ++ c :: visible back := by
  -- nothing is trimmed in front of the character, and filtering goes through both sides
  rw [visible, Text.rdropWhile_append_cons h, List.filter_append, List.filter_cons_of_pos, visible]
  simp [isIgnored_of_not_isEdge h]

/-! ## Schemes -/

/-- A scheme in the form in which it is answered. -/
structure IsScheme (scheme : List Char) : Prop where
  chars : ∀ c ∈ scheme, isSchemeChar c = true
  lower : scheme.map Char.toLower = scheme
  first : ∃ c rest, scheme = c :: rest ∧ c.isAlpha = true

theorem toNat_lt_of_isSchemeChar {c : Char} (h : isSchemeChar c = true) : c.toNat < 128 := by
  delta isSchemeChar Char.isAlphanum Char.isAlpha Char.isUpper Char.isLower Char.isDigit at h
  simp only [Bool.or_eq_true, Bool.and_eq_true, decide_eq_true_eq, beq_iff_eq] at h
  rcases h with (((((⟨-, hle⟩ | ⟨-, hle⟩) | ⟨-, hle⟩) | rfl) | rfl) | rfl)
  · exact lt_of_le_of_lt (UInt32.le_iff_toNat_le.mp hle) (by decide)
  · exact lt_of_le_of_lt (UInt32.le_iff_toNat_le.mp hle) (by decide)
  · exact lt_of_le_of_lt (UInt32.le_iff_toNat_le.mp hle) (by decide)
  · decide
  · decide
  · decide

theorem forall_isSchemeChar {p : Char → Prop}
    (h : ∀ code < 128, isSchemeChar (Char.ofNat code) = true → p (Char.ofNat code)) {c : Char}
    (hc : isSchemeChar c = true) : p c := by
  have hcode := h c.toNat (toNat_lt_of_isSchemeChar hc)
  rw [Char.ofNat_toNat] at hcode
  exact hcode hc

theorem isEdge_of_isSchemeChar {c : Char} (h : isSchemeChar c = true) : isEdge c = false :=
  forall_isSchemeChar (p := (isEdge · = false)) (by decide) h

/-- What lowering does to the characters of schemes. -/
theorem toLower_of_isSchemeChar {c : Char} (h : isSchemeChar c = true) :
    isSchemeChar c.toLower = true ∧ c.toLower.toLower = c.toLower ∧
      (c.isAlpha = true → c.toLower.isAlpha = true) := by
  exact forall_isSchemeChar (p := fun c => isSchemeChar c.toLower = true ∧
    c.toLower.toLower = c.toLower ∧ (c.isAlpha = true → c.toLower.isAlpha = true)) (by decide) h

theorem readScheme?_of_isScheme {scheme : List Char} (h : IsScheme scheme) (rest : List Char) :
    readScheme? (scheme ++ ':' :: rest) = some (scheme, rest) := by
  rcases h.first with ⟨first, others, hfirst, halpha⟩
  rw [readScheme?, Text.takeWhile_append_cons h.chars (by decide), List.drop_left]
  simp only [hfirst]
  rw [if_pos halpha, ← hfirst, h.lower]

/-- The scheme is what stands before the first colon, lowered, and depends on nothing else. -/
theorem readScheme?_eq_some {front rest scheme behind : List Char} (hcolon : ':' ∉ front)
    (h : readScheme? (front ++ ':' :: rest) = some (scheme, behind)) :
    IsScheme scheme ∧ behind = rest ∧
      ∀ other, readScheme? (front ++ ':' :: other) = some (scheme, other) := by
  obtain ⟨others, hwhole⟩ :=
    List.takeWhile_prefix (l := front ++ ':' :: rest) isSchemeChar
  have hchars : ∀ c ∈ (front ++ ':' :: rest).takeWhile isSchemeChar, isSchemeChar c = true :=
    fun c hc => List.mem_takeWhile_imp hc
  rw [readScheme?] at h
  generalize (front ++ ':' :: rest).takeWhile isSchemeChar = raw at h hwhole hchars
  rw [← hwhole, List.drop_left] at h
  split at h
  · rename_i first letters behind
    split at h
    · rename_i halpha
      cases h
      -- what was read holds no colon, so the colon behind it is the first one
      have hraw : ':' ∉ first :: letters := by
        intro hmem
        exact absurd (hchars ':' hmem) (by decide)
      rcases Text.append_cons_inj hraw hcolon hwhole with ⟨rfl, rfl⟩
      -- it is in lower case and begins with a letter, and is all that was looked at
      refine ⟨⟨?_, ?_, ?_⟩, rfl, ?_⟩
      · intro c hc
        rcases List.mem_map.mp hc with ⟨d, hd, rfl⟩
        exact (toLower_of_isSchemeChar (hchars d hd)).1
      · rw [List.map_map]
        apply List.map_congr_left
        intro c hc
        exact (toLower_of_isSchemeChar (hchars c hc)).2.1
      · have hfirst := hchars first List.mem_cons_self
        exact ⟨first.toLower, _, rfl, (toLower_of_isSchemeChar hfirst).2.2 halpha⟩
      · intro other
        rw [readScheme?, Text.takeWhile_append_cons hchars (by decide), List.drop_left]
        simp only [halpha, if_true]
    · cases h
  · cases h

end Url
end Possession

import Possession.Proofs.Url.File
import Possession.Proofs.Url.Scheme

/-!
# What a target is cut out of

A target is cut out of the text behind the first `://`, as it is written. Reading cleans the text
first. The two meet: cleaning what was cut out gives what is cut out of the cleaned text.
-/

namespace Possession
namespace Target

open Url

/-! ## The first `://` -/

theorem afterScheme?_of_not_mem {before : List Char} (h : ':' ∉ before) (rest : List Char) :
    afterScheme? (before ++ ':' :: '/' :: '/' :: rest) = some rest := by
  induction before with
  | nil => rfl
  | cons c before ih =>
    rw [List.mem_cons, not_or] at h
    -- another character is skipped
    have hne : c ≠ ':' := fun heq => h.1 heq.symm
    rw [List.cons_append, afterScheme?]
    · exact ih h.2
    · intro more hcolon
      exact absurd hcolon hne

/-- The text is cut at its first `://`, whatever stands behind. -/
theorem afterScheme?_eq_some {text rest : List Char} (h : afterScheme? text = some rest) :
    ∃ front, text = front ++ ':' :: '/' :: '/' :: rest ∧
      ∀ other, afterScheme? (front ++ ':' :: '/' :: '/' :: other) = some other := by
  induction text with
  | nil => cases h
  | cons c text ih =>
    by_cases hmark : ∃ more, c :: text = ':' :: '/' :: '/' :: more
    · rcases hmark with ⟨more, hmore⟩
      rw [hmore] at h ⊢
      cases h
      exact ⟨[], rfl, fun other => rfl⟩
    · have hnot : ∀ more, c = ':' → text = '/' :: '/' :: more → False := by
        intro more hc htext
        exact hmark ⟨more, by rw [hc, htext]⟩
      rw [afterScheme?] at h
      · rcases ih h with ⟨front, htext, hany⟩
        refine ⟨c :: front, by rw [htext, List.cons_append], ?_⟩
        intro other
        rw [List.cons_append, afterScheme?]
        · exact hany other
        · -- the mark is not in front of the place where it was found
          intro more hc hfront
          rw [htext] at hnot
          match front with
          | [] => cases hfront
          | [_] => cases hfront
          | first :: second :: front =>
            cases hfront
            exact hnot _ hc rfl
      · exact hnot

/-! ## Cleaned and cut -/

/-- Cleaning may begin with either of its two steps. -/
theorem visible_eq (chars : List Char) :
    visible chars = (chars.filter fun c => !isIgnored c).rdropWhile isEdge := by
  rw [visible]
  -- from the back: the last character is trimmed, ignored or neither, and what is ignored is an
  -- edge
  induction chars using List.reverseRecOn with
  | nil => rfl
  | append_singleton chars last ih =>
    rw [List.rdropWhile_concat, List.filter_append]
    cases hlast : isEdge last with
    | true =>
      rw [if_pos rfl, ih]
      cases hignored : isIgnored last with
      | true => simp [hignored]
      | false =>
        have hkept : [last].filter (fun c => !isIgnored c) = [last] := by simp [hignored]
        rw [hkept, List.rdropWhile_concat_pos _ _ _ hlast]
    | false =>
      have hkept : [last].filter (fun c => !isIgnored c) = [last] := by
        simp [isIgnored_of_not_isEdge hlast]
      rw [if_neg Bool.false_ne_true, List.filter_append, hkept,
        List.rdropWhile_concat_neg _ _ _ (by simp [hlast])]

theorem dropUser_filter (chars : List Char) :
    dropUser (chars.filter fun c => !isIgnored c) =
      (dropUser chars).filter fun c => !isIgnored c := by
  rcases dropUser_cases chars with ⟨hat, hsame⟩ | ⟨user, hsplit, hat⟩
  · rw [hsame]
    exact dropUser_of_not_mem fun hmem => hat (List.mem_of_mem_filter hmem)
  -- an at sign is never ignored, so the last one stays the last one
  · nth_rewrite 1 [hsplit]
    rw [List.filter_append, List.filter_cons_of_pos (by decide)]
    exact dropUser_append (fun hmem => hat (List.mem_of_mem_filter hmem)) _

theorem dropUser_rdropWhile (chars : List Char) :
    dropUser (chars.rdropWhile isEdge) = (dropUser chars).rdropWhile isEdge := by
  have hsubset (rest : List Char) : ∀ c ∈ rest.rdropWhile isEdge, c ∈ rest :=
    fun c hc => (List.rdropWhile_prefix isEdge _).subset hc
  rcases dropUser_cases chars with ⟨hat, hsame⟩ | ⟨user, hsplit, hat⟩
  · rw [hsame]
    exact dropUser_of_not_mem fun hmem => hat (hsubset _ _ hmem)
  -- nor is it trimmed
  · nth_rewrite 1 [hsplit]
    rw [Text.rdropWhile_append_cons (by decide)]
    exact dropUser_append (fun hmem => hat (hsubset _ _ hmem)) user

/-- The part that holds user, host and port of a text as it is read. -/
def region (rest : List Char) : List Char :=
  (visible rest).takeWhile fun c => !isCut c

theorem cut_eq (rest : List Char) :
    cut rest = ⟨dropUser (rest.takeWhile fun c => !isCut c), filePath
      (rest.drop (rest.takeWhile fun c => !isCut c).length)⟩ := by
  have hsame : (fun c : Char => c != '/' && c != '?' && c != '#') = fun c => !isCut c := by
    funext c
    simp only [isCut, Bool.not_or, bne]
  rw [cut, hsame]
  rfl

/-- The region is the cleaned form of what is cut out, which is trimmed where the text ends. -/
theorem region_cases (rest : List Char) :
    region rest = (rest.takeWhile fun c => !isCut c).filter (fun c => !isIgnored c) ∨
      region rest =
        ((rest.takeWhile fun c => !isCut c).filter fun c => !isIgnored c).rdropWhile isEdge := by
  have hedge {c : Char} (h : isCut c = true) : isEdge c = false := by
    simp only [isCut, Bool.or_eq_true, beq_iff_eq] at h
    rcases h with (rfl | rfl) | rfl <;> decide
  rcases Text.all_or_first (fun c => !isCut c) rest with
    hall | ⟨whole, stop, back, rfl, hwhole, hstop⟩
  · right
    have hvisible : ∀ c ∈ visible rest, (!isCut c) = true := by
      intro c hc
      exact hall c ((List.rdropWhile_prefix isEdge _).subset (List.mem_of_mem_filter hc))
    rw [region, List.takeWhile_eq_self_iff.mpr hvisible, List.takeWhile_eq_self_iff.mpr hall,
      visible_eq]
  · left
    -- a cut behind the region keeps it from being trimmed
    have hcut : isCut stop = true := by simpa using hstop
    have hkept : ∀ c ∈ whole.filter (fun c => !isIgnored c), (!isCut c) = true :=
      fun c hc => hwhole c (List.mem_of_mem_filter hc)
    rw [region, visible_append_cons (hedge hcut), Text.takeWhile_append_cons hkept hstop,
      Text.takeWhile_append_cons hwhole hstop]

theorem isCut_of_mem_region {rest : List Char} {c : Char} (h : c ∈ region rest) :
    isCut c = false := by
  rw [region] at h
  simpa using List.mem_takeWhile_imp h

theorem mem_of_mem_region {rest : List Char} {c : Char} (h : c ∈ region rest) :
    c ∈ rest.takeWhile fun c => !isCut c := by
  rcases region_cases rest with hregion | hregion
  · rw [hregion] at h
    exact List.mem_of_mem_filter h
  · rw [hregion] at h
    exact List.mem_of_mem_filter ((List.rdropWhile_prefix isEdge _).subset h)

theorem rdropWhile_region (rest : List Char) :
    (region rest).rdropWhile isEdge =
      ((rest.takeWhile fun c => !isCut c).filter fun c => !isIgnored c).rdropWhile isEdge := by
  rcases region_cases rest with hregion | hregion
  · rw [hregion]
  · rw [hregion, List.rdropWhile_idempotent]

/-- What stands behind a user is cut out as if there were no user. -/
theorem cut_append_user {user : List Char} (h : ∀ c ∈ user, isCut c = false) (rest : List Char) :
    cut (user ++ '@' :: rest) = cut rest := by
  have huser : ∀ c ∈ user, (!isCut c) = true := by
    intro c hc
    rw [h c hc]
    rfl
  have hdrop (chars : List Char) : dropUser (user ++ '@' :: chars) = dropUser chars := by
    rcases dropUser_cases chars with ⟨hat, hfree⟩ | ⟨first, hsplit, hat⟩
    · rw [hfree, dropUser_append hat]
    · have hwhole : user ++ '@' :: chars = (user ++ '@' :: first) ++ '@' :: dropUser chars := by
        nth_rewrite 1 [hsplit]
        simp
      rw [hwhole, dropUser_append hat]
  -- the user ends in front of the first cut, so the at sign is in what is cut out
  have hwhole : (user ++ '@' :: rest).takeWhile (fun c => !isCut c) =
      user ++ '@' :: rest.takeWhile fun c => !isCut c := by
    rw [List.takeWhile_append_of_pos huser, List.takeWhile_cons_of_pos (by decide)]
  have hbehind : (user ++ '@' :: rest).drop
      (user ++ '@' :: rest.takeWhile fun c => !isCut c).length =
        rest.drop (rest.takeWhile fun c => !isCut c).length := by
    rw [List.length_append, List.length_cons, ← List.drop_drop, List.drop_left, List.drop_succ_cons]
  rw [cut_eq, cut_eq, hwhole, hdrop, hbehind]

/-- What is cut out of a text, read on its own, is what is cut out of the text as it is read. -/
theorem visible_authority (rest : List Char) :
    visible (cut rest).authority = (dropUser (region rest)).rdropWhile isEdge := by
  calc visible (cut rest).authority
      = (dropUser ((rest.takeWhile fun c => !isCut c).filter fun c => !isIgnored c)).rdropWhile
          isEdge := by rw [cut_eq, visible_eq, dropUser_filter]
    _ = dropUser ((region rest).rdropWhile isEdge) := by
        rw [← dropUser_rdropWhile, rdropWhile_region]
    _ = (dropUser (region rest)).rdropWhile isEdge := dropUser_rdropWhile _

end Target
end Possession

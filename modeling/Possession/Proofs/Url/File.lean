import Possession.Proofs.Url.Authority

/-!
# Hosts of files

A file URL has no host when its path begins with a drive. Apart from that, its host is settled by
what stands between the slashes and the next slash, backslash, question mark or number sign.
-/

namespace Possession
namespace Url

/-! ## Cuts -/

/-- Characters that end what a target's host and port are cut out of, in every scheme. -/
def isCut (c : Char) : Bool :=
  c == '/' || c == '?' || c == '#'

theorem endsAuthority_of_isCut {c : Char} (h : isCut c = true) (special : Bool) :
    endsAuthority special c = true := by
  simp only [isCut] at h
  simp [endsAuthority, h]

/-- Where a scheme takes them for slashes, backslashes end the part as well. -/
theorem not_endsAuthority_of_not_isCut {c : Char} (h : isCut c = false) (hbackslash : c ≠ '\\') :
    endsAuthority true c = false := by
  simp only [isCut] at h
  simp [endsAuthority, h, hbackslash]

theorem not_endsAuthority_false {c : Char} (h : isCut c = false) :
    endsAuthority false c = false := by
  simp only [isCut] at h
  simp [endsAuthority, h]

/-! ## Hosts -/

/-- The path of a file, without the query behind it. -/
def filePath (chars : List Char) : List Char :=
  chars.takeWhile fun c => c != '?' && c != '#'

/-- The segments of the path of a file, which are what stands between its slashes behind the first
one. -/
def fileSegments (path : List Char) : List (List Char) :=
  pathSegments (if (path.head?.map isSlash).getD false then path.drop 1 else path)

theorem filePath_of_not_isCut {chars : List Char} (h : ∀ c ∈ chars, isCut c = false) :
    filePath chars = chars := by
  rw [filePath, List.takeWhile_eq_self_iff]
  intro c hc
  have hcut := h c hc
  simp only [isCut, Bool.or_eq_false_iff, beq_eq_false_iff_ne] at hcut
  simp [hcut.1.2, hcut.2]

section Hosts

variable {scheme part : List Char} {first second : Char} (hfirst : isSlash first = true)
  (hsecond : isSlash second = true) (hpart : ∀ c ∈ part, endsAuthority true c = false)

include hfirst hsecond hpart

theorem readFile_append {more : List Char} (hmore : Stops true more) :
    readFile scheme (first :: second :: (part ++ more)) =
      if part.isEmpty || isDrive part then .ok ⟨scheme, none, none⟩
      else Host.parse part >>= fun host =>
        if host = .domain "localhost".toList || beginsWithDrive 0 (fileSegments (filePath more)) then
          .ok ⟨scheme, none, none⟩
        else .ok ⟨scheme, some host, none⟩ := by
  rw [readFile]
  simp only [hfirst, hsecond, Bool.and_true, if_true, takeWhile_authority hpart hmore,
    List.drop_left]
  rfl

/-- A host that was read is read again, whatever stands behind it, unless that begins with a
drive. -/
theorem readFile_of_host {more : List Char} {url : Url} (hmore : Stops true more)
    (h : readFile scheme (first :: second :: (part ++ more)) = .ok url) (hhost : url.host ≠ none) :
    part ≠ [] ∧ (∃ host, Host.parse part = .ok host) ∧ ∀ other, Stops true other →
      readFile scheme (first :: second :: (part ++ other)) =
        .ok (if beginsWithDrive 0 (fileSegments (filePath other)) then ⟨scheme, none, none⟩
          else url) := by
  rw [readFile_append hfirst hsecond hpart hmore] at h
  split at h
  · cases h
    exact absurd rfl hhost
  · rename_i hnamed
    rw [Outcome.bind_eq_ok_iff] at h
    rcases h with ⟨host, hparse, h⟩
    split at h
    · cases h
      exact absurd rfl hhost
    · rename_i hfree
      cases h
      -- a local host is answered as none
      have hremote : host ≠ .domain "localhost".toList := by
        intro hlocal
        exact hfree (by simp [hlocal])
      refine ⟨?_, ⟨host, hparse⟩, ?_⟩
      · rintro rfl
        exact hnamed rfl
      -- only the drive is looked for behind the host
      · intro other hother
        rw [readFile_append hfirst hsecond hpart hother, if_neg hnamed, hparse, Outcome.ok_bind]
        rw [decide_eq_false hremote, Bool.false_or]
        split
        · rfl
        · rfl

end Hosts

end Url
end Possession

import Possession.Proofs.Url.File
import Possession.Proofs.Url.Scheme

/-!
# Whole URLs

A URL is its scheme and what is read behind it. So a text with the same scheme and another rest is
read like any rest behind that scheme, and a URL whose host and port end in front of some place is
read alike whatever stands behind that place.
-/

namespace Possession
namespace Url

/-! ## The scheme of what is read -/

/-- Reads what stands behind the colon of a scheme. -/
def readBehindScheme (scheme rest : List Char) : Except Fault Url :=
  match kind scheme with
  | .web => readAuthority scheme true (rest.dropWhile isSlash)
  | .file => readFile scheme rest
  | .other =>
    match rest with
    | '/' :: '/' :: rest => readAuthority scheme false rest
    | _ => .ok ⟨scheme, none, none⟩

theorem readHostPort_scheme {scheme chars : List Char} {special named : Bool} {url : Url}
    (h : readHostPort scheme special named chars = .ok url) : url.scheme = scheme := by
  rw [readHostPort, Outcome.bind_eq_ok_iff] at h
  rcases h with ⟨host, -, h⟩
  rw [readBehindHost.eq_def] at h
  split at h
  · split at h
    · cases h
    · rw [Outcome.map_eq_ok_iff] at h
      rcases h with ⟨port, -, rfl⟩
      rfl
  · repeat' split at h
    all_goals cases h
    all_goals rfl

theorem readAuthority_scheme {scheme chars : List Char} {special : Bool} {url : Url}
    (h : readAuthority scheme special chars = .ok url) : url.scheme = scheme := by
  rw [readAuthority_eq, Outcome.bind_eq_ok_iff] at h
  rcases h with ⟨⟨named, rest⟩, -, h⟩
  exact readHostPort_scheme h

theorem readFile_scheme {scheme chars : List Char} {url : Url}
    (h : readFile scheme chars = .ok url) : url.scheme = scheme := by
  have heither (host : Host) (isLocal : Bool) (h : (if isLocal then pure ⟨scheme, none, none⟩
      else pure ⟨scheme, some host, none⟩ : Except Fault Url) = .ok url) : url.scheme = scheme := by
    cases isLocal with
    | true =>
      cases h
      rfl
    | false =>
      cases h
      rfl
  rw [readFile.eq_def] at h
  split at h
  · split at h
    · dsimp only at h
      split at h
      · cases h
        rfl
      · rw [Outcome.bind_eq_ok_iff] at h
        rcases h with ⟨host, -, h⟩
        exact heither host _ h
    · cases h
      rfl
  · cases h
    rfl

theorem readBehindScheme_scheme {scheme rest : List Char} {url : Url}
    (h : readBehindScheme scheme rest = .ok url) : url.scheme = scheme := by
  unfold readBehindScheme at h
  split at h
  · exact readAuthority_scheme h
  · exact readFile_scheme h
  · split at h
    · exact readAuthority_scheme h
    · cases h
      rfl

/-! ## Cutting at the first colon -/

theorem parseChars_append (front rest : List Char) :
    parseChars (front ++ ':' :: rest) =
      match readScheme? ((front.dropWhile isEdge).filter (!isIgnored ·) ++ ':' :: visible rest) with
      | none => .error .relative
      | some (scheme, rest) => readBehindScheme scheme rest := by
  have hfront : (front ++ ':' :: rest).dropWhile isEdge =
      front.dropWhile isEdge ++ ':' :: rest := by
    rw [List.dropWhile_append]
    split
    · rename_i hempty
      rw [List.isEmpty_iff.mp hempty]
      rfl
    · rfl
  -- the colon is no edge, so each end is trimmed on its own side of it
  have htrimmed : (((front ++ ':' :: rest).dropWhile isEdge).reverse.dropWhile isEdge).reverse =
      ((front.dropWhile isEdge) ++ ':' :: rest).rdropWhile isEdge := by
    rw [hfront]
    rfl
  have hclean : (((front.dropWhile isEdge) ++ ':' :: rest).rdropWhile isEdge).filter
      (fun c => !isIgnored c) =
        (front.dropWhile isEdge).filter (!isIgnored ·) ++ ':' :: visible rest :=
    visible_append_cons (by decide) _ _
  rw [parseChars]
  simp only [htrimmed, hclean]
  rfl

/-- A scheme that was read is read again in front of another rest. -/
theorem parseChars_of_isScheme {scheme : List Char} (h : IsScheme scheme) (rest : List Char) :
    parseChars (scheme ++ ':' :: rest) = readBehindScheme scheme (visible rest) := by
  rcases h.first with ⟨first, others, hfirst, -⟩
  -- a scheme neither begins with an edge nor holds anything that is ignored
  have hedge : scheme.dropWhile isEdge = scheme := by
    rw [hfirst, List.dropWhile_cons_of_neg]
    have hchar := h.chars first (by simp [hfirst])
    simp [isEdge_of_isSchemeChar hchar]
  have hkept : scheme.filter (!isIgnored ·) = scheme := by
    rw [List.filter_eq_self]
    intro c hc
    simp [isIgnored_of_not_isEdge (isEdge_of_isSchemeChar (h.chars c hc))]
  rw [parseChars_append, hedge, hkept, readScheme?_of_isScheme h]

/-- What a URL is read from: its scheme in front of the first colon, and the rest behind. -/
theorem parseChars_eq_ok {front rest : List Char} {url : Url} (hcolon : ':' ∉ front)
    (h : parseChars (front ++ ':' :: rest) = .ok url) :
    IsScheme url.scheme ∧
      ∀ other, parseChars (front ++ ':' :: other) = readBehindScheme url.scheme (visible other) := by
  -- cleaning adds no colon in front
  have hclean : ':' ∉ (front.dropWhile isEdge).filter (!isIgnored ·) := by
    intro hmem
    exact hcolon ((List.dropWhile_suffix isEdge).subset (List.mem_of_mem_filter hmem))
  have hread := h
  rw [parseChars_append] at hread
  cases hscheme : readScheme? ((front.dropWhile isEdge).filter (!isIgnored ·) ++
      ':' :: visible rest) with
  | none => simp [hscheme] at hread
  | some parts =>
    rcases parts with ⟨scheme, behind⟩
    simp only [hscheme] at hread
    rcases readScheme?_eq_some hclean hscheme with ⟨hvalid, -, hany⟩
    have hsame : url.scheme = scheme := readBehindScheme_scheme hread
    rw [hsame]
    refine ⟨hvalid, ?_⟩
    intro other
    rw [parseChars_append, hany]

/-! ## What does not matter -/

/-- Nothing behind a character that ends the part is read, wherever that stands. -/
theorem readAuthority_append_cons {scheme : List Char} {special : Bool} {stop : Char}
    (hstop : endsAuthority special stop = true) (front back other : List Char) :
    readAuthority scheme special (front ++ stop :: back) =
      readAuthority scheme special (front ++ stop :: other) := by
  rcases Text.all_or_first (fun c => !endsAuthority special c) front with
    hall | ⟨part, first, rest, rfl, hpart, hfirst⟩
  · exact readAuthority_cons (by simpa using hall) hstop back other
  · have hends : endsAuthority special first = true := by simpa using hfirst
    have hsplit (more : List Char) :
        part ++ first :: rest ++ stop :: more = part ++ first :: (rest ++ stop :: more) := by simp
    rw [hsplit, hsplit]
    exact readAuthority_cons (by simpa using hpart) hends _ _

/-- What is read of a file in front of a character that ends the part is read again, or nothing is
because of a drive. -/
theorem readFile_append_cons {scheme front back : List Char} {first second stop : Char} {url : Url}
    (hstop : endsAuthority true stop = true)
    (h : readFile scheme (first :: second :: (front ++ stop :: back)) = .ok url)
    (hhost : url.host ≠ none) (other : List Char) :
    ∃ found, readFile scheme (first :: second :: (front ++ stop :: other)) = .ok found ∧
      (found = url ∨ found.host = none) := by
  have hslashes : isSlash first = true ∧ isSlash second = true := by
    by_contra hnot
    rw [readFile, if_neg (by rwa [Bool.and_eq_true])] at h
    cases h
    exact hhost rfl
  -- the host ends at the character, or before it
  obtain ⟨part, more, hmore, hpart, hsplit⟩ : ∃ part, ∃ more : List Char → List Char,
      (∀ rest, Stops true (more rest)) ∧ (∀ c ∈ part, endsAuthority true c = false) ∧
        ∀ rest, front ++ stop :: rest = part ++ more rest := by
    rcases Text.all_or_first (fun c => !endsAuthority true c) front with
      hall | ⟨part, early, rest, rfl, hpart, hearly⟩
    · exact ⟨front, fun rest => stop :: rest, fun rest => Stops.cons hstop rest,
        by simpa using hall, fun rest => rfl⟩
    · exact ⟨part, fun back => early :: (rest ++ stop :: back),
        fun back => Stops.cons (by simpa using hearly) _, by simpa using hpart, by simp⟩
  rw [hsplit] at h ⊢
  rcases readFile_of_host hslashes.1 hslashes.2 hpart (hmore back) h hhost with ⟨-, -, hany⟩
  refine ⟨_, hany _ (hmore other), ?_⟩
  split
  · exact Or.inr rfl
  · exact Or.inl rfl

/-- Whether backslashes count as slashes in URLs of a kind. -/
def Kind.isSpecial (kind : Kind) : Bool :=
  kind != .other

/-- What is read in front of a character that ends the part of user and host settles the host and
port, unless a file has none because of a drive behind it. -/
theorem readBehindScheme_append_cons {scheme front back : List Char} {stop : Char} {url : Url}
    (hstop : endsAuthority (kind scheme).isSpecial stop = true)
    (hfront : ∃ c ∈ front, isSlash c = false)
    (h : readBehindScheme scheme (front ++ stop :: back) = .ok url) (hhost : url.host ≠ none)
    (other : List Char) :
    ∃ found, readBehindScheme scheme (front ++ stop :: other) = .ok found ∧
      (found = url ∨ kind scheme = .file ∧ found.host = none) := by
  rcases hfront with ⟨mark, hmark, hslash⟩
  cases hkind : kind scheme with
  | web =>
    rw [hkind] at hstop
    -- slashes are dropped at the front only, and not all of it is slashes
    have hdrop (rest : List Char) : (front ++ stop :: rest).dropWhile isSlash =
        front.dropWhile isSlash ++ stop :: rest := by
      rw [List.dropWhile_append, if_neg]
      intro hempty
      have hall := List.dropWhile_eq_nil_iff.mp (List.isEmpty_iff.mp hempty) mark hmark
      rw [hslash] at hall
      cases hall
    simp only [readBehindScheme, hkind, hdrop] at h ⊢
    refine ⟨url, ?_, Or.inl rfl⟩
    rw [← h]
    exact readAuthority_append_cons hstop _ _ _
  | file =>
    rw [hkind] at hstop
    simp only [readBehindScheme, hkind] at h ⊢
    rcases front with _ | ⟨first, _ | ⟨second, front⟩⟩
    · cases hmark
    · -- a single character in front is no slash
      rw [List.mem_singleton.mp hmark] at hslash
      rw [List.singleton_append, readFile, if_neg (by simp [hslash])] at h
      cases h
      exact absurd rfl hhost
    · rcases readFile_append_cons hstop h hhost other with
        ⟨found, hfound, hsame | hnone⟩
      · exact ⟨found, hfound, Or.inl hsame⟩
      · exact ⟨found, hfound, Or.inr ⟨trivial, hnone⟩⟩
  | other =>
    rw [hkind] at hstop
    -- without two slashes there would be no host
    obtain ⟨rest, rfl⟩ : ∃ rest, front = '/' :: '/' :: rest := by
      simp only [readBehindScheme, hkind] at h
      split at h
      · rename_i rest hwhole
        rcases front with _ | ⟨first, _ | ⟨second, front⟩⟩
        · cases hmark
        · cases hwhole
          rw [List.mem_singleton.mp hmark] at hslash
          cases hslash
        · cases hwhole
          exact ⟨front, rfl⟩
      · cases h
        exact absurd rfl hhost
    simp only [readBehindScheme, hkind, List.cons_append] at h ⊢
    refine ⟨url, ?_, Or.inl rfl⟩
    rw [← h]
    exact readAuthority_append_cons hstop _ _ _

end Url
end Possession

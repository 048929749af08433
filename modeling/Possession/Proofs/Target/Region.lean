import Possession.Proofs.Target.Cut
import Possession.Proofs.Url.Host

/-!
# Regions read on their own

When the region of a URL, without its user, is put behind a scheme and read again, the same host and
port come out: unless the scheme takes backslashes for slashes and the region has one in an awkward
place, or a control at the end of a host is lost.
-/

namespace Possession
namespace Target

open Url Domain

/-! ## Plain regions -/

/-- The part of a text from its first backslash on. -/
def fromBackslash (chars : List Char) : List Char :=
  chars.dropWhile (· != '\\')

/-- Whether a region, without its user, names the host that a URL of a kind is read with.

Where backslashes count as slashes, the host ends at the first one, and what follows must not look
like the end of a user, or like a drive. Where they do not, a host without a port must not end in a
control, as it would be dropped at the end of a text. -/
def isPlain : Url.Kind → List Char → Bool
  | .web, region =>
    let part := region.dropWhile isSlash
    !part.isEmpty && !(fromBackslash part).contains '@'
  | .file, region =>
    let path := fromBackslash region
    !path.contains '@' && !beginsWithDrive 0 (fileSegments (path.rdropWhile isEdge))
  | .other, region =>
    let host := dropUser region
    !(takeHost false false host == host && host.getLast?.any isEdge)

theorem isEdge_of_not_isStray {c : Char} (h : isStray c.toNat = false) :
    isEdge c = false ∧ c ≠ '@' := by
  rw [isStray, Bool.or_eq_false_iff] at h
  refine ⟨h.1, ?_⟩
  rintro rfl
  cases h.2

/-- A text without strays keeps its end when a text behind it is trimmed. -/
theorem rdropWhile_append_of_not_isStray {front host : List Char} (hne : host ≠ [])
    (hclean : ∀ c ∈ host, isStray c.toNat = false) (back : List Char) :
    (front ++ (host ++ back)).rdropWhile isEdge = front ++ (host ++ back.rdropWhile isEdge) := by
  have hlast := (isEdge_of_not_isStray (hclean _ (List.getLast_mem hne))).1
  have hsplit (rest : List Char) : front ++ (host ++ rest) =
      (front ++ host.dropLast) ++ host.getLast hne :: rest := by
    nth_rewrite 1 [← List.dropLast_append_getLast hne]
    simp
  rw [hsplit, hsplit, Text.rdropWhile_append_cons hlast]

/-- Trimming leaves nothing, or what began the text. -/
theorem head?_rdropWhile {chars : List Char} {c : Char}
    (h : (chars.rdropWhile isEdge).head? = some c) : chars.head? = some c := by
  rcases List.rdropWhile_prefix isEdge chars with ⟨rest, hrest⟩
  rw [← hrest]
  cases htrimmed : chars.rdropWhile isEdge with
  | nil => simp [htrimmed] at h
  | cons d trimmed =>
    rw [htrimmed] at h
    simpa using h

/-- Nothing, or something that begins with a character of some kind, is still that when it is
trimmed. -/
theorem stops_rdropWhile {special : Bool} {chars : List Char} (h : Stops special chars) :
    Stops special (chars.rdropWhile isEdge) :=
  fun c hc => h c (head?_rdropWhile hc)

/-! ## Schemes that take backslashes for slashes -/

/-- Without its user, a region is slashes, host and port, and what stands behind its first
backslash. -/
theorem exists_dropUser_eq {slashes part back : List Char}
    (hslashes : ∀ c ∈ slashes, isSlash c = true) (hat : '@' ∉ back) :
    ∃ front, (∀ c ∈ front, isSlash c = true) ∧
      dropUser (slashes ++ (part ++ back)) = front ++ (dropUser part ++ back) := by
  rcases dropUser_cases part with ⟨hatPart, hsame⟩ | ⟨user, huser, -⟩
  -- no user: the slashes stay in front, where they are dropped again
  · refine ⟨slashes, hslashes, ?_⟩
    rw [hsame]
    apply dropUser_of_not_mem
    simp only [List.mem_append, not_or]
    refine ⟨?_, hatPart, hat⟩
    intro hmem
    exact absurd (hslashes _ hmem) (by decide)
  -- a user takes the slashes with it
  · refine ⟨[], by simp, ?_⟩
    have hwhole : slashes ++ (part ++ back) = (slashes ++ user) ++ '@' :: (dropUser part ++ back) := by
      nth_rewrite 1 [huser]
      simp
    rw [hwhole, List.nil_append]
    apply dropUser_append
    simp [not_mem_dropUser, hat]

theorem dropWhile_slashes {front host : List Char} (hfront : ∀ c ∈ front, isSlash c = true)
    (hne : host ≠ []) (hhost : ∀ c ∈ host, endsAuthority true c = false) (rest : List Char) :
    (front ++ (host ++ rest)).dropWhile isSlash = host ++ rest := by
  rw [List.dropWhile_append_of_pos hfront]
  cases host with
  | nil => exact absurd rfl hne
  | cons c host =>
    have hends := hhost c (by simp)
    rw [List.cons_append, List.dropWhile_cons_of_neg]
    intro hslash
    simp only [isSlash, Bool.or_eq_true, beq_iff_eq] at hslash
    rcases hslash with rfl | rfl
    · cases hends
    · cases hends

section Regions

variable {scheme whole more : List Char} {url : Url} (hwhole : ∀ c ∈ whole, isCut c = false)
  (hmore : ∀ c, more.head? = some c → isCut c = true)

include hwhole hmore

/-- The host and port of a region end at its first backslash. -/
theorem exists_part_append :
    ∃ part, whole = part ++ fromBackslash whole ∧ (∀ c ∈ part, endsAuthority true c = false) ∧
      Stops true (fromBackslash whole) ∧ Stops true (fromBackslash whole ++ more) := by
  -- what is left begins with a backslash, if it is not empty
  have hbackslash : Stops true (fromBackslash whole) := by
    intro c hc
    have hstop := List.head?_dropWhile_not (· != '\\') whole
    rw [fromBackslash] at hc
    simp only [hc, bne_eq_false_iff_eq] at hstop
    rw [hstop]
    rfl
  refine ⟨whole.takeWhile (· != '\\'), List.takeWhile_append_dropWhile.symm, ?_, hbackslash, ?_⟩
  · intro c hc
    have hmem : c ∈ whole := (List.takeWhile_prefix _).subset hc
    exact not_endsAuthority_of_not_isCut (hwhole c hmem) (by simpa using List.mem_takeWhile_imp hc)
  · cases hback : fromBackslash whole with
    | nil => exact fun c hc => endsAuthority_of_isCut (hmore c hc) true
    | cons c back =>
      rw [hback] at hbackslash
      exact Stops.cons (hbackslash c rfl) _

/-- A plain region of the web, without its user, is read again as the same host and port. -/
theorem readAuthority_of_isPlain (hplain : isPlain .web whole = true)
    (h : readAuthority scheme true ((whole ++ more).dropWhile isSlash) = .ok url) :
    readAuthority scheme true (((dropUser whole).rdropWhile isEdge).dropWhile isSlash) = .ok url := by
  simp only [isPlain, Bool.and_eq_true, Bool.not_eq_true', List.isEmpty_eq_false_iff] at hplain
  rcases hplain with ⟨hne, hcontains⟩
  have hat : '@' ∉ fromBackslash (whole.dropWhile isSlash) := by simpa using hcontains
  have hcut : ∀ c ∈ whole.dropWhile isSlash, isCut c = false :=
    fun c hc => hwhole c ((List.dropWhile_suffix isSlash).subset hc)
  rcases exists_part_append hcut hmore with ⟨part, hsplit, hpart, hstops, hstopsMore⟩
  generalize fromBackslash (whole.dropWhile isSlash) = back at hsplit hstops hstopsMore hat
  -- the user is dropped by the reader of the URL as well
  have hread : readHostPort scheme true false (dropUser part) = .ok url := by
    apply readAuthority_dropUser hpart hstopsMore
    rw [← List.append_assoc, ← hsplit, ← h, List.dropWhile_append, if_neg (by simpa using hne)]
  -- what was read holds no stray, so nothing is trimmed from it
  have hhost : ∀ c ∈ dropUser part, endsAuthority true c = false :=
    fun c hc => hpart c (mem_of_mem_dropUser hc)
  rcases not_isStray_of_readHostPort hhost hread with ⟨hhostNe, hclean⟩
  have hwholeSplit : whole = whole.takeWhile isSlash ++ (part ++ back) := by
    rw [← hsplit]
    exact List.takeWhile_append_dropWhile.symm
  rcases exists_dropUser_eq (fun c hc => List.mem_takeWhile_imp hc) hat with ⟨front, hfront, hdrop⟩
  calc readAuthority scheme true (((dropUser whole).rdropWhile isEdge).dropWhile isSlash)
      = readAuthority scheme true
          (((front ++ (dropUser part ++ back)).rdropWhile isEdge).dropWhile isSlash) := by
        rw [hwholeSplit, hdrop]
    _ = readAuthority scheme true (dropUser part ++ back.rdropWhile isEdge) := by
        rw [rdropWhile_append_of_not_isStray hhostNe hclean,
          dropWhile_slashes hfront hhostNe hhost]
    _ = readHostPort scheme true false (dropUser part) :=
        readAuthority_of_not_mem hhost (stops_rdropWhile hstops) (not_mem_dropUser part)
    _ = .ok url := hread

/-- Without a user behind a backslash, the host of a file is read again, unless the path begins with
a drive once it is trimmed. -/
theorem readFile_dropUser (h : readFile scheme ('/' :: '/' :: (whole ++ more)) = .ok url)
    (hhost : url.host ≠ none) (hat : '@' ∉ fromBackslash whole) :
    readFile scheme ('/' :: '/' :: (dropUser whole).rdropWhile isEdge) =
      .ok (if beginsWithDrive 0 (fileSegments ((fromBackslash whole).rdropWhile isEdge)) then
        ⟨scheme, none, none⟩ else url) := by
  rcases exists_part_append hwhole hmore with ⟨part, hsplit, hpart, hstops, hstopsMore⟩
  generalize fromBackslash whole = back at hsplit hstops hstopsMore hat
  subst hsplit
  rw [List.append_assoc] at h
  rcases readFile_of_host rfl rfl hpart hstopsMore h hhost with ⟨hne, ⟨host, hparse⟩, hany⟩
  have hclean : ∀ c ∈ part, isStray c.toNat = false := fun c hc => not_isStray_of_parse hparse hc
  -- a file has no user: an at sign is part of its host, and no host holds one
  have hatPart : '@' ∉ part := fun hmem => (isEdge_of_not_isStray (hclean _ hmem)).2 rfl
  have hkept : ∀ c ∈ back.rdropWhile isEdge, isCut c = false := by
    intro c hc
    exact hwhole c (List.mem_append_right _ ((List.rdropWhile_prefix isEdge _).subset hc))
  have hdrop : dropUser (part ++ back) = [] ++ (part ++ back) := by
    apply dropUser_of_not_mem
    simp [hatPart, hat]
  rw [hdrop, rdropWhile_append_of_not_isStray hne hclean, List.nil_append,
    hany _ (stops_rdropWhile hstops), filePath_of_not_isCut hkept]

end Regions

/-! ## Other schemes -/

theorem takeHost_append_colon {special bracketed : Bool} {host rest : List Char}
    (h : takeHost special bracketed (host ++ ':' :: rest) = host) (other : List Char) :
    takeHost special bracketed (host ++ ':' :: other) = host := by
  -- along the host, as brackets decide whether a colon ends it
  induction host generalizing bracketed with
  | nil =>
    rw [List.nil_append, takeHost] at h ⊢
    split at h
    · rename_i hstop
      rw [if_pos hstop]
    · cases h
  | cons c host ih =>
    rw [List.cons_append, takeHost] at h ⊢
    split at h
    · cases h
    · rename_i hstop
      rw [if_neg hstop, ih (List.cons.inj h).2]

theorem takeHost_of_append {special bracketed : Bool} {front back : List Char}
    (h : takeHost special bracketed (front ++ back) = front ++ back) :
    takeHost special bracketed front = front := by
  induction front generalizing bracketed with
  | nil => rfl
  | cons c front ih =>
    rw [List.cons_append, takeHost] at h
    rw [takeHost]
    split at h
    · cases h
    · rename_i hstop
      rw [if_neg hstop, ih (List.cons.inj h).2]

/-- Trimming behind a port takes nothing from it. -/
theorem readPort_rdropWhile {implied port : Option Nat} {chars : List Char}
    (h : readPort implied chars = .ok port) :
    readPort implied (chars.rdropWhile isEdge) = .ok port := by
  have hdigit {c : Char} (hc : c.isDigit = true) : isEdge c = false :=
    (isEdge_of_not_isStray (not_isStray_of_isDigit hc)).1
  rcases readPort_eq_ok h with hall | ⟨digits, stop, rest, rfl, hdigits, hstop⟩
  · rw [List.rdropWhile_eq_self_iff.mpr, h]
    intro hne
    simp [hdigit (hall _ (List.getLast_mem hne))]
  -- what ends the part is no edge, so the digits in front of it are safe
  · have hedge : isEdge stop = false := by
      simp only [endsAuthority, Bool.or_eq_true, Bool.and_eq_true, beq_iff_eq] at hstop
      rcases hstop with ((rfl | rfl) | rfl) | ⟨-, rfl⟩ <;> decide
    have hback (more : List Char) : readPort implied (digits ++ stop :: more) =
        readPort implied digits := readPort_append (Stops.cons hstop more) implied digits
    rw [Text.rdropWhile_append_cons hedge, hback, ← hback rest, h]

theorem encode_ne_nil {chars : List Char} (h : chars ≠ []) : Percent.encode chars ≠ [] := by
  cases chars with
  | nil => exact absurd rfl h
  | cons c chars =>
    rw [Percent.encode, List.flatMap_cons]
    split
    · simp
    -- a character has one octet at least
    · have hform := Utf8.form_utf8EncodeChar c
      generalize String.utf8EncodeChar c = bytes at hform
      cases hform <;> simp [Percent.escape]

/-- A host that loses its end is another host. -/
theorem parseOpaque_rdropWhile_ne {text : List Char} {host : Host}
    (h : Host.parseOpaque text = .ok host) (hlast : text.getLast?.any isEdge = true) :
    Host.parseOpaque (text.rdropWhile isEdge) ≠ .ok host := by
  rcases List.rdropWhile_prefix isEdge text with ⟨lost, hlost⟩
  -- an address ends in a bracket, so it does not lose its end
  have hbracket : text.head? ≠ some '[' := by
    intro hhead
    rw [Host.parseOpaque, if_pos hhead, Host.parseBracketed] at h
    split at h
    · rename_i hclose
      rw [hclose] at hlast
      cases hlast
    · cases h
  have hlostNe : lost ≠ [] := by
    rintro rfl
    rw [List.append_nil, List.rdropWhile_eq_self_iff] at hlost
    cases hend : text.getLast? with
    | none => simp [hend] at hlast
    | some c =>
      have hne : text ≠ [] := by
        rintro rfl
        cases hend
      rw [List.getLast?_eq_some_getLast hne] at hlast
      exact hlost hne (by simpa using hlast)
  intro hagain
  rw [Host.parseOpaque, if_neg hbracket] at h
  rw [Host.parseOpaque, if_neg (fun hhead => hbracket (head?_rdropWhile hhead))] at hagain
  split at h
  · cases h
  · split at hagain
    · cases hagain
    · -- both hosts are percent encoded, and the longer one has a longer encoding
      cases h
      have hencoded := Host.domain.inj (Except.ok.inj hagain)
      have happend : Percent.encode text =
          Percent.encode (text.rdropWhile isEdge) ++ Percent.encode lost := by
        rw [Percent.encode, Percent.encode, Percent.encode, ← List.flatMap_append, hlost]
      rw [happend] at hencoded
      exact encode_ne_nil hlostNe (List.self_eq_append_right.mp hencoded)

/-- A port is read again from the trimmed text. -/
theorem readHostPort_rdropWhile_of_port {scheme host rest : List Char} {url : Url}
    (hport : takeHost false false (host ++ ':' :: rest) = host)
    (h : readHostPort scheme false false (host ++ ':' :: rest) = .ok url) :
    readHostPort scheme false false ((host ++ ':' :: rest).rdropWhile isEdge) = .ok url := by
  rw [Text.rdropWhile_append_cons (by decide)]
  rw [readHostPort] at h ⊢
  simp only [hport, takeHost_append_colon hport, List.drop_left] at h ⊢
  rw [Outcome.bind_eq_ok_iff] at h ⊢
  rcases h with ⟨found, hfound, h⟩
  refine ⟨found, hfound, ?_⟩
  rw [readBehindHost] at h ⊢
  split at h
  · cases h
  · rename_i hnonempty
    rw [if_neg hnonempty]
    rcases Outcome.map_eq_ok_iff.mp h with ⟨port, hread, rfl⟩
    rw [readPort_rdropWhile hread, Outcome.map_ok]

/-- A text without a port is nothing but its host. -/
theorem readHostPort_of_takeHost {scheme text : List Char} {url : Url}
    (htext : takeHost false false text = text) (hhost : url.host ≠ none) :
    readHostPort scheme false false text = .ok url ↔
      ∃ host, Host.parseOpaque text = .ok host ∧ host.isEmpty = false ∧
        url = ⟨scheme, some host, none⟩ := by
  rw [readHostPort]
  simp only [htext, List.drop_length, readHost, Bool.false_eq_true, if_false, readBehindHost,
    Outcome.bind_eq_ok_iff]
  refine exists_congr fun host => and_congr_right fun _ => ?_
  cases hempty : host.isEmpty with
  | true =>
    simp only [if_true, Except.ok.injEq, Bool.true_eq_false, false_and, iff_false]
    rintro rfl
    exact hhost rfl
  | false =>
    simp only [Bool.false_eq_true, if_false, Except.ok.injEq, true_and]
    exact eq_comm

/-- Host and port are read again from the trimmed text, unless there is no port and the host loses
its end. -/
theorem readHostPort_rdropWhile_iff {scheme text : List Char} {url : Url}
    (hcut : ∀ c ∈ text, isCut c = false)
    (h : readHostPort scheme false false text = .ok url) (hhost : url.host ≠ none) :
    readHostPort scheme false false (text.rdropWhile isEdge) = .ok url ↔
      ¬(takeHost false false text = text ∧ text.getLast?.any isEdge = true) := by
  rcases takeHost_starts false false text with ⟨behind, hbehind⟩
  cases behind with
  | cons first rest =>
    -- behind the host stands a colon, as the text has nothing that ends the part
    have hfirst : first = ':' := by
      rcases takeHost_stops hbehind rfl with hends | hcolon
      · rw [not_endsAuthority_false (hcut first (by rw [← hbehind]; simp))] at hends
        cases hends
      · exact hcolon
    subst hfirst
    generalize hport : takeHost false false text = host at hbehind
    subst hbehind
    refine ⟨fun _ hnot => ?_, fun _ => readHostPort_rdropWhile_of_port hport h⟩
    have hlength := congrArg List.length hnot.1
    simp at hlength
  | nil =>
    rw [List.append_nil] at hbehind
    -- no colon and no end: the text is all host, and so is what is left of it
    have htrimmed : takeHost false false (text.rdropWhile isEdge) = text.rdropWhile isEdge := by
      rcases List.rdropWhile_prefix isEdge text with ⟨lost, hlost⟩
      refine takeHost_of_append (?_ : takeHost false false (_ ++ lost) = _)
      rw [hlost, hbehind]
    cases hlast : text.getLast?.any isEdge with
    | true =>
      refine ⟨fun hagain => ?_, fun hnot => absurd ⟨hbehind, rfl⟩ hnot⟩
      rcases (readHostPort_of_takeHost hbehind hhost).mp h with ⟨host, hparse, -, rfl⟩
      rcases (readHostPort_of_takeHost htrimmed hhost).mp hagain with ⟨found, hfound, -, hsame⟩
      cases hsame
      exact absurd hfound (parseOpaque_rdropWhile_ne hparse hlast)
    | false =>
      have hsame : text.rdropWhile isEdge = text := by
        rw [List.rdropWhile_eq_self_iff]
        intro hne hedge
        rw [List.getLast?_eq_some_getLast hne] at hlast
        simp [hedge] at hlast
      rw [hsame, h]
      simp

end Target
end Possession

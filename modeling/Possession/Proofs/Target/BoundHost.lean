import Possession.Proofs.Target.Region
import Possession.Proofs.Url.Reading

/-!
# The host that a target names

A target is cut out of the text of a URL, and the URL is read by other rules. Where the first `://`
stands behind the scheme and the region behind it is plain, the target names the host and port of
the URL. Elsewhere it does not, or it does by chance: a front of the text settles what the URL
means, and the target is cut out of what stands behind that front.
-/

namespace Possession
namespace Target

open Url

/-! ## Faithful texts -/

/-- Whether the target that is cut out of a text names the host of a URL of a kind: the first `://`
stands behind the scheme, and the region behind it is plain. -/
def isFaithful (kind : Url.Kind) (text : List Char) : Bool :=
  match text.dropWhile (· != ':') with
  | ':' :: '/' :: '/' :: rest => isPlain kind (region rest)
  | _ => false

/-- What host and port of a target are read as behind the scheme of a URL. -/
def readBack (url : Url) (target : Target) : Except Fault Url :=
  Url.parse (String.ofList (url.scheme ++ "://".toList ++ target.authority))

/-- A front of a text settles host and port of the URL, whatever stands behind it, and the target is
cut out of what stands behind it. A file may lose its host to a drive. -/
def Detached (front : List Char) (url : Url) : Prop :=
  ∀ other,
    (∃ found, parseChars (front ++ other) = .ok found ∧
      (found = url ∨ Url.kind url.scheme = .file ∧ found.host = none)) ∧
    ∃ rest, afterScheme? (front ++ other) = some rest ∧ cut rest = cut other

theorem parse_eq_ok_iff {url : String} {target : Target} :
    parse url = .ok target ↔ ∃ parsed rest, Url.parse (Text.trim url) = .ok parsed ∧
      parsed.host ≠ none ∧ afterScheme? (Text.trim url).toList = some rest ∧ target = cut rest ∧
        target.authority ≠ [] := by
  rw [parse]
  -- the steps of cutting out a target, each of which may refuse the text
  cases hparsed : Url.parse (Text.trim url) with
  | error fault => simp
  | ok parsed =>
    simp only [Except.ok.injEq, exists_and_left, exists_eq_left']
    cases hhost : parsed.host with
    | none => simp
    | some host =>
      cases hrest : afterScheme? (Text.trim url).toList with
      | none => simp
      | some rest =>
        simp only [Option.isNone_some, Bool.false_eq_true, if_false, ne_eq, reduceCtorEq,
          not_false_eq_true, true_and, Option.some.injEq, exists_eq_left']
        split
        · rename_i hempty
          simp only [reduceCtorEq, false_iff, not_and, not_not]
          rintro rfl
          exact List.isEmpty_iff.mp hempty
        · rename_i hempty
          simp only [Except.ok.injEq]
          refine ⟨?_, fun h => h.1.symm⟩
          rintro rfl
          exact ⟨rfl, fun hnil => hempty (List.isEmpty_iff.mpr hnil)⟩

theorem visible_slashes (chars : List Char) :
    visible ('/' :: '/' :: chars) = '/' :: '/' :: visible chars := by
  have hfirst := visible_append_cons (c := '/') (by decide) [] ('/' :: chars)
  have hsecond := visible_append_cons (c := '/') (by decide) [] chars
  rw [List.nil_append] at hfirst hsecond
  rw [hfirst, hsecond]
  rfl

theorem readBack_eq {url : Url} (hscheme : IsScheme url.scheme) (rest : List Char) :
    readBack url (cut rest) =
      readBehindScheme url.scheme ('/' :: '/' :: (dropUser (region rest)).rdropWhile isEdge) := by
  have htext : url.scheme ++ "://".toList ++ (cut rest).authority =
      url.scheme ++ ':' :: '/' :: '/' :: (cut rest).authority := by simp
  rw [readBack, Url.parse, String.toList_ofList, htext, parseChars_of_isScheme hscheme,
    visible_slashes, visible_authority]

/-! ## Fronts that settle the host -/

/-- A second `://`, or a first one that does not stand behind the scheme, is no matter to the URL:
it comes behind the end of user and host. -/
theorem detached_of_late_mark {before middle rest : List Char} {url : Url} (hcolon : ':' ∉ before)
    (h : parseChars (before ++ ':' :: (middle ++ ':' :: '/' :: '/' :: rest)) = .ok url)
    (hhost : url.host ≠ none)
    (hmark : ∀ other, afterScheme? (before ++ ':' :: (middle ++ ':' :: '/' :: '/' :: other)) =
      some other) :
    Detached (before ++ ':' :: (middle ++ [':', '/', '/'])) url := by
  rcases parseChars_eq_ok hcolon h with ⟨-, hany⟩
  have hvisible (other : List Char) : visible (middle ++ ':' :: '/' :: '/' :: other) =
      (middle.filter (!isIgnored ·) ++ [':']) ++ '/' :: visible ('/' :: other) := by
    have hslash : visible ('/' :: '/' :: other) = '/' :: visible ('/' :: other) :=
      visible_append_cons (by decide) [] _
    rw [visible_append_cons (by decide), hslash]
    simp
  have hread := h
  rw [hany, hvisible] at hread
  intro other
  have hwhole : before ++ ':' :: (middle ++ [':', '/', '/']) ++ other =
      before ++ ':' :: (middle ++ ':' :: '/' :: '/' :: other) := by simp
  rw [hwhole]
  refine ⟨?_, other, hmark other, rfl⟩
  rw [hany, hvisible]
  -- the first of the two slashes ends user and host, behind the colon that is no slash
  refine readBehindScheme_append_cons ?_ ⟨':', by simp, rfl⟩ hread hhost _
  cases (Url.kind url.scheme).isSpecial <;> rfl

/-- An at sign behind a backslash comes behind the end of user and host. -/
theorem exists_backslash_of_mem {front back : List Char} (hback : '@' ∉ back)
    (h : '@' ∈ fromBackslash ((front ++ '@' :: back).dropWhile isSlash)) :
    ∃ part rest, front = part ++ '\\' :: rest ∧ ∃ c ∈ part, isSlash c = false := by
  -- without a backslash in front of it the last at sign comes behind none
  have hnot {chars : List Char} (hchars : '\\' ∉ chars) :
      '@' ∉ fromBackslash (chars ++ '@' :: back) := by
    intro hmem
    rw [fromBackslash, List.dropWhile_append_of_pos (Text.bne_of_not_mem hchars),
      List.dropWhile_cons_of_pos (by decide)] at hmem
    exact hback ((List.dropWhile_suffix _).subset hmem)
  rw [List.dropWhile_append] at h
  split at h
  · rw [List.dropWhile_cons_of_neg (by decide)] at h
    exact absurd h (hnot (List.not_mem_nil))
  · rename_i hnonempty
    have hbackslash : '\\' ∈ front.dropWhile isSlash := by
      by_contra hfree
      exact hnot hfree h
    rcases List.append_of_mem hbackslash with ⟨part, rest, hsplit⟩
    -- leading slashes are dropped, so something else stands in front of the backslash
    have hfirst : part ≠ [] := by
      rintro rfl
      have hstop := List.head?_dropWhile_not isSlash front
      rw [hsplit] at hstop
      cases hstop
    refine ⟨front.takeWhile isSlash ++ part, rest, ?_, ?_⟩
    · rw [List.append_assoc, ← hsplit, List.takeWhile_append_dropWhile]
    · have hstop := List.head?_dropWhile_not isSlash front
      cases part with
      | nil => exact absurd rfl hfirst
      | cons c part =>
        rw [hsplit] at hstop
        exact ⟨c, by simp, by simpa using hstop⟩

theorem detached_of_late_user {before rest : List Char} {url : Url} (hcolon : ':' ∉ before)
    (h : parseChars (before ++ ':' :: '/' :: '/' :: rest) = .ok url) (hhost : url.host ≠ none)
    (hspecial : (Url.kind url.scheme).isSpecial = true)
    (hat : '@' ∈ fromBackslash ((region rest).dropWhile isSlash)) :
    ∃ front back, before ++ ':' :: '/' :: '/' :: rest = front ++ back ∧ Detached front url := by
  rcases parseChars_eq_ok hcolon h with ⟨-, hany⟩
  have hwholeAt : '@' ∈ rest.takeWhile fun c => !isCut c := by
    apply mem_of_mem_region
    exact (List.dropWhile_suffix _).subset ((List.dropWhile_suffix _).subset hat)
  -- the target drops everything up to the last at sign of the text
  obtain ⟨user, host, hsplit, hhostAt⟩ : ∃ user host,
      rest.takeWhile (fun c => !isCut c) = user ++ '@' :: host ∧ '@' ∉ host := by
    rcases dropUser_cases (rest.takeWhile fun c => !isCut c) with ⟨hfree, -⟩ | ⟨user, huser, hfree⟩
    · exact absurd hwholeAt hfree
    · exact ⟨user, _, huser, hfree⟩
  have huser : ∀ c ∈ user, isCut c = false := by
    intro c hc
    have hmem : c ∈ rest.takeWhile fun c => !isCut c := by
      rw [hsplit]
      exact List.mem_append_left _ hc
    simpa using List.mem_takeWhile_imp hmem
  obtain ⟨behind, hrest⟩ : ∃ behind, rest = user ++ '@' :: behind := by
    refine ⟨host ++ rest.dropWhile fun c => !isCut c, ?_⟩
    nth_rewrite 1 [← List.takeWhile_append_dropWhile (p := fun c => !isCut c) (l := rest), hsplit]
    simp
  subst hrest
  have hbehind : '@' ∉ behind.takeWhile fun c => !isCut c := by
    rw [List.takeWhile_append_of_pos (by simpa using huser), List.takeWhile_cons_of_pos (by decide)]
      at hsplit
    rw [(List.cons.inj (List.append_cancel_left hsplit)).2]
    exact hhostAt
  have hregion : region (user ++ '@' :: behind) =
      user.filter (!isIgnored ·) ++ '@' :: region behind := by
    have hkept : ∀ c ∈ user.filter (!isIgnored ·), (!isCut c) = true := by
      intro c hc
      simp [huser c (List.mem_of_mem_filter hc)]
    rw [region, visible_append_cons (by decide), List.takeWhile_append_of_pos hkept,
      List.takeWhile_cons_of_pos (by decide), region]
  rw [hregion] at hat
  -- the URL ends user and host at the backslash in front of it
  rcases exists_backslash_of_mem (fun hmem => hbehind (mem_of_mem_region hmem)) hat with
    ⟨part, back, hpart, mark, hmark, hslash⟩
  have hvisible (other : List Char) : visible ('/' :: '/' :: (user ++ '@' :: other)) =
      ('/' :: '/' :: part) ++ '\\' :: (back ++ '@' :: visible other) := by
    have hfront : ('/' :: '/' :: user).filter (!isIgnored ·) =
        '/' :: '/' :: (part ++ '\\' :: back) := by
      rw [← hpart]
      rfl
    have hwhole := visible_append_cons (c := '@') (by decide) ('/' :: '/' :: user) other
    rw [hfront] at hwhole
    simpa using hwhole
  have hread := h
  rw [hany, hvisible] at hread
  refine ⟨before ++ ':' :: '/' :: '/' :: (user ++ ['@']), behind, by simp, ?_⟩
  intro other
  have hwhole : before ++ ':' :: '/' :: '/' :: (user ++ ['@']) ++ other =
      before ++ ':' :: '/' :: '/' :: (user ++ '@' :: other) := by simp
  rw [hwhole]
  refine ⟨?_, _, afterScheme?_of_not_mem hcolon _, cut_append_user huser other⟩
  rw [hany, hvisible]
  refine readBehindScheme_append_cons ?_ ⟨mark, by simp [hmark], hslash⟩ hread hhost _
  rw [hspecial]
  rfl

/-! ## What a target names -/

/-- The host of a file does not begin with a slash. -/
theorem dropWhile_of_readFile {scheme chars more : List Char} {url : Url}
    (h : readFile scheme ('/' :: '/' :: (chars ++ more)) = .ok url) (hhost : url.host ≠ none) :
    chars.dropWhile isSlash = chars := by
  cases chars with
  | nil => rfl
  | cons c chars =>
    rw [List.dropWhile_cons_of_neg]
    intro hslash
    have hends : endsAuthority true c = true := by
      simp only [isSlash, Bool.or_eq_true, beq_iff_eq] at hslash
      rcases hslash with rfl | rfl
      · rfl
      · rfl
    have hstops : Stops true (c :: chars ++ more) := Stops.cons hends _
    -- an empty text in front of the slash is no host
    have hnil : ∀ d ∈ ([] : List Char), endsAuthority true d = false := by simp
    exact (readFile_of_host rfl rfl hnil hstops h hhost).1 rfl

section Direct

variable {before rest : List Char} {url : Url} (hcolon : ':' ∉ before)
  (h : parseChars (before ++ ':' :: '/' :: '/' :: rest) = .ok url) (hhost : url.host ≠ none)

include hcolon h

/-- What is read is the region and something that it is cut off from. -/
theorem exists_region_append :
    ∃ more, (∀ c, more.head? = some c → isCut c = true) ∧
      readBehindScheme url.scheme ('/' :: '/' :: (region rest ++ more)) = .ok url := by
  rcases parseChars_eq_ok hcolon h with ⟨-, hany⟩
  refine ⟨(visible rest).dropWhile fun c => !isCut c, ?_, ?_⟩
  · intro c hc
    have hstop := List.head?_dropWhile_not (fun c => !isCut c) (visible rest)
    simpa [hc] using hstop
  · rw [region, List.takeWhile_append_dropWhile, ← visible_slashes, ← hany, h]

theorem readBack_eq_direct :
    readBack url (cut rest) =
      readBehindScheme url.scheme ('/' :: '/' :: (dropUser (region rest)).rdropWhile isEdge) :=
  readBack_eq (parseChars_eq_ok hcolon h).1 rest

include hhost

theorem readBack_web (hkind : Url.kind url.scheme = .web) :
    if isPlain .web (region rest) then readBack url (cut rest) = .ok url
    else readBack url (cut rest) ≠ .ok url ∨
      ∃ front back, before ++ ':' :: '/' :: '/' :: rest = front ++ back ∧ Detached front url := by
  rcases exists_region_append hcolon h with ⟨more, hmore, hread⟩
  rw [readBack_eq_direct hcolon h]
  have hslashes (chars : List Char) : ('/' :: '/' :: chars).dropWhile isSlash =
      chars.dropWhile isSlash := rfl
  simp only [readBehindScheme, hkind, hslashes] at hread ⊢
  split
  · rename_i hplain
    -- neither end nor user is lost: the region is read to the same result without them
    exact readAuthority_of_isPlain (fun c hc => isCut_of_mem_region hc) hmore hplain hread
  · rename_i hplain
    by_cases hat : '@' ∈ fromBackslash ((region rest).dropWhile isSlash)
    · exact Or.inr (detached_of_late_user hcolon h hhost (by rw [hkind]; rfl) hat)
    · -- nothing but slashes, behind which there is no host
      left
      have hempty : (region rest).dropWhile isSlash = [] := by
        by_contra hne
        apply hplain
        simp [isPlain, hne, hat]
      have hnone : ((dropUser (region rest)).rdropWhile isEdge).dropWhile isSlash = [] := by
        rw [List.dropWhile_eq_nil_iff] at hempty ⊢
        intro c hc
        exact hempty c (mem_of_mem_dropUser ((List.rdropWhile_prefix isEdge _).subset hc))
      rw [hnone]
      intro hok
      cases hok

theorem readBack_file (hkind : Url.kind url.scheme = .file) :
    if isPlain .file (region rest) then readBack url (cut rest) = .ok url
    else readBack url (cut rest) ≠ .ok url ∨
      ∃ front back, before ++ ':' :: '/' :: '/' :: rest = front ++ back ∧ Detached front url := by
  rcases exists_region_append hcolon h with ⟨more, hmore, hread⟩
  rw [readBack_eq_direct hcolon h]
  simp only [readBehindScheme, hkind] at hread ⊢
  by_cases hat : '@' ∈ fromBackslash (region rest)
  · have hplain : isPlain .file (region rest) = false := by simp [isPlain, hat]
    rw [hplain, if_neg Bool.false_ne_true]
    right
    refine detached_of_late_user hcolon h hhost (by rw [hkind]; rfl) ?_
    rwa [dropWhile_of_readFile hread hhost]
  · rw [readFile_dropUser (fun c hc => isCut_of_mem_region hc) hmore hread hhost hat]
    -- a drive at the front of a file URL takes the host away
    cases hdrive : beginsWithDrive 0
        (fileSegments ((fromBackslash (region rest)).rdropWhile isEdge)) with
    | true =>
      have hplain : isPlain .file (region rest) = false := by simp [isPlain, hdrive]
      rw [hplain, if_neg Bool.false_ne_true]
      left
      intro hok
      apply hhost
      rw [← Except.ok.inj hok]
      rfl
    | false =>
      have hplain : isPlain .file (region rest) = true := by simp [isPlain, hdrive, hat]
      rw [hplain, if_pos rfl, if_neg Bool.false_ne_true]

theorem readBack_other (hkind : Url.kind url.scheme = .other) :
    readBack url (cut rest) = .ok url ↔ isPlain .other (region rest) = true := by
  rcases exists_region_append hcolon h with ⟨more, hmore, hread⟩
  rw [readBack_eq_direct hcolon h]
  simp only [readBehindScheme, hkind] at hread ⊢
  have hends : ∀ c ∈ region rest, endsAuthority false c = false :=
    fun c hc => not_endsAuthority_false (isCut_of_mem_region hc)
  have hstops : Stops false more := fun c hc => endsAuthority_of_isCut (hmore c hc) false
  have hcut : ∀ c ∈ dropUser (region rest), isCut c = false :=
    fun c hc => isCut_of_mem_region (mem_of_mem_dropUser hc)
  -- the user is dropped, so what is read again has none
  have hagain : readAuthority url.scheme false ((dropUser (region rest)).rdropWhile isEdge) =
      readHostPort url.scheme false false ((dropUser (region rest)).rdropWhile isEdge) := by
    have hsubset : ∀ c ∈ (dropUser (region rest)).rdropWhile isEdge, c ∈ dropUser (region rest) :=
      fun c hc => (List.rdropWhile_prefix isEdge _).subset hc
    nth_rewrite 1 [← List.append_nil ((dropUser (region rest)).rdropWhile isEdge)]
    apply readAuthority_of_not_mem _ (Stops.nil false)
    · exact fun hmem => not_mem_dropUser _ (hsubset _ hmem)
    · exact fun c hc => not_endsAuthority_false (hcut c (hsubset c hc))
  rw [hagain, readHostPort_rdropWhile_iff hcut (readAuthority_dropUser hends hstops hread) hhost,
    not_and_or]
  simp [isPlain]

end Direct

theorem dropWhile_append_colon {before : List Char} (h : ':' ∉ before) (rest : List Char) :
    (before ++ ':' :: rest).dropWhile (· != ':') = ':' :: rest := by
  rw [List.dropWhile_append_of_pos (Text.bne_of_not_mem h), List.dropWhile_cons_of_neg (by decide)]

/-- The target of a URL names host and port of the URL where its text is faithful. Where it is not,
the target names another host or port or none, or what it names has nothing to do with the URL. -/
theorem readBack_of_parse {text : String} {target : Target} (h : parse text = .ok target) :
    ∃ url, Url.parse (Text.trim text) = .ok url ∧
      if isFaithful (Url.kind url.scheme) (Text.trim text).toList then
        readBack url target = .ok url
      else readBack url target ≠ .ok url ∨
        ∃ front back, (Text.trim text).toList = front ++ back ∧ Detached front url := by
  rcases parse_eq_ok_iff.mp h with ⟨url, rest, hparsed, hhost, hrest, rfl, -⟩
  refine ⟨url, hparsed, ?_⟩
  rw [Url.parse] at hparsed
  generalize (Text.trim text).toList = chars at hparsed hrest
  rcases afterScheme?_eq_some hrest with ⟨front, rfl, hmark⟩
  by_cases hcolon : ':' ∈ front
  · -- the mark that is found is not the first colon
    rcases List.eq_append_cons_of_mem hcolon with ⟨before, middle, rfl, hfirst⟩
    have hwhole (other : List Char) : before ++ ':' :: middle ++ ':' :: '/' :: '/' :: other =
        before ++ ':' :: (middle ++ ':' :: '/' :: '/' :: other) := by simp
    have hfaithful : isFaithful (Url.kind url.scheme)
        (before ++ ':' :: (middle ++ ':' :: '/' :: '/' :: rest)) = false := by
      rw [isFaithful, dropWhile_append_colon hfirst]
      split
      · rename_i behind hbehind
        have hlength := congrArg List.length hbehind
        rw [hwhole] at hrest
        rw [hbehind, afterScheme?_of_not_mem hfirst] at hrest
        cases hrest
        simp at hlength
        omega
      · rfl
    simp only [hwhole] at hparsed hmark ⊢
    rw [hfaithful, if_neg Bool.false_ne_true]
    exact Or.inr ⟨before ++ ':' :: (middle ++ [':', '/', '/']), rest, by simp,
      detached_of_late_mark hfirst hparsed hhost hmark⟩
  · have hfaithful : isFaithful (Url.kind url.scheme) (front ++ ':' :: '/' :: '/' :: rest) =
        isPlain (Url.kind url.scheme) (region rest) := by
      rw [isFaithful, dropWhile_append_colon hcolon]
      rfl
    rw [hfaithful]
    cases hkind : Url.kind url.scheme with
    | web => exact readBack_web hcolon hparsed hhost hkind
    | file => exact readBack_file hcolon hparsed hhost hkind
    | other =>
      have hiff := readBack_other hcolon hparsed hhost hkind
      split
      · rename_i hplain
        exact hiff.mpr hplain
      · rename_i hplain
        exact Or.inl fun hok => hplain (hiff.mp hok)

def sampleText : String :=
  "https://user@[::1]:8443/x?y"

def sampleTarget : Target :=
  ⟨"[::1]:8443".toList, "/x".toList⟩

theorem sample_readBack :
    ∃ url, Url.parse (Text.trim sampleText) = .ok url ∧ readBack url sampleTarget = .ok url := by
  have hparse : parse sampleText = .ok sampleTarget := by decide +kernel
  rcases readBack_of_parse hparse with ⟨url, hurl, hback⟩
  refine ⟨url, hurl, ?_⟩
  have hkind : Url.kind url.scheme = .web := by
    have hscheme : (Url.parse (Text.trim sampleText)).map (Url.kind ·.scheme) = .ok .web := by
      decide +kernel
    rw [hurl] at hscheme
    exact Except.ok.inj hscheme
  have hfaithful : isFaithful .web (Text.trim sampleText).toList = true := by decide +kernel
  rw [hkind, hfaithful, if_pos rfl] at hback
  exact hback

/-- One of the two slashes behind the scheme may be a backslash, and then a `://` in the query is
the first one. -/
theorem not_forall_readBack : ¬∀ text target url, parse text = .ok target →
    Url.parse (Text.trim text) = .ok url → readBack url target = .ok url := by
  intro hall
  have hback := hall "https:/\\[::1]/?x=://[::2]/p" ⟨"[::2]".toList, "/p".toList⟩
    ⟨"https".toList, some (.ipv6 [0, 0, 0, 0, 0, 0, 0, 1]), none⟩ (by decide +kernel)
    (by decide +kernel)
  -- the target names ::2, but the host of the URL is ::1
  revert hback
  decide +kernel

end Target
end Possession

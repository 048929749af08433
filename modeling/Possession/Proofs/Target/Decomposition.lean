import Possession.Proofs.Target.BoundHost

/-!
# A target is a part of the text

Nothing is invented and nothing dropped when a target is cut out of a text: what stands in front of
host and port, between them and the path, and behind the path is known. `Decomposition` lists the
parts of a text in order, and what each of them may hold. A text has several decompositions when the
part in front of an `@` may reach into the path; among those whose user has no character that ends
host and port, the target is settled.
-/

namespace Possession
namespace Target

open Url

/-- The parts of a text: what stands in front of its first `://`, a user with an `@` behind it or
nothing, host and port, the path, and a query or a fragment. -/
structure Decomposition (text : List Char) where
  scheme : List Char
  user : List Char
  authority : List Char
  path : List Char
  rest : List Char
  whole : text = scheme ++ "://".toList ++ (user ++ authority ++ (path ++ rest))
  first : ∀ front back, text = front ++ "://".toList ++ back → scheme.length ≤ front.length
  user_end : user = [] ∨ ∃ name, user = name ++ ['@']
  authority_ne_nil : authority ≠ []
  authority_free : ∀ c ∈ authority, isCut c = false ∧ c ≠ '@'
  path_begin : path = [] ∨ ∃ more, path = '/' :: more
  path_free : '?' ∉ path ∧ '#' ∉ path
  rest_begin : rest = [] ∨ ∃ more, rest = '?' :: more ∨ rest = '#' :: more

namespace Decomposition

variable {text : List Char} (parts : Decomposition text)

/-- The parts that a token binds. -/
def target : Target :=
  ⟨parts.authority, parts.path⟩

/-- Whether the user ends in front of the first slash, question mark or number sign. -/
def HasPlainUser : Prop :=
  ∀ c ∈ parts.user, isCut c = false

end Decomposition

/-! ## The first `://` -/

theorem toList_mark : "://".toList = [':', '/', '/'] := by
  decide

/-- No `://` stands further in front than the one behind which a text is cut. -/
theorem length_le_of_afterScheme? {front back rest : List Char}
    (h : afterScheme? (front ++ ':' :: '/' :: '/' :: back) = some rest) :
    back.length ≤ rest.length := by
  induction front with
  | nil =>
    cases h
    exact Nat.le_refl _
  | cons c front ih =>
    rw [List.cons_append] at h
    unfold afterScheme? at h
    split at h
    · next heq =>
      cases h
      have hlength := congrArg List.length heq
      simp only [List.length_cons, List.length_append] at hlength
      omega
    · next heq =>
      cases heq
      exact ih h
    · cases h

/-- The place where a text is cut is that of the first `://`. -/
theorem first_of_afterScheme? {text scheme rest : List Char} (h : afterScheme? text = some rest)
    (htext : text = scheme ++ ':' :: '/' :: '/' :: rest) (front back : List Char)
    (hfront : text = front ++ "://".toList ++ back) : scheme.length ≤ front.length := by
  rw [toList_mark, List.append_assoc] at hfront
  change text = front ++ ':' :: '/' :: '/' :: back at hfront
  have hlast : back.length ≤ rest.length := length_le_of_afterScheme? (hfront ▸ h)
  have hlength := congrArg List.length (htext.symm.trans hfront)
  simp only [List.length_append, List.length_cons] at hlength
  omega

/-- What is behind the first `://` is what is behind it in every decomposition. -/
theorem Decomposition.behind_eq {text : List Char} (parts : Decomposition text)
    {rest : List Char} (h : afterScheme? text = some rest) :
    parts.user ++ parts.authority ++ (parts.path ++ parts.rest) = rest := by
  rcases afterScheme?_eq_some h with ⟨front, htext, -⟩
  have hwhole := parts.whole
  -- neither of the two places comes before the other
  have hfirst := parts.first front rest (by rw [htext, toList_mark, List.append_assoc]; rfl)
  generalize parts.user ++ parts.authority ++ (parts.path ++ parts.rest) = behind at hwhole ⊢
  rw [toList_mark, List.append_assoc] at hwhole
  change text = parts.scheme ++ ':' :: '/' :: '/' :: behind at hwhole
  have hlast : behind.length ≤ rest.length := length_le_of_afterScheme? (hwhole ▸ h)
  have hsame := htext.symm.trans hwhole
  have hlength := congrArg List.length hsame
  simp only [List.length_append, List.length_cons] at hlength
  have hbehind := (List.append_inj hsame (by omega)).2
  simpa using hbehind.symm

/-! ## Behind the first `://` -/

/-- Host and port end with the text or where one of three characters stands. -/
theorem takeWhile_of_begin {whole tail : List Char} (hwhole : ∀ c ∈ whole, isCut c = false)
    (htail : tail = [] ∨ ∃ stop more, tail = stop :: more ∧ isCut stop = true) :
    (whole ++ tail).takeWhile (fun c => !isCut c) = whole := by
  have hkept : ∀ c ∈ whole, (!isCut c) = true := by
    intro c hc
    rw [hwhole c hc]
    rfl
  rcases htail with rfl | ⟨stop, more, rfl, hstop⟩
  · rw [List.append_nil, List.takeWhile_eq_self_iff]
    exact hkept
  · exact Text.takeWhile_append_cons hkept (by rw [hstop]; rfl) more

theorem filePath_of_begin {path rest : List Char} (hpath : '?' ∉ path ∧ '#' ∉ path)
    (hrest : rest = [] ∨ ∃ more, rest = '?' :: more ∨ rest = '#' :: more) :
    filePath (path ++ rest) = path := by
  have hkept : ∀ c ∈ path, (c != '?' && c != '#') = true := by
    intro c hc
    rw [Bool.and_eq_true]
    exact ⟨Text.bne_of_not_mem hpath.1 c hc, Text.bne_of_not_mem hpath.2 c hc⟩
  rcases hrest with rfl | ⟨more, rfl | rfl⟩
  · rw [filePath, List.append_nil, List.takeWhile_eq_self_iff]
    exact hkept
  · exact Text.takeWhile_append_cons hkept (by decide) more
  · exact Text.takeWhile_append_cons hkept (by decide) more

/-- What is cut out of parts with a plain user. -/
theorem Decomposition.cut_behind {text : List Char} (parts : Decomposition text)
    (hplain : parts.HasPlainUser) :
    cut (parts.user ++ parts.authority ++ (parts.path ++ parts.rest)) = parts.target := by
  have hwhole : ∀ c ∈ parts.user ++ parts.authority, isCut c = false := by
    intro c hc
    rcases List.mem_append.mp hc with hc | hc
    · exact hplain c hc
    · exact (parts.authority_free c hc).1
  have htail : parts.path ++ parts.rest = [] ∨
      ∃ stop more, parts.path ++ parts.rest = stop :: more ∧ isCut stop = true := by
    rcases parts.path_begin with hpath | ⟨more, hpath⟩
    · rcases parts.rest_begin with hrest | ⟨more, hrest | hrest⟩
      · exact .inl (by rw [hpath, hrest]; rfl)
      · exact .inr ⟨'?', more, by rw [hpath, hrest]; rfl, by decide⟩
      · exact .inr ⟨'#', more, by rw [hpath, hrest]; rfl, by decide⟩
    · exact .inr ⟨'/', more ++ parts.rest, by rw [hpath]; rfl, by decide⟩
  have hat : '@' ∉ parts.authority := fun hmem => (parts.authority_free '@' hmem).2 rfl
  have huser : dropUser (parts.user ++ parts.authority) = parts.authority := by
    rcases parts.user_end with huser | ⟨name, huser⟩
    · rw [huser]
      exact dropUser_of_not_mem hat
    · rw [huser, List.append_assoc]
      exact dropUser_append hat name
  rw [cut_eq, takeWhile_of_begin hwhole htail, List.drop_left, huser,
    filePath_of_begin parts.path_free parts.rest_begin, target]

theorem exists_user (whole : List Char) : ∃ user, whole = user ++ dropUser whole ∧
    (user = [] ∨ ∃ name, user = name ++ ['@']) := by
  rcases dropUser_cases whole with ⟨-, hsame⟩ | ⟨name, hsplit, -⟩
  · exact ⟨[], hsame.symm, .inl rfl⟩
  · refine ⟨name ++ ['@'], ?_, .inr ⟨name, rfl⟩⟩
    rw [List.append_assoc]
    exact hsplit

/-- A run of characters ends with the text, or where one stands that does not belong to it. -/
theorem exists_run (p : Char → Bool) (chars : List Char) :
    ∃ front back, chars = front ++ back ∧ chars.takeWhile p = front ∧ (∀ c ∈ front, p c = true) ∧
      (back = [] ∨ ∃ stop more, back = stop :: more ∧ p stop = false) := by
  rcases Text.all_or_first p chars with hall | ⟨front, stop, more, rfl, hfront, hstop⟩
  · exact ⟨chars, [], (List.append_nil _).symm, List.takeWhile_eq_self_iff.mpr hall, hall, .inl rfl⟩
  · exact ⟨front, stop :: more, rfl, Text.takeWhile_append_cons hfront hstop more, hfront,
      .inr ⟨stop, more, rfl, hstop⟩⟩

/-- A path ends with the text, or where a query or a fragment begins. -/
theorem exists_path (tail : List Char) : ∃ path rest, tail = path ++ rest ∧
    filePath tail = path ∧ ('?' ∉ path ∧ '#' ∉ path) ∧
      (rest = [] ∨ ∃ more, rest = '?' :: more ∨ rest = '#' :: more) := by
  rcases exists_run (fun c => c != '?' && c != '#') tail with
    ⟨path, rest, hsplit, hpath, hkept, hend⟩
  refine ⟨path, rest, hsplit, hpath, ⟨fun hmem => ?_, fun hmem => ?_⟩, ?_⟩
  · exact absurd (hkept _ hmem) (by decide)
  · exact absurd (hkept _ hmem) (by decide)
  · rcases hend with hnil | ⟨stop, more, rfl, hstop⟩
    · exact .inl hnil
    · rw [Bool.and_eq_false_iff, bne_eq_false_iff_eq, bne_eq_false_iff_eq] at hstop
      rcases hstop with rfl | rfl
      · exact .inr ⟨more, .inl rfl⟩
      · exact .inr ⟨more, .inr rfl⟩

/-- Of the characters that end host and port only a slash begins a path. -/
theorem path_begin_of_cut {path rest : List Char} (hfree : '?' ∉ path ∧ '#' ∉ path)
    (h : path ++ rest = [] ∨ ∃ stop more, path ++ rest = stop :: more ∧ (!isCut stop) = false) :
    path = [] ∨ ∃ more, path = '/' :: more := by
  cases path with
  | nil => exact .inl rfl
  | cons c path =>
    rcases h with hnil | ⟨_, _, hcons, hstop⟩
    · cases hnil
    · cases hcons
      simp only [isCut, Bool.not_eq_false', Bool.or_eq_true, beq_iff_eq] at hstop
      rcases hstop with (rfl | rfl) | rfl
      · exact .inr ⟨path, rfl⟩
      · exact absurd List.mem_cons_self hfree.1
      · exact absurd List.mem_cons_self hfree.2

theorem exists_decomposition {text rest : List Char} (h : afterScheme? text = some rest)
    (hauthority : (cut rest).authority ≠ []) :
    ∃ parts : Decomposition text, parts.HasPlainUser ∧ parts.target = cut rest := by
  rcases afterScheme?_eq_some h with ⟨scheme, htext, -⟩
  -- three searches, each in what the one before it has left
  rcases exists_run (fun c => !isCut c) rest with ⟨whole, tail, hrest, hwhole, hkept, htail⟩
  rcases exists_path tail with ⟨path, query, rfl, hpath, hfree, hquery⟩
  rcases exists_user whole with ⟨user, huser, hend⟩
  have hcut : cut rest = ⟨dropUser whole, path⟩ := by
    rw [cut_eq, hwhole, hrest, List.drop_left, hpath]
  have hplain : ∀ c ∈ whole, isCut c = false := by
    intro c hc
    simpa using hkept c hc
  let parts : Decomposition text := {
    scheme, user, path
    authority := dropUser whole
    rest := query
    whole := by
      rw [htext, hrest, ← huser, toList_mark, List.append_assoc]
      rfl
    first := first_of_afterScheme? h htext
    user_end := hend
    authority_ne_nil := by
      rw [hcut] at hauthority
      exact hauthority
    authority_free := by
      intro c hc
      refine ⟨hplain c (mem_of_mem_dropUser hc), ?_⟩
      rintro rfl
      exact not_mem_dropUser whole hc
    path_begin := path_begin_of_cut hfree htail
    path_free := hfree
    rest_begin := hquery }
  refine ⟨parts, ?_, hcut.symm⟩
  intro c hc
  exact hplain c (huser ▸ List.mem_append_left _ hc)

/-- A target is cut out of the trimmed text as a decomposition has it whose user is plain, and there
is no other target in such decompositions. An empty path is answered as none. -/
theorem parse_decomposition {url : String} {target : Target} (h : parse url = .ok target) :
    (∃ parts : Decomposition (Text.trim url).toList, parts.HasPlainUser ∧ parts.target = target) ∧
      (∀ parts : Decomposition (Text.trim url).toList, parts.HasPlainUser →
        parts.target = target) ∧
      (target.path = none ∧ target.pathChars = [] ∨
        ∃ more, target.pathChars = '/' :: more ∧
          target.path = some (String.ofList target.pathChars)) := by
  rcases parse_eq_ok_iff.mp h with ⟨_, rest, -, -, hrest, rfl, hauthority⟩
  rcases exists_decomposition hrest hauthority with ⟨parts, hplain, hparts⟩
  refine ⟨⟨parts, hplain, hparts⟩, ?_, ?_⟩
  · intro other hother
    rw [← other.cut_behind hother, other.behind_eq hrest]
  · rw [← hparts]
    rcases parts.path_begin with hpath | ⟨more, hpath⟩
    · refine .inl ⟨?_, hpath⟩
      simp [Decomposition.target, path, hpath]
    · refine .inr ⟨more, hpath, ?_⟩
      simp [Decomposition.target, path, hpath]

/-- A text with a port, and what is cut out of it. -/
theorem sample_decomposition :
    parse sampleText = .ok sampleTarget ∧
      ∀ parts : Decomposition (Text.trim sampleText).toList, parts.HasPlainUser →
        parts.target = sampleTarget := by
  have hparse : parse sampleText = .ok sampleTarget := by decide +kernel
  exact ⟨hparse, (parse_decomposition hparse).2.1⟩

/-- A text with an `@` in its path. -/
def ambiguousText : String :=
  "https://[::1]/b@c"

/-- The `@` may be taken for the end of a user that reaches into the path. -/
def farUser : Decomposition (Text.trim ambiguousText).toList where
  scheme := "https".toList
  user := "[::1]/b@".toList
  authority := ['c']
  path := []
  rest := []
  whole := by decide +kernel
  first := @first_of_afterScheme? _ "https".toList "[::1]/b@c".toList (by decide +kernel)
    (by decide +kernel)
  user_end := .inr ⟨"[::1]/b".toList, by decide +kernel⟩
  authority_ne_nil := by decide
  authority_free := by
    intro c hc
    cases List.mem_singleton.mp hc
    decide
  path_begin := .inl rfl
  path_free := by decide
  rest_begin := .inl rfl

/-- Where the user may reach into the path, another host than the one that is cut out could be
named. -/
theorem not_forall_decomposition : ¬∀ url target, parse url = .ok target →
    ∀ parts : Decomposition (Text.trim url).toList, parts.target = target := by
  intro hall
  have hparse : parse ambiguousText = .ok ⟨"[::1]".toList, "/b@c".toList⟩ := by decide +kernel
  have htarget := hall ambiguousText _ hparse farUser
  exact absurd (congrArg Target.authority htarget) (by decide +kernel)

end Target
end Possession

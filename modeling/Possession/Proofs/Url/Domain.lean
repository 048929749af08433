import Possession.Proofs.Text.Split
import Possession.Url.Domain

/-!
# Strays in domain names

Controls, the space and the at sign are strays: no step on the way to the ASCII form of a domain
name takes them away, and no label may hold them. So a domain name that has an ASCII form has no
strays.

Each section follows one step and says that a stray is still there behind it.
-/

namespace Possession
namespace Url
namespace Domain

open Text

/-- Controls and the space, and the at sign. -/
def isStray (code : Nat) : Bool :=
  code ≤ 32 || code == 64

theorem isStray_iff {code : Nat} : isStray code = true ↔ code ≤ 32 ∨ code = 64 := by
  simp [isStray]

/-! ## Mapping -/

theorem map?_of_isStray {code : Nat} (h : isStray code = true) : map? code = some [code] := by
  rw [isStray_iff] at h
  have hlow : code < 128 := by omega
  -- only capitals are changed in the ASCII range
  have hupper : (decide (65 ≤ code) && decide (code ≤ 90)) = false := by
    simp only [Bool.and_eq_false_iff, decide_eq_false_iff_not]
    omega
  simp [map?, hlow, hupper]

/-- Where a list is mapped as a whole, each of its elements is. -/
theorem exists_of_mem_of_mapM {α β : Type} {f : α → Option β} {elements : List α} {images : List β}
    (h : elements.mapM f = some images) {element : α} (hmem : element ∈ elements) :
    ∃ image ∈ images, f element = some image := by
  induction elements generalizing images with
  | nil => cases hmem
  | cons first elements ih =>
    simp only [List.mapM_cons, Option.pure_def, Option.bind_eq_bind, Option.bind_eq_some_iff,
      Option.some.injEq] at h
    rcases h with ⟨image, himage, others, hothers, rfl⟩
    rcases List.mem_cons.mp hmem with rfl | hmem
    · exact ⟨image, by simp, himage⟩
    · rcases ih hothers hmem with ⟨found, hfound, hf⟩
      exact ⟨found, by simp [hfound], hf⟩

/-! ## Composition -/

set_option maxRecDepth 100000 in
/-- No entry of the table of parts has a stray among its parts. -/
theorem not_isStray_of_mem_parts {entry : Mapped} (h : entry ∈ partsTable) {code : Nat}
    (hcode : code ∈ entry.target) : isStray code = false := by
  -- the whole table is evaluated once, from its text
  have hchecked : ∃ chars, partsText = String.ofList chars ∧
      ((fields isGap chars).map Mapped.ofChars).all
        (fun entry => entry.target.all fun code => !isStray code) = true :=
    ⟨_, rfl, by decide +kernel⟩
  rcases hchecked with ⟨chars, htext, hall⟩
  rw [partsTable, htext, String.toList_ofList, List.mem_toArray] at h
  have hentry := List.all_eq_true.mp hall entry h
  simpa using List.all_eq_true.mp hentry code hcode

theorem partsOf_of_isStray {code : Nat} (h : isStray code = true) : partsOf 4 code = [code] := by
  have hall : ∀ code < 65, partsOf 4 code = [code] := by decide +kernel
  apply hall
  rw [isStray_iff] at h
  omega

theorem mem_insertMark {code other : Nat} {rest : List Nat} :
    other ∈ insertMark code rest ↔ other = code ∨ other ∈ rest := by
  induction rest with
  | nil => simp [insertMark]
  | cons last rest ih =>
    rw [insertMark]
    -- reordering moves marks and drops nothing
    split
    · simp only [List.mem_cons, ih, or_left_comm]
    · exact List.mem_cons

theorem mem_foldl_insertMark {other : Nat} {codes rest : List Nat} :
    other ∈ codes.foldl (fun reversed code => insertMark code reversed) rest ↔
      other ∈ codes ∨ other ∈ rest := by
  induction codes generalizing rest with
  | nil => simp
  | cons code codes ih =>
    simp only [List.foldl_cons, ih, mem_insertMark, List.mem_cons, or_left_comm, or_assoc]

theorem mem_decompose_of_isStray {code : Nat} {codes : List Nat} (h : isStray code = true)
    (hmem : code ∈ codes) : code ∈ decompose codes := by
  rw [decompose, List.mem_reverse, mem_foldl_insertMark]
  refine Or.inl (List.mem_flatMap.mpr ⟨code, hmem, ?_⟩)
  simp [partsOf_of_isStray h]

/-- Strays are never joined with a neighbour. -/
theorem not_isStray_of_join? {first second joined : Nat} (h : join? first second = some joined) :
    isStray first = false ∧ isStray second = false := by
  have hhigh {code : Nat} (hcode : 64 < code) : isStray code = false := by
    rw [Bool.eq_false_iff, Ne, isStray_iff]
    omega
  rw [join?] at h
  split at h
  · rename_i hrange
    simp only [Bool.and_eq_true, decide_eq_true_eq] at hrange
    exact ⟨hhigh (by omega), hhigh (by omega)⟩
  · split at h
    · rename_i hrange
      simp only [Bool.and_eq_true, decide_eq_true_eq] at hrange
      exact ⟨hhigh (by omega), hhigh (by omega)⟩
    · rcases Option.map_eq_some_iff.mp h with ⟨entry, hfind, -⟩
      -- the entry that is found has the two as its parts
      have htarget : entry.target = [first, second] := by simpa using Array.find?_some hfind
      have hentry := Array.mem_of_find?_eq_some hfind
      exact ⟨not_isStray_of_mem_parts hentry (by simp [htarget]),
        not_isStray_of_mem_parts hentry (by simp [htarget])⟩

/-- A step of joining keeps every stray. -/
theorem mem_codes_push {state : Joining} {code other : Nat} (h : isStray other = true)
    (hmem : other ∈ state.codes ∨ other = code) : other ∈ (state.push code).codes := by
  unfold Joining.push
  simp only
  split
  · rename_i joined hjoined
    -- the starter and the next code point are no strays, and nothing else is replaced
    rcases Option.bind_eq_some_iff.mp hjoined with ⟨starter, hstarter, hfree⟩
    have hjoin : join? starter code = some joined := by
      split at hfree
      · exact hfree
      · cases hfree
    rcases not_isStray_of_join? hjoin with ⟨hfirst, hsecond⟩
    have hstarterNe : other ≠ starter := by
      rintro rfl
      simp [h] at hfirst
    have hcodeNe : other ≠ code := by
      rintro rfl
      simp [h] at hsecond
    simp only [Joining.codes, hstarter, Option.toList_some, List.mem_append, List.mem_singleton,
      hstarterNe, hcodeNe, or_false] at hmem
    simp only [Joining.codes, Option.toList_some, List.mem_append, List.mem_singleton]
    rcases hmem with hfinished | hmarks
    · exact Or.inl (Or.inl hfinished)
    · exact Or.inr hmarks
  · split
    · simp only [Joining.codes, List.mem_append, Option.toList_some, List.mem_singleton,
        List.reverse_nil, List.not_mem_nil, or_false] at hmem ⊢
      exact hmem
    · simp only [Joining.codes, List.mem_append, List.reverse_cons, List.mem_singleton,
        or_assoc] at hmem ⊢
      exact hmem

theorem mem_codes_foldl_push {other : Nat} (h : isStray other = true) {codes : List Nat}
    {state : Joining} (hmem : other ∈ state.codes ∨ other ∈ codes) :
    other ∈ (codes.foldl Joining.push state).codes := by
  induction codes generalizing state with
  | nil => simpa using hmem
  | cons code codes ih =>
    rw [List.foldl_cons]
    apply ih
    rcases hmem with hmem | hmem
    · exact Or.inl (mem_codes_push h (Or.inl hmem))
    · rcases List.mem_cons.mp hmem with rfl | hmem
      · exact Or.inl (mem_codes_push h (Or.inr rfl))
      · exact Or.inr hmem

theorem mem_compose_of_isStray {code : Nat} {codes : List Nat} (h : isStray code = true)
    (hmem : code ∈ codes) : code ∈ compose codes := by
  rw [compose]
  split
  · exact hmem
  · exact mem_codes_foldl_push h (Or.inr (mem_decompose_of_isStray h hmem))

/-! ## Labels -/

/-- A label that holds a stray does not fit. -/
theorem not_isStray_of_labelFits {label : List Nat} (h : labelFits label = true) {code : Nat}
    (hmem : code ∈ label) : isStray code = false := by
  rw [labelFits, Bool.and_eq_true, Bool.and_eq_true] at h
  have hcode := List.all_eq_true.mp h.1.1 code hmem
  rw [Bool.eq_false_iff]
  intro hstray
  have hforbidden : ∀ code < 65, isStray code = true → isForbidden code = true := by decide
  rw [isStray_iff] at hstray
  have hlow : code < 128 := by omega
  have hfalse := hforbidden code (by omega) (isStray_iff.mpr hstray)
  simp [hlow, hfalse] at hcode

/-! ## Punycode -/

theorem mem_readDigits {state : Punycode.Reading} {text : List Char} {label : List Nat}
    (h : Punycode.readDigits state text = some label) {code : Nat} (hmem : code ∈ state.label) :
    code ∈ label := by
  induction text generalizing state with
  | nil =>
    rw [Punycode.readDigits] at h
    split at h
    · cases h
      exact hmem
    · cases h
  | cons c text ih =>
    rw [Punycode.readDigits] at h
    split at h
    · cases h
    -- a step either ends a number, and puts its code point in, or goes on with it
    · dsimp only at h
      split at h
      · split at h
        · cases h
        · refine ih h ?_
          -- the new code point is put between two parts of the label
          rw [← List.take_append_drop _ state.label] at hmem
          rcases List.mem_append.mp hmem with hfront | hback
          · exact List.mem_append_left _ hfront
          · exact List.mem_append_right _ (List.mem_cons_of_mem _ hback)
      · split at h
        · cases h
        · exact ih h hmem

theorem value?_of_readDigits {state : Punycode.Reading} {text : List Char} {label : List Nat}
    (h : Punycode.readDigits state text = some label) {c : Char} (hmem : c ∈ text) :
    Punycode.value? c ≠ none := by
  induction text generalizing state with
  | nil => cases hmem
  | cons first text ih =>
    rw [Punycode.readDigits] at h
    split at h
    · cases h
    · rename_i value hvalue
      rcases List.mem_cons.mp hmem with rfl | hmem
      · simp [hvalue]
      · dsimp only at h
        split at h
        · split at h
          · cases h
          · exact ih h hmem
        · split at h
          · cases h
          · exact ih h hmem

/-- A stray in front of the last hyphen is read as itself, and one behind it not at all. -/
theorem mem_decode?_of_isStray {text : List Char} {label : List Nat}
    (h : Punycode.decode? text = some label) {c : Char} (hstray : isStray c.toNat = true)
    (hmem : c ∈ text) : c.toNat ∈ label := by
  have hvalue : ∀ code < 65, isStray code = true →
      Punycode.value? (Char.ofNat code) = none ∧ Char.ofNat code ≠ '-' := by decide
  have hlow : c.toNat < 65 := by
    rw [isStray_iff] at hstray
    omega
  rcases hvalue c.toNat hlow hstray with ⟨hnone, hhyphen⟩
  rw [Char.ofNat_toNat] at hnone hhyphen
  rw [Punycode.decode?] at h
  split at h
  · have hlast : c ∈ text.reverse := List.mem_reverse.mpr hmem
    -- the last hyphen parts what is taken as it is from what is read as numbers
    rcases all_or_first (· != '-') text.reverse with
      hall | ⟨tail, stop, front, hwhole, htail, hstop⟩
    · rw [List.takeWhile_eq_self_iff.mpr hall] at h
      exact absurd hnone (value?_of_readDigits h (by simpa using hmem))
    · have hcut : text.reverse.takeWhile (· != '-') = tail := by
        rw [hwhole]
        exact takeWhile_append_cons htail hstop front
      have hdrop : text.reverse.drop (tail.reverse.length + 1) = front := by
        rw [hwhole, List.length_reverse, ← List.drop_drop, List.drop_left]
        rfl
      rw [hcut, hdrop] at h
      rw [hwhole] at hlast
      rcases List.mem_append.mp hlast with hmem | hmem
      · exact absurd hnone (value?_of_readDigits h (List.mem_reverse.mpr hmem))
      · rcases List.mem_cons.mp hmem with rfl | hmem
        · simp [hhyphen] at hstop
        -- in front of the hyphen: the label begins with it
        · refine mem_readDigits h ?_
          exact List.mem_map_of_mem (List.mem_reverse.mpr hmem)
  · cases h

theorem mem_readable?_of_isStray {label decoded : List Nat} (h : readable? label = some decoded)
    {code : Nat} (hstray : isStray code = true) (hmem : code ∈ label) : code ∈ decoded := by
  rw [readable?] at h
  split at h
  · rename_i hmark
    rcases List.isPrefixOf_iff_prefix.mp hmark with ⟨rest, rfl⟩
    have hmark : ∀ code ∈ asciiMark, isStray code = false := by decide
    -- the mark itself holds no stray
    have hrest : code ∈ rest := by
      rcases List.mem_append.mp hmem with hfront | hrest
      · simp [hmark code hfront] at hstray
      · exact hrest
    have hlow : code < 65 := by
      rw [isStray_iff] at hstray
      omega
    have hchar : (Char.ofNat code).toNat = code := by
      have hall : ∀ code < 65, (Char.ofNat code).toNat = code := by decide
      exact hall code hlow
    simp only [List.drop_left] at h
    split at h
    · cases h
    · rw [Option.bind_eq_bind, Option.bind_eq_some_iff] at h
      rcases h with ⟨read, hread, h⟩
      split at h
      · cases h
      · cases h
        have hfound := mem_decode?_of_isStray hread (c := Char.ofNat code) (by rwa [hchar])
          (List.mem_map_of_mem hrest)
        rwa [hchar] at hfound
  · cases h
    exact hmem

/-! ## Domain names -/

/-- A domain name that has an ASCII form has no strays. -/
theorem not_isStray_of_toAscii? {name ascii : List Char} (h : toAscii? name = some ascii) {c : Char}
    (hmem : c ∈ name) : isStray c.toNat = false := by
  rw [Bool.eq_false_iff]
  intro hstray
  have hdot : c.toNat ≠ dot := by
    rw [isStray_iff] at hstray
    rw [dot]
    omega
  simp only [toAscii?, Option.bind_eq_bind, Option.bind_eq_some_iff] at h
  rcases h with ⟨mapped, hmapped, readable, hreadable, h⟩
  -- the stray goes through mapping, composition, cutting and decoding, and is caught at last
  have hflat : c.toNat ∈ mapped.flatten := by
    rcases exists_of_mem_of_mapM hmapped hmem with ⟨image, himage, hmap⟩
    rw [map?_of_isStray hstray] at hmap
    cases hmap
    exact List.mem_flatten.mpr ⟨_, himage, List.mem_singleton_self _⟩
  rcases Text.exists_mem_splitOn hdot (mem_compose_of_isStray hstray hflat) with
    ⟨label, hlabel, hcode⟩
  rcases exists_of_mem_of_mapM hreadable hlabel with ⟨decoded, hdecoded, hread⟩
  have hfound := mem_readable?_of_isStray hread hstray hcode
  split at h
  · cases h
  · rename_i hfits
    simp only [Bool.or_eq_true, Bool.not_eq_true', not_or, Bool.not_eq_false] at hfits
    have hlabelFits := List.all_eq_true.mp hfits.1 decoded hdecoded
    rw [not_isStray_of_labelFits hlabelFits hfound] at hstray
    cases hstray

end Domain
end Url
end Possession

import Possession.Proofs.Text.Utf8
import Possession.Proofs.Url.Authority
import Possession.Proofs.Url.Domain

/-!
# Hosts without strays

Where a scheme has rules of its own, what stands as host and port has no control, no space and no at
sign in it: a domain name does not, an address does not, and a port is digits.
-/

namespace Possession
namespace Url

open Domain

/-! ## Octets -/

/-- An octet that no percent sign can be part of stays when percent signs are resolved. -/
theorem mem_decode_of_not_digit {byte : UInt8} (hpercent : byte ≠ 37)
    (hdigit : Digits.value? (Char.ofNat byte.toNat) = none) {bytes : Bytes} (hmem : byte ∈ bytes) :
    byte ∈ Percent.decode bytes := by
  -- along the recursion of the decoder: an escape takes away a sign and two digits
  induction bytes using Percent.decode.induct with
  | case1 => cases hmem
  | case2 high low rest h l hlow hhigh ih =>
    simp only [Percent.decode, hhigh, hlow]
    simp only [List.mem_cons] at hmem
    rcases hmem with rfl | rfl | rfl | hmem
    · exact absurd rfl hpercent
    · simp [hdigit] at hhigh
    · simp [hdigit] at hlow
    · exact List.mem_cons_of_mem _ (ih hmem)
  | case3 high low rest hnone ih =>
    rw [Percent.decode]
    split
    · rename_i h1 h2 hhigh hlow
      exact absurd hlow (hnone _ _ hhigh)
    · rcases List.mem_cons.mp hmem with rfl | hmem
      · exact absurd rfl hpercent
      · exact List.mem_cons_of_mem _ (ih hmem)
  | case4 first rest hother ih =>
    rw [Percent.decode]
    · rcases List.mem_cons.mp hmem with rfl | hmem
      · exact List.mem_cons_self
      · exact List.mem_cons_of_mem _ (ih hmem)
    · exact hother

/-- An octet of the ASCII range is read as the character it stands for. -/
theorem mem_of_decodeChars? {byte : UInt8} (hlow : byte.toNat < 128) {bytes : Bytes}
    {chars : List Char} (h : Utf8.decodeChars? bytes = some chars) (hmem : byte ∈ bytes) :
    Char.ofNat byte.toNat ∈ chars := by
  -- tails of longer forms lie above the ASCII range
  have htail {other : UInt8} (hother : Utf8.isTail other = true) : byte ≠ other := by
    rintro rfl
    simp only [Utf8.isTail, beq_iff_eq] at hother
    omega
  fun_induction Utf8.decodeChars? bytes generalizing chars with
  | case1 => cases hmem
  | case2 a rest ha ih =>
    rcases Option.map_eq_some_iff.mp h with ⟨others, hothers, rfl⟩
    rcases List.mem_cons.mp hmem with rfl | hmem
    · exact List.mem_cons_self
    · exact List.mem_cons_of_mem _ (ih hothers hmem)
  | case3 a ha hrange b rest hb ih =>
    rcases Option.map_eq_some_iff.mp h with ⟨others, hothers, rfl⟩
    have hfirst : byte ≠ a := by
      rintro rfl
      exact ha hlow
    simp only [List.mem_cons, hfirst, htail hb, false_or] at hmem
    exact List.mem_cons_of_mem _ (ih hothers hmem)
  | case6 a ha hnot hrange b c rest code hcode =>
    rename_i ih
    rcases Option.map_eq_some_iff.mp h with ⟨others, hothers, rfl⟩
    have hfirst : byte ≠ a := by
      rintro rfl
      exact ha hlow
    simp only [Bool.and_eq_true] at hcode
    simp only [List.mem_cons, hfirst, htail hcode.1.1.1, htail hcode.1.1.2, false_or] at hmem
    exact List.mem_cons_of_mem _ (ih hothers hmem)
  | case9 a ha hnot hnotThree hrange b c d rest code hcode =>
    rename_i ih
    rcases Option.map_eq_some_iff.mp h with ⟨others, hothers, rfl⟩
    have hfirst : byte ≠ a := by
      rintro rfl
      exact ha hlow
    simp only [Bool.and_eq_true] at hcode
    simp only [List.mem_cons, hfirst, htail hcode.1.1.1.1, htail hcode.1.1.1.2, htail hcode.1.1.2,
      false_or] at hmem
    exact List.mem_cons_of_mem _ (ih hothers hmem)
  | case4 | case5 | case7 | case8 | case10 | case11 | case12 => cases h

/-! ## Digits -/

/-- Strays are no digits of any base. -/
theorem value?_of_isStray {c : Char} (h : isStray c.toNat = true) : Digits.value? c = none := by
  -- a table of the characters up to the at sign
  have hall : ∀ code < 65, isStray code = true → Digits.value? (Char.ofNat code) = none := by
    decide
  have hlow : c.toNat < 65 := by
    rw [isStray_iff] at h
    omega
  have hnone := hall c.toNat hlow h
  rwa [Char.ofNat_toNat] at hnone

theorem not_isStray_of_valueIn? {base : Nat} {c : Char} (h : Digits.valueIn? base c ≠ none) :
    isStray c.toNat = false := by
  rw [Bool.eq_false_iff]
  intro hstray
  apply h
  rw [Digits.valueIn?, value?_of_isStray hstray]
  rfl

theorem not_isStray_of_number? {base value : Nat} {digits : List Char}
    (h : Digits.number? base digits = some value) {c : Char} (hmem : c ∈ digits) :
    isStray c.toNat = false := by
  rw [Digits.number?] at h
  -- the digits are folded from any start, for the sake of the induction
  generalize (0 : Nat) = start at h
  induction digits generalizing start with
  | nil => cases hmem
  | cons first digits ih =>
    rw [List.foldlM_cons, Option.bind_eq_bind, Option.bind_eq_some_iff] at h
    rcases h with ⟨next, hnext, hrest⟩
    rcases List.mem_cons.mp hmem with rfl | hmem
    · refine not_isStray_of_valueIn? (?_ : Digits.valueIn? base c ≠ none)
      intro hnone
      rw [hnone] at hnext
      cases hnext
    · exact ih hmem next hrest

/-! ## Addresses -/

namespace Ipv6

theorem not_isStray_of_decimalGroups? {chars : List Char} {groups : Nat × Nat}
    (h : decimalGroups? chars = some groups) {c : Char} (hmem : c ∈ chars) :
    isStray c.toNat = false := by
  by_cases hdot : c = '.'
  · subst hdot
    decide
  -- the character stands in one of the pieces between the dots, which are decimal numbers
  · rcases Text.exists_mem_splitOn hdot hmem with ⟨part, hpart, hc⟩
    rw [decimalGroups?, Option.bind_eq_bind, Option.bind_eq_some_iff] at h
    rcases h with ⟨octets, hoctets, -⟩
    rcases exists_of_mem_of_mapM hoctets hpart with ⟨octet, -, hoctet⟩
    rw [octet?.eq_def] at hoctet
    split at hoctet
    · cases hoctet
    · cases hoctet
    · rw [Option.bind_eq_bind, Option.bind_eq_some_iff] at hoctet
      rcases hoctet with ⟨value, hvalue, -⟩
      exact not_isStray_of_number? hvalue hc

/-- A text splits into the digits in front of it and what stands behind them. -/
theorem digits_append_drop (chars : List Char) :
    let digits := (chars.take 4).takeWhile fun c => (Digits.valueIn? 16 c).isSome
    digits ++ chars.drop digits.length = chars ∧ ∀ c ∈ digits, isStray c.toNat = false := by
  refine ⟨?_, ?_⟩
  · exact List.prefix_iff_eq_append.mp ((List.takeWhile_prefix _).trans (List.take_prefix 4 chars))
  · intro c hc
    refine not_isStray_of_valueIn? (?_ : Digits.valueIn? 16 c ≠ none)
    rw [← Option.isSome_iff_ne_none]
    exact List.mem_takeWhile_imp (p := fun c => (Digits.valueIn? 16 c).isSome) hc

theorem not_isStray_of_readGroups {fuel : Nat} {groups found : Groups} {chars : List Char}
    (h : readGroups fuel groups chars = some found) {c : Char} (hmem : c ∈ chars) :
    isStray c.toNat = false := by
  have hcolon : isStray ':'.toNat = false := by decide
  induction fuel generalizing groups chars with
  | zero =>
    cases chars with
    | nil => cases hmem
    | cons first chars => cases h
  | succ fuel ih =>
    by_cases hcolons : ∃ rest, chars = ':' :: rest
    · rcases hcolons with ⟨rest, rfl⟩
      rw [readGroups] at h
      split at h
      · cases h
      · split at h
        · cases h
        · rcases List.mem_cons.mp hmem with rfl | hmem
          · exact hcolon
          · exact ih h hmem
    · -- a group: digits in front, and behind them the end, a dot or a colon
      rw [readGroups] at h
      · split at h
        · cases h
        · have hsplit := digits_append_drop chars
          dsimp only at h hsplit
          rcases hsplit with ⟨hwhole, hdigits⟩
          rw [← hwhole] at hmem
          split at h
          · rename_i hend
            rw [hend, List.append_nil] at hmem
            exact hdigits c hmem
          · split at h
            · cases h
            · rcases Option.map_eq_some_iff.mp h with ⟨pair, hpair, -⟩
              rw [hwhole] at hmem
              exact not_isStray_of_decimalGroups? hpair hmem
          · rename_i rest hend
            split at h
            · cases h
            · rw [hend] at hmem
              rcases List.mem_append.mp hmem with hmem | hmem
              · exact hdigits c hmem
              · rcases List.mem_cons.mp hmem with rfl | hmem
                · exact hcolon
                · exact ih h hmem
          · cases h
      · exact List.ne_nil_of_mem hmem
      · intro rest hrest
        exact hcolons ⟨rest, hrest⟩

theorem not_isStray_of_parse? {chars : List Char} {groups : List Nat}
    (h : parse? chars = some groups) {c : Char} (hmem : c ∈ chars) : isStray c.toNat = false := by
  have hcolon : isStray ':'.toNat = false := by decide
  rw [parse?.eq_def] at h
  split at h
  · rcases Option.bind_eq_some_iff.mp h with ⟨found, hfound, -⟩
    simp only [List.mem_cons] at hmem
    rcases hmem with rfl | rfl | hmem
    · exact hcolon
    · exact hcolon
    · exact not_isStray_of_readGroups hfound hmem
  · cases h
  · cases h
  · cases h
  · rcases Option.bind_eq_some_iff.mp h with ⟨found, hfound, -⟩
    exact not_isStray_of_readGroups hfound hmem

end Ipv6

/-! ## Hosts -/

theorem not_isStray_of_parseBracketed {text : List Char} {host : Host}
    (h : Host.parseBracketed ('[' :: text) = .ok host) {c : Char} (hmem : c ∈ '[' :: text) :
    isStray c.toNat = false := by
  rw [Host.parseBracketed] at h
  split at h
  · rename_i hlast
    split at h
    · rename_i groups hgroups
      have hne : text ≠ [] := by
        rintro rfl
        cases hlast
      -- the last character closes the bracket; between the two stands an address
      have hclose : text.getLast hne = ']' := by
        rw [List.getLast?_cons, List.getLast?_eq_some_getLast hne] at hlast
        exact Option.some.inj hlast
      rw [← List.dropLast_append_getLast hne, hclose] at hmem
      rcases List.mem_cons.mp hmem with rfl | hmem
      · decide
      · rcases List.mem_append.mp hmem with hinner | hmem
        · exact Ipv6.not_isStray_of_parse? hgroups hinner
        · rw [List.mem_singleton.mp hmem]
          decide
    · cases h
  · cases h

/-- What a scheme with rules of its own takes for a host has no strays. -/
theorem not_isStray_of_parse {text : List Char} {host : Host} (h : Host.parse text = .ok host)
    {c : Char} (hmem : c ∈ text) : isStray c.toNat = false := by
  rw [Host.parse] at h
  split at h
  · rename_i hhead
    cases text with
    | nil => cases hmem
    | cons first text =>
      cases hhead
      exact not_isStray_of_parseBracketed h hmem
  · split at h
    · cases h
    · rename_i decoded hdecoded
      split at h
      · cases h
      · cases h
      · rename_i name _ hascii
        rw [Bool.eq_false_iff]
        intro hstray
        have hcode := isStray_iff.mp hstray
        have hlow : c.toNat < 128 := by omega
        have hbyte : (UInt8.ofNat c.toNat).toNat = c.toNat := by
          rw [UInt8.toNat_ofNat']
          omega
        have hchar : Char.ofNat (UInt8.ofNat c.toNat).toNat = c := by
          rw [hbyte, Char.ofNat_toNat]
        -- The text is percent decoded and read as UTF-8 before it is taken for a domain name. A
        -- stray outlives both: it is one octet, and no part of an escape.
        have hoctet : UInt8.ofNat c.toNat ∈ Utf8.encodeChars text := by
          refine List.mem_flatMap.mpr ⟨c, hmem, ?_⟩
          rw [Utf8.utf8EncodeChar_ascii hlow]
          exact List.mem_singleton_self _
        have hpercent : UInt8.ofNat c.toNat ≠ 37 := by
          intro heq
          rw [heq] at hbyte
          have h37 : (37 : UInt8).toNat = 37 := rfl
          omega
        have hkept := mem_decode_of_not_digit hpercent (by rw [hchar, value?_of_isStray hstray])
          hoctet
        have hfound := mem_of_decodeChars? (by omega) hdecoded hkept
        rw [hchar] at hfound
        have hclean := not_isStray_of_toAscii? hascii hfound
        rw [hclean] at hstray
        cases hstray

/-! ## Host and port -/

/-- A host ends where the part ends or at a colon. -/
theorem takeHost_stops {special bracketed : Bool} {chars behind : List Char}
    (h : takeHost special bracketed chars ++ behind = chars) {c : Char}
    (hc : behind.head? = some c) : endsAuthority special c = true ∨ c = ':' := by
  induction chars generalizing bracketed with
  | nil =>
    rw [takeHost, List.nil_append] at h
    subst h
    cases hc
  | cons first chars ih =>
    rw [takeHost] at h
    split at h
    · rename_i hstop
      rw [List.nil_append] at h
      subst h
      cases hc
      simp only [Bool.or_eq_true, Bool.and_eq_true, beq_iff_eq] at hstop
      -- brackets only keep a colon from ending the host
      rcases hstop with hends | ⟨hcolon, -⟩
      · exact Or.inl hends
      · exact Or.inr hcolon
    · exact ih (List.cons.inj h).2

/-- A port is digits up to the end, or up to a character that ends the part. -/
theorem readPort_eq_ok {implied port : Option Nat} {chars : List Char}
    (h : readPort implied chars = .ok port) :
    (∀ c ∈ chars, c.isDigit = true) ∨ ∃ digits stop rest, chars = digits ++ stop :: rest ∧
      (∀ c ∈ digits, c.isDigit = true) ∧ endsAuthority true stop = true := by
  rcases Text.all_or_first Char.isDigit chars with
    hall | ⟨digits, stop, rest, rfl, hdigits, hstop⟩
  · exact Or.inl hall
  · right
    refine ⟨digits, stop, rest, rfl, hdigits, ?_⟩
    rw [readPort, Text.takeWhile_append_cons hdigits hstop, List.drop_left] at h
    dsimp only at h
    -- what stands behind the digits is refused unless it ends the part
    split at h
    · cases h
    · split at h
      · assumption
      · cases h

theorem not_isStray_of_isDigit {c : Char} (h : c.isDigit = true) : isStray c.toNat = false := by
  simp only [Char.isDigit, Bool.and_eq_true, decide_eq_true_eq] at h
  rw [Bool.eq_false_iff, Ne, isStray_iff]
  have hlow : 48 ≤ c.toNat := UInt32.le_iff_toNat_le.mp h.1
  have hhigh : c.toNat ≤ 57 := UInt32.le_iff_toNat_le.mp h.2
  omega

/-- What a scheme with rules of its own takes for host and port is something without strays. -/
theorem not_isStray_of_readHostPort {scheme part : List Char} {named : Bool} {url : Url}
    (hpart : ∀ c ∈ part, endsAuthority true c = false)
    (h : readHostPort scheme true named part = .ok url) :
    part ≠ [] ∧ ∀ c ∈ part, isStray c.toNat = false := by
  rw [readHostPort, Outcome.bind_eq_ok_iff] at h
  rcases h with ⟨host, hhost, h⟩
  rcases takeHost_starts true false part with ⟨behind, hbehind⟩
  rw [readHost, if_pos rfl] at hhost
  split at hhost
  · cases hhost
  · rename_i hnonempty
    refine ⟨?_, ?_⟩
    · rintro rfl
      exact hnonempty rfl
    · intro c hc
      have hdrop : part.drop (takeHost true false part).length = behind := by
        nth_rewrite 2 [← hbehind]
        rw [List.drop_left]
      rw [← hbehind] at hc
      rcases List.mem_append.mp hc with hc | hc
      · exact not_isStray_of_parse hhost hc
      · cases behind with
        | nil => cases hc
        | cons first rest =>
          -- only a colon can stand here, with a port behind it
          have hfirst : endsAuthority true first = false := by
            apply hpart
            rw [← hbehind]
            simp
          rcases takeHost_stops hbehind rfl with hends | rfl
          · rw [hfirst] at hends
            cases hends
          · rw [hdrop, readBehindHost] at h
            split at h
            · cases h
            · rcases Outcome.map_eq_ok_iff.mp h with ⟨port, hport, -⟩
              have hrest : ∀ c ∈ rest, endsAuthority true c = false := by
                intro d hd
                apply hpart
                rw [← hbehind]
                simp [hd]
              rcases List.mem_cons.mp hc with rfl | hc
              · decide
              · rcases readPort_eq_ok hport with hall | ⟨digits, stop, more, rfl, -, hstop⟩
                · exact not_isStray_of_isDigit (hall c hc)
                · rw [hrest stop (by simp)] at hstop
                  cases hstop

end Url
end Possession

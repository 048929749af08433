import Possession.Proofs.Json.Skipping

/-!
# Records have an end

A reader leaves over a part of what it is given, so an octet that a text does not have at all is
nowhere on its way. What is read as a record ends with a bracket; so a text without a closing
bracket is no record, however it goes.

The only closing bracket of a written record is its last octet, unless a name or a value has one.
-/

namespace Possession
namespace Json

variable {bytes rest : Bytes}

/-! ## What is left over -/

theorem skipBlanks_subset (bytes : Bytes) : skipBlanks bytes ⊆ bytes :=
  (List.dropWhile_sublist _).subset

/-- What is left over of what stands behind an octet, and blanks before it. -/
theorem subset_of_skipBlanks {byte : UInt8} {behind : Bytes}
    (hblanks : skipBlanks bytes = byte :: behind) (h : rest ⊆ behind) : rest ⊆ bytes :=
  List.Subset.trans (List.subset_cons_of_subset byte h) (hblanks ▸ skipBlanks_subset bytes)

theorem subset_of_append {front : Bytes} (h : bytes = front ++ rest) : rest ⊆ bytes :=
  h ▸ List.subset_append_right front rest

theorem readText_subset {text : String} (h : readText bytes = .ok (text, rest)) : rest ⊆ bytes := by
  rcases readText_eq_ok_iff.mp h with ⟨body, -, hbytes⟩
  exact subset_of_append (hbytes.trans (List.append_cons body 34 rest))

theorem skipColon_subset (h : skipColon bytes = .ok rest) : rest ⊆ bytes := by
  rcases exists_colon h with ⟨gap, -, hbytes⟩
  exact subset_of_append (hbytes.trans (List.append_cons gap 58 rest))

theorem skipOne_subset (h : skipOne bytes = .ok rest) : rest ⊆ bytes := by
  rcases exists_of_skipOne h with ⟨_, front, -, hbytes⟩
  exact subset_of_append hbytes

/-- A reader leaves over a part of what it is given. -/
def LeavesPart (reader : Reader) : Prop :=
  ∀ {bytes rest : Bytes} {value : Value}, reader bytes = .ok (value, rest) → rest ⊆ bytes

theorem leavesPart_textThat (expected : String) (refuse : String → Option String) :
    LeavesPart (readTextThat expected refuse) := by
  intro bytes rest value h
  rw [readTextThat] at h
  split at h
  · next hblanks =>
    simp only [Outcome.bind_eq_ok_iff] at h
    rcases h with ⟨⟨text, behind⟩, htext, h⟩
    split at h
    · cases h
      exact subset_of_skipBlanks hblanks (readText_subset htext)
    · cases h
  · cases h

/-! ## Closing brackets -/

theorem itemAhead_subset {first more : Bool} (h : itemAhead first bytes = .ok (more, rest)) :
    rest ⊆ bytes := by
  rw [itemAhead] at h
  split at h
  · cases h
  · next hblanks =>
    cases h
    exact hblanks ▸ skipBlanks_subset bytes
  · next hblanks =>
    split at h
    · cases h
      exact hblanks ▸ skipBlanks_subset bytes
    · split at h
      · split at h
        · cases h
        · cases h
        · cases h
          exact subset_of_skipBlanks hblanks (skipBlanks_subset _)
      · cases h

/-- There is a further member, or a closing brace. -/
theorem memberAhead_subset {first more : Bool} (h : memberAhead first bytes = .ok (more, rest)) :
    rest ⊆ bytes ∧ (more = false → 125 ∈ bytes) := by
  rw [memberAhead] at h
  split at h
  · cases h
  · next hblanks =>
    cases h
    refine ⟨subset_of_skipBlanks hblanks (List.Subset.refl _), fun _ => ?_⟩
    exact skipBlanks_subset bytes (hblanks ▸ List.mem_cons_self)
  · next hblanks =>
    split at h
    · split at h
      · cases h
        refine ⟨subset_of_skipBlanks hblanks (List.Subset.refl _), fun hlast => ?_⟩
        exact absurd hlast (by decide)
      · cases h
    · split at h
      · split at h
        · cases h
        · next hinner =>
          cases h
          refine ⟨subset_of_skipBlanks hblanks ?_, fun hlast => absurd hlast (by decide)⟩
          exact subset_of_skipBlanks hinner (List.Subset.refl _)
        · cases h
        · cases h
      · cases h

theorem mem_of_endList (h : endList bytes = .ok rest) : 93 ∈ bytes := by
  rw [endList] at h
  split at h
  · cases h
  · next hblanks => exact skipBlanks_subset bytes (hblanks ▸ List.mem_cons_self)
  · split at h
    · cases h
    · cases h
  · cases h

section Records

variable {members : List Member} (hreaders : ∀ member ∈ members, LeavesPart member.read)
include hreaders

theorem readItems_subset {expected : String} {index : Nat} {values : List Value}
    (h : readItems expected index members bytes = .ok (values, rest)) : rest ⊆ bytes := by
  induction members generalizing index bytes values with
  | nil =>
    cases h
    exact List.Subset.refl _
  | cons member members ih =>
    have hothers (other : Member) (hother : other ∈ members) : LeavesPart other.read :=
      hreaders other (List.mem_cons_of_mem member hother)
    simp only [readItems, Outcome.bind_eq_ok_iff] at h
    rcases h with ⟨⟨more, ahead⟩, hahead, h⟩
    refine List.Subset.trans ?_ (itemAhead_subset hahead)
    cases more with
    | true =>
      simp only [if_true, Outcome.bind_eq_ok_iff] at h
      rcases h with ⟨⟨value, behind⟩, hread, ⟨others, last⟩, hrest, h⟩
      cases h
      exact List.Subset.trans (ih hothers hrest) (hreaders member List.mem_cons_self hread)
    | false =>
      simp only [Bool.false_eq_true, if_false] at h
      split at h
      · simp only [Outcome.bind_eq_ok_iff] at h
        rcases h with ⟨⟨others, last⟩, hrest, h⟩
        cases h
        exact ih hothers hrest
      · cases h

/-- The members of a record are read up to a closing brace. -/
theorem mem_of_readMembers {fuel : Nat} {first : Bool} {slots filled : Slots}
    (h : readMembers members fuel first slots bytes = .ok (filled, rest)) : 125 ∈ bytes := by
  induction fuel generalizing first slots bytes with
  | zero => cases h
  | succ fuel ih =>
    simp only [readMembers, Outcome.bind_eq_ok_iff] at h
    rcases h with ⟨⟨more, ahead⟩, hahead, h⟩
    rcases memberAhead_subset hahead with ⟨hsubset, hend⟩
    cases more with
    | false => exact hend rfl
    | true =>
      simp only [Bool.not_true, Bool.false_eq_true, if_false, Outcome.bind_eq_ok_iff] at h
      rcases h with ⟨⟨name, behind⟩, hname, h⟩
      refine hsubset (readText_subset hname ?_)
      split at h
      · simp only [Outcome.bind_eq_ok_iff] at h
        rcases h with ⟨colon, hcolon, last, hskipped, h⟩
        exact skipColon_subset hcolon (skipOne_subset hskipped (ih h))
      · split at h
        · cases h
        · simp only [Outcome.bind_eq_ok_iff] at h
          rcases h with ⟨colon, hcolon, h⟩
          split at h
          · cases h
          · next member hmember =>
            simp only [Outcome.bind_eq_ok_iff] at h
            rcases h with ⟨⟨value, last⟩, hread, h⟩
            have hpart : LeavesPart member.read := hreaders member (List.mem_of_getElem? hmember)
            exact skipColon_subset hcolon (hpart hread (ih h))

end Records

/-- Whatever is read as a record has a closing bracket. -/
theorem mem_of_readWholeText {shape : Shape}
    (hreaders : ∀ member ∈ shape.members, LeavesPart member.read) {value : Value}
    (h : readWholeText shape.read bytes = .ok value) : 93 ∈ bytes ∨ 125 ∈ bytes := by
  simp only [readWholeText, Outcome.bind_eq_ok_iff] at h
  rcases h with ⟨⟨found, rest⟩, hread, -⟩
  rw [Shape.read] at hread
  split at hread
  · next hblanks =>
    simp only [Outcome.bind_eq_ok_iff] at hread
    rcases hread with ⟨⟨values, behind⟩, hitems, last, hend, -⟩
    have hsubset := subset_of_skipBlanks hblanks (readItems_subset hreaders hitems)
    exact .inl (hsubset (mem_of_endList hend))
  · next hblanks =>
    simp only [Outcome.bind_eq_ok_iff] at hread
    rcases hread with ⟨⟨slots, behind⟩, hmembers, -⟩
    have hsubset := subset_of_skipBlanks hblanks (List.Subset.refl _)
    exact .inr (hsubset (mem_of_readMembers hreaders hmembers))
  · cases hread

/-! ## Octets without closing brackets -/

/-- Whether octets have no closing bracket. -/
def IsUnclosed (bytes : Bytes) : Prop :=
  93 ∉ bytes ∧ 125 ∉ bytes

variable {front back : Bytes}

theorem IsUnclosed.of_subset (h : IsUnclosed bytes) (hsubset : front ⊆ bytes) :
    IsUnclosed front :=
  ⟨fun hmem => h.1 (hsubset hmem), fun hmem => h.2 (hsubset hmem)⟩

theorem isUnclosed_append : IsUnclosed (front ++ back) ↔ IsUnclosed front ∧ IsUnclosed back := by
  simp only [IsUnclosed, List.mem_append, not_or]
  exact and_and_and_comm

theorem isUnclosed_cons {byte : UInt8} :
    IsUnclosed (byte :: bytes) ↔ (byte ≠ 93 ∧ byte ≠ 125) ∧ IsUnclosed bytes := by
  simp only [IsUnclosed, List.mem_cons, not_or, ne_comm]
  exact and_and_and_comm

theorem isUnclosed_escape : ∀ code < 128, NeedsEscape (Char.ofNat code) →
    IsUnclosed (Utf8.encodeChars (writeChar (Char.ofNat code))) := by
  -- a table of the ASCII characters, of which 34 need an escape
  unfold NeedsEscape IsUnclosed
  decide

/-- What stands for a character has a closing bracket only if the character is one. -/
theorem isUnclosed_writeChar {c : Char} (hlist : c ≠ ']') (hrecord : c ≠ '\x7d') :
    IsUnclosed (Utf8.encodeChars (writeChar c)) := by
  by_cases hascii : c.toNat < 128
  · by_cases hescape : NeedsEscape c
    · have hwritten := isUnclosed_escape c.toNat hascii
      rw [Char.ofNat_toNat] at hwritten
      exact hwritten hescape
    · have hback : Char.ofNat (UInt8.ofNat c.toNat).toNat = c := by
        rw [Bytes.toNat_octet (by omega), Char.ofNat_toNat]
      rw [writeChar_plain hescape, Utf8.encodeChars_cons, Utf8.encodeChars_nil, List.append_nil,
        Utf8.utf8EncodeChar_ascii hascii, IsUnclosed, List.mem_singleton, List.mem_singleton]
      refine ⟨fun heq => hlist ?_, fun heq => hrecord ?_⟩
      · rw [← hback, ← heq]
        rfl
      · rw [← hback, ← heq]
        rfl
  · have hplain : ¬ NeedsEscape c := by
      rintro (hcontrol | rfl | rfl)
      · omega
      · exact hascii (by decide)
      · exact hascii (by decide)
    rw [writeChar_plain hplain, Utf8.encodeChars_cons, Utf8.encodeChars_nil, List.append_nil]
    refine ⟨fun hmem => ?_, fun hmem => ?_⟩
    · exact absurd (Utf8.le_of_mem_utf8EncodeChar (by omega) hmem) (by decide)
    · exact absurd (Utf8.le_of_mem_utf8EncodeChar (by omega) hmem) (by decide)

theorem isUnclosed_writeText {text : String} (hlist : ']' ∉ text.toList)
    (hrecord : '\x7d' ∉ text.toList) : IsUnclosed (Utf8.encode (writeText text)) := by
  have hchars (chars : List Char) (hlist : ']' ∉ chars) (hrecord : '\x7d' ∉ chars) :
      IsUnclosed (Utf8.encodeChars (chars.flatMap writeChar)) := by
    induction chars with
    | nil => exact ⟨List.not_mem_nil, List.not_mem_nil⟩
    | cons c chars ih =>
      rw [List.mem_cons, not_or] at hlist hrecord
      rw [List.flatMap_cons, Utf8.encodeChars_append, isUnclosed_append]
      exact ⟨isUnclosed_writeChar (Ne.symm hlist.1) (Ne.symm hrecord.1), ih hlist.2 hrecord.2⟩
  have hquote : IsUnclosed [34] := by
    unfold IsUnclosed
    decide
  rw [encode_writeText, isUnclosed_append, isUnclosed_cons]
  exact ⟨⟨by decide, hchars text.toList hlist hrecord⟩, hquote⟩

/-- The only closing bracket of a record of such members is its last octet. -/
theorem exists_front_of_writeRecord {members : List (String × String)}
    (h : ∀ member ∈ members, IsUnclosed (Utf8.encode (writeText member.1)) ∧
      IsUnclosed (Utf8.encode member.2)) :
    ∃ front, Utf8.encode (writeRecord members) = front ++ [125] ∧ IsUnclosed front := by
  suffices hmembers : ∀ first, ∃ front, memberOctets first members = front ++ [125] ∧
      IsUnclosed front by
    rcases hmembers true with ⟨front, hfront, hunclosed⟩
    refine ⟨123 :: front, ?_, isUnclosed_cons.mpr ⟨by decide, hunclosed⟩⟩
    rw [encode_writeRecord, hfront, List.cons_append]
  induction members with
  | nil => exact fun first => ⟨[], rfl, List.not_mem_nil, List.not_mem_nil⟩
  | cons member members ih =>
    intro first
    rcases h member List.mem_cons_self with ⟨hname, hvalue⟩
    rcases ih (fun other hother => h other (List.mem_cons_of_mem _ hother)) false with
      ⟨back, hback, hunclosed⟩
    have hmark : IsUnclosed (if first then [] else [44]) := by
      unfold IsUnclosed
      cases first <;> decide
    refine ⟨(if first then [] else [44]) ++ Utf8.encode (writeText member.1) ++
      58 :: Utf8.encode member.2 ++ back, ?_, ?_⟩
    · simp only [memberOctets, hback, List.append_assoc, List.cons_append]
    · rw [isUnclosed_append, isUnclosed_append, isUnclosed_append, isUnclosed_cons]
      exact ⟨⟨⟨hmark, hname⟩, by decide, hvalue⟩, hunclosed⟩

end Json
end Possession

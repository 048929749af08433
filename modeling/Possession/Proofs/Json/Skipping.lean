import Possession.Proofs.Json.Lexeme
import Possession.Proofs.Json.Record
import Mathlib.Data.List.DropRight

/-!
# Values are skipped as the grammar has them

Whatever is skipped is written as some value, and whatever is written as a value is skipped. The
fuel is enough: a value takes at most two units for each of its octets.
-/

namespace Possession
namespace Json

variable {bytes rest behind gap : Bytes}

/-! ## Where values begin and end -/

/-- Whether an octet may be the first one of a value or of a member, behind blanks. -/
def Opens (byte : UInt8) : Prop :=
  isBlank byte = false ∧ byte ≠ 93 ∧ byte ≠ 125

instance : DecidablePred Opens :=
  fun byte => inferInstanceAs (Decidable (isBlank byte = false ∧ byte ≠ 93 ∧ byte ≠ 125))

/-- A number begins with a sign or a digit. -/
theorem Numeral.exists_first {numeral : Bytes} (h : Numeral numeral) :
    ∃ first more, numeral = first :: more ∧ (first = 45 ∨ isDigit first = true) := by
  rcases h with ⟨hsign, hwhole, -, -⟩
  rcases hsign with rfl | rfl
  · obtain ⟨digit, digits, rfl⟩ := List.exists_cons_of_ne_nil hwhole.1.1
    exact ⟨digit, _, rfl, .inr (hwhole.1.2 digit List.mem_cons_self)⟩
  · exact ⟨45, _, rfl, .inl rfl⟩

theorem opens_of_number {first : UInt8} (h : first = 45 ∨ isDigit first = true) : Opens first := by
  rcases h with rfl | hdigit
  · decide
  · refine ⟨isBlank_of_isDigit hdigit, ?_, ?_⟩
    · rintro rfl
      exact absurd hdigit (by decide)
    · rintro rfl
      exact absurd hdigit (by decide)

theorem skipBlanks_gap (h : Blanks gap) {byte : UInt8} (hbyte : isBlank byte = false)
    (rest : Bytes) : skipBlanks (gap ++ byte :: rest) = byte :: rest := by
  rw [skipBlanks_append h, skipBlanks_cons hbyte]

/-- A value begins with its first octet: no blanks are before it. -/
theorem Writes.exists_cons {tree : Tree} (h : Writes (.value tree) bytes) :
    ∃ first more, bytes = first :: more ∧ Opens first := by
  cases h with
  | number hnumeral =>
    rcases hnumeral.exists_first with ⟨first, more, hbytes, hfirst⟩
    exact ⟨first, more, hbytes, opens_of_number hfirst⟩
  | _ => exact ⟨_, _, rfl, by decide⟩

theorem Writes.skipBlanks_eq {tree : Tree} (h : Writes (.value tree) bytes) (rest : Bytes) :
    skipBlanks (bytes ++ rest) = bytes ++ rest := by
  rcases h.exists_cons with ⟨first, more, rfl, hfirst⟩
  exact skipBlanks_cons hfirst.1 _

/-- Whether octets begin, behind blanks, with one that is no blank and closes nothing. -/
def BeginsOpen (bytes : Bytes) : Prop :=
  ∃ first, Opens first ∧ ∀ rest, ∃ more, skipBlanks (bytes ++ rest) = first :: more

theorem BeginsOpen.append {front : Bytes} (h : BeginsOpen front) (back : Bytes) :
    BeginsOpen (front ++ back) := by
  rcases h with ⟨first, hfirst, hmore⟩
  refine ⟨first, hfirst, ?_⟩
  intro rest
  rw [List.append_assoc]
  exact hmore _

theorem beginsOpen_of_gap (hgap : Blanks gap) {first : UInt8} (hfirst : Opens first)
    (more : Bytes) : BeginsOpen (gap ++ first :: more) := by
  refine ⟨first, hfirst, ?_⟩
  intro rest
  refine ⟨more ++ rest, ?_⟩
  rw [List.append_assoc, List.cons_append, skipBlanks_gap hgap hfirst.1]

theorem Writes.beginsOpen {part : Part} (h : Writes part bytes) : BeginsOpen bytes := by
  have hvalue {tree : Tree} {bytes : Bytes} (h : Writes (.value tree) bytes) :
      BeginsOpen bytes := by
    rcases h.exists_cons with ⟨first, more, rfl, hfirst⟩
    exact beginsOpen_of_gap .nil hfirst more
  have helement {tree : Tree} {bytes : Bytes} (h : Writes (.element tree) bytes) :
      BeginsOpen bytes := by
    cases h with
    | element hfront htree =>
      rcases htree.exists_cons with ⟨first, more, rfl, hfirst⟩
      exact beginsOpen_of_gap hfront hfirst _
  have hmember {name : Bytes} {tree : Tree} {bytes : Bytes}
      (h : Writes (.member name tree) bytes) : BeginsOpen bytes := by
    cases h with
    | member hfront => exact beginsOpen_of_gap hfront (by decide) _
  cases part with
  | value tree => exact hvalue h
  | element tree => exact helement h
  | elements trees =>
    cases h with
    | lastElement h => exact helement h
    | moreElements h => exact (helement h).append _
  | member name tree => exact hmember h
  | members members =>
    cases h with
    | lastMember h => exact hmember h
    | moreMembers h => exact (hmember h).append _

theorem endsNumber_gap (hgap : Blanks gap) (h : EndsNumber rest) : EndsNumber (gap ++ rest) := by
  cases gap with
  | nil => exact h
  | cons blank gap =>
    have hblank : isBlank blank = true := hgap blank List.mem_cons_self
    intro byte hbyte
    cases hbyte
    refine ⟨?_, ?_, ?_, ?_⟩
    · apply Bool.eq_false_of_not_eq_true
      intro hdigit
      exact absurd (hblank.symm.trans (isBlank_of_isDigit hdigit)) (by decide)
    · rintro rfl
      exact absurd hblank (by decide)
    · rintro rfl
      exact absurd hblank (by decide)
    · rintro rfl
      exact absurd hblank (by decide)

theorem endsNumber_blanks (hgap : Blanks gap) : EndsNumber gap := by
  have hnil : EndsNumber [] := by
    intro byte hbyte
    cases hbyte
  have hend := endsNumber_gap hgap hnil
  rwa [List.append_nil] at hend

/-! ## Blanks around -/

theorem Writes.element_front (hgap : Blanks gap) {tree : Tree} (h : Writes (.element tree) bytes) :
    Writes (.element tree) (gap ++ bytes) := by
  cases h with
  | element hfront hvalue hback =>
    rw [← List.append_assoc]
    exact .element (hgap.append hfront) hvalue hback

theorem Writes.element_back (hgap : Blanks gap) {tree : Tree} (h : Writes (.element tree) bytes) :
    Writes (.element tree) (bytes ++ gap) := by
  cases h with
  | element hfront hvalue hback =>
    rw [List.append_assoc, List.append_assoc]
    exact .element hfront hvalue (hback.append hgap)

theorem Writes.elements_front (hgap : Blanks gap) {trees : List Tree}
    (h : Writes (.elements trees) bytes) : Writes (.elements trees) (gap ++ bytes) := by
  cases h with
  | lastElement helement => exact .lastElement (helement.element_front hgap)
  | moreElements helement hmore =>
    rw [← List.append_assoc]
    exact .moreElements (helement.element_front hgap) hmore

theorem Writes.member_front (hgap : Blanks gap) {name : Bytes} {tree : Tree}
    (h : Writes (.member name tree) bytes) : Writes (.member name tree) (gap ++ bytes) := by
  cases h with
  | member hfront hname hback helement =>
    rw [← List.append_assoc]
    exact .member (hgap.append hfront) hname hback helement

theorem Writes.members_front (hgap : Blanks gap) {members : List (Bytes × Tree)}
    (h : Writes (.members members) bytes) : Writes (.members members) (gap ++ bytes) := by
  cases h with
  | lastMember hmember => exact .lastMember (hmember.member_front hgap)
  | moreMembers hmember hmore =>
    rw [← List.append_assoc]
    exact .moreMembers (hmember.member_front hgap) hmore

/-! ## What is skipped is written -/

/-- Whether what is passed over is written in some way. -/
def Passes (skip : Bytes → Except Error Bytes) (Written : Bytes → Prop) : Prop :=
  ∀ {bytes rest : Bytes}, skip bytes = .ok rest → ∃ front, Written front ∧ bytes = front ++ rest

/-- A value with blanks around it. -/
def IsElement (bytes : Bytes) : Prop :=
  ∃ tree, Writes (.element tree) bytes

/-- The items of a list, with its end. -/
def IsListTail (bytes : Bytes) : Prop :=
  ∃ items front, Writes (.elements items) front ∧ bytes = front ++ [93]

/-- The members of an object, with its end. -/
def IsObjectTail (bytes : Bytes) : Prop :=
  ∃ members front, Writes (.members members) front ∧ bytes = front ++ [125]

/-- Blanks and an octet that is none are at the front. -/
theorem exists_gap {byte : UInt8} (h : skipBlanks bytes = byte :: rest) :
    ∃ gap, Blanks gap ∧ bytes = gap ++ byte :: rest := by
  rcases exists_blanks bytes with ⟨gap, hgap, hbytes⟩
  exact ⟨gap, hgap, h ▸ hbytes⟩

theorem exists_colon (h : skipColon bytes = .ok rest) :
    ∃ gap, Blanks gap ∧ bytes = gap ++ 58 :: rest := by
  rw [skipColon] at h
  split at h
  · next hblanks =>
    cases h
    exact exists_gap hblanks
  · cases h
  · cases h

theorem IsListTail.front (hgap : Blanks gap) (h : IsListTail bytes) :
    IsListTail (gap ++ bytes) := by
  rcases h with ⟨items, front, hwrites, rfl⟩
  exact ⟨items, gap ++ front, hwrites.elements_front hgap, (List.append_assoc _ _ _).symm⟩

theorem IsObjectTail.front (hgap : Blanks gap) (h : IsObjectTail bytes) :
    IsObjectTail (gap ++ bytes) := by
  rcases h with ⟨members, front, hwrites, rfl⟩
  exact ⟨members, gap ++ front, hwrites.members_front hgap, (List.append_assoc _ _ _).symm⟩

/-- Blanks and a value are at the front. -/
theorem exists_front {tree : Tree} {text : Bytes} (h : Writes (.value tree) text)
    (hblanks : skipBlanks bytes = text ++ rest) :
    ∃ front, Writes (.element tree) front ∧ bytes = front ++ rest := by
  rcases exists_blanks bytes with ⟨gap, hgap, hbytes⟩
  refine ⟨gap ++ (text ++ []), .element hgap h .nil, ?_⟩
  rw [hbytes, hblanks, List.append_nil, List.append_assoc]

/-- A value behind blanks, from its first octet on. -/
theorem exists_element {first : UInt8} (hblanks : skipBlanks bytes = first :: behind)
    (h : ∃ tree more, Writes (.value tree) (first :: more) ∧ behind = more ++ rest) :
    ∃ front, IsElement front ∧ bytes = front ++ rest := by
  rcases h with ⟨tree, more, hwrites, rfl⟩
  rcases exists_front hwrites hblanks with ⟨front, helement, hbytes⟩
  exact ⟨front, ⟨tree, helement⟩, hbytes⟩

/-- Behind a bracket there are blanks and the end of the list, or the items. -/
theorem exists_list_of_end (hclose : skipBlanks behind = 93 :: rest) :
    ∃ tree more, Writes (.value tree) (91 :: more) ∧ behind = more ++ rest := by
  rcases exists_gap hclose with ⟨gap, hgap, rfl⟩
  exact ⟨_, _, .emptyList hgap, List.append_cons _ _ _⟩

theorem exists_list_of_items {fuel : Nat} (hitems : Passes (skipItems fuel) IsListTail)
    (h : skipItems fuel (skipBlanks behind) = .ok rest) :
    ∃ tree more, Writes (.value tree) (91 :: more) ∧ behind = more ++ rest := by
  rcases exists_blanks behind with ⟨gap, hgap, hbehind⟩
  rcases hitems h with ⟨front, htail, hfront⟩
  rcases htail.front hgap with ⟨items, inner, hwrites, hinner⟩
  refine ⟨_, _, .list hwrites, ?_⟩
  rw [hbehind, hfront, ← List.append_assoc, hinner]

/-- And so it is behind a brace. -/
theorem exists_object_of_end (hclose : skipBlanks behind = 125 :: rest) :
    ∃ tree more, Writes (.value tree) (123 :: more) ∧ behind = more ++ rest := by
  rcases exists_gap hclose with ⟨gap, hgap, rfl⟩
  exact ⟨_, _, .emptyObject hgap, List.append_cons _ _ _⟩

theorem exists_object_of_members {fuel : Nat} (hmembers : Passes (skipMembers fuel) IsObjectTail)
    (h : skipMembers fuel (skipBlanks behind) = .ok rest) :
    ∃ tree more, Writes (.value tree) (123 :: more) ∧ behind = more ++ rest := by
  rcases exists_blanks behind with ⟨gap, hgap, hbehind⟩
  rcases hmembers h with ⟨front, htail, hfront⟩
  rcases htail.front hgap with ⟨members, inner, hwrites, hinner⟩
  refine ⟨_, _, .object hwrites, ?_⟩
  rw [hbehind, hfront, ← List.append_assoc, hinner]

theorem passes_skipValue {fuel : Nat} (hitems : Passes (skipItems fuel) IsListTail)
    (hmembers : Passes (skipMembers fuel) IsObjectTail) :
    Passes (skipValue (fuel + 1)) IsElement := by
  intro bytes rest h
  rw [skipValue] at h
  -- the first octet tells the kind of the value
  split at h
  · cases h
  · next hblanks => exact exists_element hblanks ⟨_, _, .null, skipWord_eq_ok_iff.mp h⟩
  · next hblanks => exact exists_element hblanks ⟨_, _, .yes, skipWord_eq_ok_iff.mp h⟩
  · next hblanks => exact exists_element hblanks ⟨_, _, .no, skipWord_eq_ok_iff.mp h⟩
  · next hblanks =>
    rcases exists_magnitude h with ⟨whole, fraction, exponent, hwhole, hfraction, hexponent, rfl⟩
    have hnumeral : Numeral (45 :: (whole ++ (fraction ++ exponent))) :=
      .mk (.inr rfl) hwhole hfraction hexponent
    refine exists_element hblanks ⟨_, _, .number hnumeral, ?_⟩
    rw [List.append_assoc, List.append_assoc]
  · next hblanks =>
    rcases exists_quotable h with ⟨body, hbody, rfl⟩
    exact exists_element hblanks ⟨_, _, .text hbody, List.append_cons _ _ _⟩
  · next hblanks =>
    refine exists_element hblanks ?_
    split at h
    · cases h
    · next hclose =>
      cases h
      exact exists_list_of_end hclose
    · exact exists_list_of_items hitems h
  · next hblanks =>
    refine exists_element hblanks ?_
    split at h
    · cases h
    · next hclose =>
      cases h
      exact exists_object_of_end hclose
    · exact exists_object_of_members hmembers h
  · next hblanks =>
    split at h
    · rcases exists_magnitude h with ⟨whole, fraction, exponent, hwhole, hfraction, hexponent, heq⟩
      obtain ⟨digit, digits, rfl⟩ := List.exists_cons_of_ne_nil hwhole.1.1
      rcases List.cons.inj heq.symm with ⟨rfl, rfl⟩
      have hnumeral : Numeral (digit :: (digits ++ (fraction ++ exponent))) :=
        .mk (.inl rfl) hwhole hfraction hexponent
      refine exists_element hblanks ⟨_, _, .number hnumeral, ?_⟩
      rw [List.append_assoc, List.append_assoc]
      rfl
    · cases h

theorem passes_skipItems {fuel : Nat} (hvalue : Passes (skipValue fuel) IsElement)
    (hitems : Passes (skipItems fuel) IsListTail) :
    Passes (skipItems (fuel + 1)) IsListTail := by
  intro bytes rest h
  simp only [skipItems, Outcome.bind_eq_ok_iff] at h
  rcases h with ⟨behind, hread, h⟩
  rcases hvalue hread with ⟨front, ⟨tree, hwrites⟩, rfl⟩
  -- the blanks behind the item are read with what comes next, and belong to the item
  split at h
  · next hcomma =>
    rcases exists_gap hcomma with ⟨gap, hgap, rfl⟩
    rcases hitems h with ⟨_, ⟨items, tail, hmore, rfl⟩, rfl⟩
    refine ⟨_, ⟨tree :: items, _, .moreElements (hwrites.element_back hgap) hmore, rfl⟩, ?_⟩
    simp only [List.append_assoc, List.cons_append]
  · next hclose =>
    cases h
    rcases exists_gap hclose with ⟨gap, hgap, rfl⟩
    refine ⟨_, ⟨[tree], _, .lastElement (hwrites.element_back hgap), rfl⟩, ?_⟩
    simp only [List.append_assoc, List.cons_append, List.nil_append]
  · cases h
  · cases h

theorem passes_skipMembers {fuel : Nat} (hvalue : Passes (skipValue fuel) IsElement)
    (hmembers : Passes (skipMembers fuel) IsObjectTail) :
    Passes (skipMembers (fuel + 1)) IsObjectTail := by
  intro bytes rest h
  rw [skipMembers] at h
  split at h
  · cases h
  · next hquote =>
    simp only [Outcome.bind_eq_ok_iff] at h
    rcases h with ⟨named, hskip, colon, hcolon, behind, hread, h⟩
    rcases exists_gap hquote with ⟨front, hfront, rfl⟩
    rcases exists_quotable hskip with ⟨name, hname, rfl⟩
    rcases exists_colon hcolon with ⟨back, hback, rfl⟩
    rcases hvalue hread with ⟨value, ⟨tree, hwrites⟩, rfl⟩
    split at h
    · next hcomma =>
      rcases exists_gap hcomma with ⟨gap, hgap, rfl⟩
      rcases hmembers h with ⟨_, ⟨members, tail, hmore, rfl⟩, rfl⟩
      have hmember := Writes.member hfront hname hback (hwrites.element_back hgap)
      refine ⟨_, ⟨(name, tree) :: members, _, .moreMembers hmember hmore, rfl⟩, ?_⟩
      simp only [List.append_assoc, List.cons_append]
    · next hclose =>
      cases h
      rcases exists_gap hclose with ⟨gap, hgap, rfl⟩
      have hmember := Writes.member hfront hname hback (hwrites.element_back hgap)
      refine ⟨_, ⟨[(name, tree)], _, .lastMember hmember, rfl⟩, ?_⟩
      simp only [List.append_assoc, List.cons_append, List.nil_append]
    · cases h
    · cases h
  · cases h

/-- Values, the items of a list and the members of an object call each other with less fuel. -/
theorem passes_skip (fuel : Nat) : Passes (skipValue fuel) IsElement ∧
    Passes (skipItems fuel) IsListTail ∧ Passes (skipMembers fuel) IsObjectTail := by
  induction fuel with
  | zero =>
    refine ⟨?_, ?_, ?_⟩
    · intro bytes rest h
      cases h
    · intro bytes rest h
      cases h
    · intro bytes rest h
      cases h
  | succ fuel ih =>
    rcases ih with ⟨hvalue, hitems, hmembers⟩
    exact ⟨passes_skipValue hitems hmembers, passes_skipItems hvalue hitems,
      passes_skipMembers hvalue hmembers⟩

/-- What is skipped is a value, perhaps with blanks before it. -/
theorem exists_of_skipOne (h : skipOne bytes = .ok rest) :
    ∃ tree front, Writes (.element tree) front ∧ bytes = front ++ rest := by
  rcases (passes_skip _).1 h with ⟨front, ⟨tree, hwrites⟩, heq⟩
  exact ⟨tree, front, hwrites, heq⟩

/-! ## What is written is skipped -/

theorem skipBlanks_skipBlanks (bytes : Bytes) : skipBlanks (skipBlanks bytes) = skipBlanks bytes :=
  List.dropWhile_idempotent _ _

theorem skipValue_skipBlanks (fuel : Nat) (bytes : Bytes) :
    skipValue fuel (skipBlanks bytes) = skipValue fuel bytes := by
  cases fuel with
  | zero => rw [skipValue, skipValue]
  | succ fuel => rw [skipValue, skipValue, skipBlanks_skipBlanks]

theorem skipItems_skipBlanks (fuel : Nat) (bytes : Bytes) :
    skipItems fuel (skipBlanks bytes) = skipItems fuel bytes := by
  cases fuel with
  | zero => rw [skipItems, skipItems]
  | succ fuel => rw [skipItems, skipItems, skipValue_skipBlanks]

theorem skipMembers_skipBlanks (fuel : Nat) (bytes : Bytes) :
    skipMembers fuel (skipBlanks bytes) = skipMembers fuel bytes := by
  cases fuel with
  | zero => rw [skipMembers, skipMembers]
  | succ fuel => rw [skipMembers, skipMembers, skipBlanks_skipBlanks]

theorem skipValue_gap (hgap : Blanks gap) (fuel : Nat) (bytes : Bytes) :
    skipValue fuel (gap ++ bytes) = skipValue fuel bytes := by
  rw [← skipValue_skipBlanks, skipBlanks_append hgap, skipValue_skipBlanks]

theorem skipColon_gap (hgap : Blanks gap) (rest : Bytes) :
    skipColon (gap ++ 58 :: rest) = .ok rest := by
  rw [skipColon, skipBlanks_gap hgap rfl]
  rfl

theorem skipValue_number {numeral : Bytes} (h : Numeral numeral) (hrest : EndsNumber rest)
    (fuel : Nat) : skipValue (fuel + 1) (numeral ++ rest) = .ok rest := by
  rcases h with ⟨hsign, hwhole, hfraction, hexponent⟩
  have hskip := skipMagnitude_append hwhole hfraction hexponent hrest
  rcases hsign with rfl | rfl
  · obtain ⟨digit, digits, rfl⟩ := List.exists_cons_of_ne_nil hwhole.1.1
    have hdigit : isDigit digit = true := hwhole.1.2 digit List.mem_cons_self
    have hother {byte : UInt8} (h : isDigit byte = false) : digit ≠ byte := by
      rintro rfl
      exact absurd hdigit (Bool.eq_false_iff.mp h)
    simp only [List.nil_append, List.cons_append, List.append_assoc] at hskip ⊢
    rw [skipValue, skipBlanks_cons (isBlank_of_isDigit hdigit)]
    -- a digit begins no word, no text, no list and no object
    split
    case h_9 =>
      next heq =>
        cases heq
        rw [if_pos hdigit]
        exact hskip
    case h_1 heq => cases heq
    all_goals
      next heq => exact absurd (List.cons.inj heq).1 (hother (by decide))
  · simp only [List.cons_append, List.nil_append, List.append_assoc]
    rw [skipValue, skipBlanks_cons rfl]
    exact hskip

/-- Whether what is written as a part of a value is skipped, given fuel enough for its octets, if
nothing behind it goes on with it. -/
def IsSkipped : Part → Bytes → Prop
  | .value _, bytes => ∀ fuel rest, 2 * bytes.length ≤ fuel + 1 → EndsNumber rest →
      skipValue (fuel + 1) (bytes ++ rest) = .ok rest
  | .element _, bytes => ∀ fuel rest, 2 * bytes.length ≤ fuel + 1 → EndsNumber rest →
      ∃ gap, Blanks gap ∧ skipValue (fuel + 1) (bytes ++ rest) = .ok (gap ++ rest)
  | .elements _, bytes => ∀ fuel rest, 2 * bytes.length ≤ fuel →
      skipItems (fuel + 1) (bytes ++ 93 :: rest) = .ok rest
  | .member _ _, bytes => ∀ fuel rest, 2 * bytes.length ≤ fuel + 1 → EndsNumber rest →
      ∃ named colon value gap, skipBlanks (bytes ++ rest) = 34 :: named ∧
        skipText named = .ok colon ∧ skipColon colon = .ok value ∧ Blanks gap ∧
        skipValue (fuel + 1) value = .ok (gap ++ rest)
  | .members _, bytes => ∀ fuel rest, 2 * bytes.length ≤ fuel →
      skipMembers (fuel + 1) (bytes ++ 125 :: rest) = .ok rest

/-- Whatever is written has an octet at least. -/
theorem Writes.length_pos {part : Part} (h : Writes part bytes) : 0 < bytes.length := by
  rcases h.beginsOpen with ⟨first, -, hfirst⟩
  rcases hfirst [] with ⟨more, hmore⟩
  cases bytes with
  | nil => cases hmore
  | cons byte bytes => exact Nat.succ_pos _

/-- The items of a list are skipped with one unit of fuel less than the list. -/
theorem skipValue_list {items : List Tree} (h : Writes (.elements items) bytes) (fuel : Nat)
    (rest : Bytes) :
    skipValue (fuel + 1) (91 :: (bytes ++ rest)) = skipItems fuel (bytes ++ rest) := by
  rcases h.beginsOpen with ⟨first, ⟨-, hclose, -⟩, hfirst⟩
  rcases hfirst rest with ⟨more, hmore⟩
  have hinside : skipValue (fuel + 1) (91 :: (bytes ++ rest)) = skipItems fuel (first :: more) := by
    simp only [skipValue, skipBlanks_cons (rfl : isBlank 91 = false), hmore]
    split
    · next heq => cases heq
    · next heq => exact absurd (List.cons.inj heq).1 hclose
    · rfl
  rw [hinside, ← hmore, skipItems_skipBlanks]

/-- And so are the members of an object. -/
theorem skipValue_object {members : List (Bytes × Tree)} (h : Writes (.members members) bytes)
    (fuel : Nat) (rest : Bytes) :
    skipValue (fuel + 1) (123 :: (bytes ++ rest)) = skipMembers fuel (bytes ++ rest) := by
  rcases h.beginsOpen with ⟨first, ⟨-, -, hclose⟩, hfirst⟩
  rcases hfirst rest with ⟨more, hmore⟩
  have hinside : skipValue (fuel + 1) (123 :: (bytes ++ rest)) =
      skipMembers fuel (first :: more) := by
    simp only [skipValue, skipBlanks_cons (rfl : isBlank 123 = false), hmore]
    split
    · next heq => cases heq
    · next heq => exact absurd (List.cons.inj heq).1 hclose
    · rfl
  rw [hinside, ← hmore, skipMembers_skipBlanks]

theorem Writes.isSkipped {part : Part} (h : Writes part bytes) : IsSkipped part bytes := by
  induction h with
  | null =>
    intro fuel rest _ _
    rw [List.cons_append, skipValue, skipBlanks_cons rfl]
    exact skipWord_eq_ok_iff.mpr rfl
  | yes =>
    intro fuel rest _ _
    rw [List.cons_append, skipValue, skipBlanks_cons rfl]
    exact skipWord_eq_ok_iff.mpr rfl
  | no =>
    intro fuel rest _ _
    rw [List.cons_append, skipValue, skipBlanks_cons rfl]
    exact skipWord_eq_ok_iff.mpr rfl
  | number hnumeral =>
    intro fuel rest _ hrest
    exact skipValue_number hnumeral hrest fuel
  | @text body hbody =>
    intro fuel rest _ _
    rw [List.cons_append, skipValue, skipBlanks_cons rfl, ← List.append_cons]
    exact skipText_append hbody rest
  | emptyList hgap =>
    intro fuel rest _ _
    simp only [List.cons_append, ← List.append_cons, skipValue,
      skipBlanks_cons (rfl : isBlank 91 = false), skipBlanks_gap hgap (rfl : isBlank 93 = false)]
  -- The brackets are two octets, of which the inside need not have the fuel.
  | @list items bytes hitems ih =>
    intro fuel rest hfuel _
    rw [List.length_cons, List.length_append] at hfuel
    obtain ⟨fuel, rfl⟩ : ∃ more, fuel = more + 1 := Nat.exists_eq_add_one.mpr (by omega)
    rw [List.cons_append, List.append_assoc, skipValue_list hitems]
    exact ih fuel rest (by omega)
  | emptyObject hgap =>
    intro fuel rest _ _
    simp only [List.cons_append, ← List.append_cons, skipValue,
      skipBlanks_cons (rfl : isBlank 123 = false), skipBlanks_gap hgap (rfl : isBlank 125 = false)]
  | object hmembers ih =>
    intro fuel rest hfuel _
    rw [List.length_cons, List.length_append] at hfuel
    obtain ⟨fuel, rfl⟩ : ∃ more, fuel = more + 1 := Nat.exists_eq_add_one.mpr (by omega)
    rw [List.cons_append, List.append_assoc, skipValue_object hmembers]
    exact ih fuel rest (by omega)
  | @element tree front bytes back hfront hvalue hback ih =>
    intro fuel rest hfuel hrest
    simp only [List.length_append] at hfuel
    have hread := ih fuel (back ++ rest) (by omega) (endsNumber_gap hback hrest)
    refine ⟨back, hback, ?_⟩
    rw [List.append_assoc, List.append_assoc, skipValue_gap hfront]
    exact hread
  | lastElement helement ih =>
    intro fuel rest hfuel
    have hpos := helement.length_pos
    obtain ⟨fuel, rfl⟩ : ∃ more, fuel = more + 1 := Nat.exists_eq_add_one.mpr (by omega)
    rcases ih fuel (93 :: rest) hfuel (endsNumber_cons (.inr (.inl rfl)) rest) with
      ⟨gap, hgap, hread⟩
    rw [skipItems, hread, Outcome.ok_bind, skipBlanks_gap hgap rfl]
    rfl
  -- The comma has fuel of its own, which is what the step from item to item takes.
  | @moreElements tree trees bytes more helement hmore ih ihmore =>
    intro fuel rest hfuel
    have hpos := helement.length_pos
    rw [List.length_append, List.length_cons] at hfuel
    obtain ⟨fuel, rfl⟩ : ∃ more, fuel = more + 1 := Nat.exists_eq_add_one.mpr (by omega)
    rcases ih fuel (44 :: (more ++ 93 :: rest)) (by omega) (endsNumber_cons (.inl rfl) _) with
      ⟨gap, hgap, hread⟩
    rw [List.append_assoc, List.cons_append, skipItems, hread, Outcome.ok_bind,
      skipBlanks_gap hgap rfl]
    exact ihmore fuel rest (by omega)
  | @member name tree front back bytes hfront hname hback helement ih =>
    intro fuel rest hfuel hrest
    simp only [List.length_append, List.length_cons] at hfuel
    rcases ih fuel rest (by omega) hrest with ⟨gap, hgap, hread⟩
    -- what is left behind the quote, behind the name, and behind the colon
    refine ⟨name ++ 34 :: (back ++ 58 :: (bytes ++ rest)), back ++ 58 :: (bytes ++ rest),
      bytes ++ rest, gap, ?_, skipText_append hname _, skipColon_gap hback _, hgap, hread⟩
    simp only [List.append_assoc, List.cons_append]
    exact skipBlanks_gap hfront rfl _
  | lastMember hmember ih =>
    intro fuel rest hfuel
    have hpos := hmember.length_pos
    obtain ⟨fuel, rfl⟩ : ∃ more, fuel = more + 1 := Nat.exists_eq_add_one.mpr (by omega)
    rcases ih fuel (125 :: rest) hfuel (endsNumber_cons (.inr (.inr rfl)) rest) with
      ⟨named, colon, value, gap, hquote, hname, hcolon, hgap, hread⟩
    rw [skipMembers, hquote]
    simp only [hname, hcolon, hread, Outcome.ok_bind,
      skipBlanks_gap hgap (rfl : isBlank 125 = false)]
    rfl
  | @moreMembers name tree members bytes more hmember hmore ih ihmore =>
    intro fuel rest hfuel
    have hpos := hmember.length_pos
    rw [List.length_append, List.length_cons] at hfuel
    obtain ⟨fuel, rfl⟩ : ∃ more, fuel = more + 1 := Nat.exists_eq_add_one.mpr (by omega)
    rcases ih fuel (44 :: (more ++ 125 :: rest)) (by omega) (endsNumber_cons (.inl rfl) _) with
      ⟨named, colon, value, gap, hquote, hname, hcolon, hgap, hread⟩
    rw [List.append_assoc, List.cons_append, skipMembers, hquote]
    simp only [hname, hcolon, hread, Outcome.ok_bind,
      skipBlanks_gap hgap (rfl : isBlank 44 = false)]
    exact ihmore fuel rest (by omega)

/-- A value is skipped up to the blanks behind it. -/
theorem skipOne_append {tree : Tree} (h : Writes (.element tree) bytes) (hrest : EndsNumber rest) :
    ∃ gap, Blanks gap ∧ skipOne (bytes ++ rest) = .ok (gap ++ rest) := by
  refine h.isSkipped _ rest ?_ hrest
  rw [List.length_append]
  omega

end Json
end Possession

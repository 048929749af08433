import Possession.Proofs.Json.Skipping

/-!
# Octets are written as one value only

The first octet of a value tells its kind, and what is skipped tells where each of its parts ends.
So the same octets are never written as two values: a list has one row of items, and an object one
row of members.
-/

namespace Possession
namespace Json

variable {bytes bytes' rest rest' gap : Bytes} {tree other : Tree}

/-! ## Where parts begin -/

theorem Numeral.first {first : UInt8} {more : Bytes} (h : Numeral (first :: more)) :
    first = 45 ∨ isDigit first = true := by
  rcases h.exists_first with ⟨_, _, heq, hfirst⟩
  cases heq
  exact hfirst

/-- No value but `null` begins with its first letter. -/
theorem Writes.eq_null {more : Bytes} (h : Writes (.value tree) (110 :: more)) : tree = .null := by
  cases h with
  | null => rfl
  | number hnumeral => exact absurd hnumeral.first (by decide)

theorem Writes.eq_yes {more : Bytes} (h : Writes (.value tree) (116 :: more)) :
    tree = .flag true := by
  cases h with
  | yes => rfl
  | number hnumeral => exact absurd hnumeral.first (by decide)

theorem Writes.eq_no {more : Bytes} (h : Writes (.value tree) (102 :: more)) :
    tree = .flag false := by
  cases h with
  | no => rfl
  | number hnumeral => exact absurd hnumeral.first (by decide)

theorem Writes.eq_number (h : Writes (.value tree) bytes) (hnumeral : Numeral bytes) :
    tree = .number bytes := by
  cases h with
  | number => rfl
  | _ => exact absurd hnumeral.first (by decide)

theorem Writes.of_quote {more : Bytes} (h : Writes (.value tree) (34 :: more)) :
    ∃ body, tree = .text body ∧ more = body ++ [34] := by
  cases h with
  | number hnumeral => exact absurd hnumeral.first (by decide)
  | text => exact ⟨_, rfl, rfl⟩

theorem Writes.of_bracket {more : Bytes} (h : Writes (.value tree) (91 :: more)) :
    (tree = .list [] ∧ ∃ gap, Blanks gap ∧ more = gap ++ [93]) ∨
      ∃ items inside, tree = .list items ∧ Writes (.elements items) inside ∧
        more = inside ++ [93] := by
  cases h with
  | number hnumeral => exact absurd hnumeral.first (by decide)
  | emptyList hgap => exact .inl ⟨rfl, _, hgap, rfl⟩
  | list hitems => exact .inr ⟨_, _, rfl, hitems, rfl⟩

theorem Writes.of_brace {more : Bytes} (h : Writes (.value tree) (123 :: more)) :
    (tree = .object [] ∧ ∃ gap, Blanks gap ∧ more = gap ++ [125]) ∨
      ∃ members inside, tree = .object members ∧ Writes (.members members) inside ∧
        more = inside ++ [125] := by
  cases h with
  | number hnumeral => exact absurd hnumeral.first (by decide)
  | emptyObject hgap => exact .inl ⟨rfl, _, hgap, rfl⟩
  | object hmembers => exact .inr ⟨_, _, rfl, hmembers, rfl⟩

/-- Nothing is written with blanks alone. -/
theorem Writes.not_blanks {part : Part} (h : Writes part bytes) : ¬ Blanks bytes := by
  intro hblanks
  rcases h.beginsOpen with ⟨first, -, hfirst⟩
  rcases hfirst [] with ⟨more, hmore⟩
  have hnone : skipBlanks (bytes ++ []) = [] := skipBlanks_append hblanks []
  rw [hmore] at hnone
  cases hnone

/-! ## Where parts end -/

/-- Whether an octet may stand behind a part. -/
def Ends (byte : UInt8) : Prop :=
  byte = 44 ∨ byte = 93 ∨ byte = 125

theorem Ends.not_blank {byte : UInt8} (h : Ends byte) : isBlank byte = false := by
  rcases h with rfl | rfl | rfl
  · decide
  · decide
  · decide

/-- Blanks end where an octet is that is none. -/
theorem gap_cut {gap' : Bytes} {byte byte' : UInt8} (hgap : Blanks gap) (hgap' : Blanks gap')
    (hbyte : Ends byte) (hbyte' : Ends byte') (h : gap ++ byte :: rest = gap' ++ byte' :: rest') :
    byte :: rest = byte' :: rest' := by
  have hskip := skipBlanks_gap hgap hbyte.not_blank rest
  rw [h, skipBlanks_gap hgap' hbyte'.not_blank] at hskip
  exact hskip.symm

theorem Writes.element_cut {byte byte' : UInt8} (helement : Writes (.element tree) bytes)
    (helement' : Writes (.element other) bytes') (hbyte : Ends byte) (hbyte' : Ends byte')
    (h : bytes ++ byte :: rest = bytes' ++ byte' :: rest') : byte :: rest = byte' :: rest' := by
  -- with fuel for either, the same is left over
  have hend := endsNumber_cons hbyte rest
  have hend' := endsNumber_cons hbyte' rest'
  rcases helement.isSkipped (2 * bytes.length + 2 * bytes'.length) _ (by omega) hend with
    ⟨gap, hgap, hskip⟩
  rcases helement'.isSkipped (2 * bytes.length + 2 * bytes'.length) _ (by omega) hend' with
    ⟨gap', hgap', hskip'⟩
  rw [h, hskip'] at hskip
  exact gap_cut hgap hgap' hbyte hbyte' (Except.ok.inj hskip).symm

theorem Writes.member_cut {name name' : Bytes} {byte byte' : UInt8}
    (hmember : Writes (.member name tree) bytes) (hmember' : Writes (.member name' other) bytes')
    (hbyte : Ends byte) (hbyte' : Ends byte')
    (h : bytes ++ byte :: rest = bytes' ++ byte' :: rest') : byte :: rest = byte' :: rest' := by
  have hend := endsNumber_cons hbyte rest
  have hend' := endsNumber_cons hbyte' rest'
  rcases hmember.isSkipped (2 * bytes.length + 2 * bytes'.length) _ (by omega) hend with
    ⟨named, colon, value, gap, hquote, hname, hcolon, hgap, hskip⟩
  rcases hmember'.isSkipped (2 * bytes.length + 2 * bytes'.length) _ (by omega) hend' with
    ⟨named', colon', value', gap', hquote', hname', hcolon', hgap', hskip'⟩
  -- step by step the same is left over
  rw [h, hquote'] at hquote
  cases hquote
  rw [hname'] at hname
  cases hname
  rw [hcolon'] at hcolon
  cases hcolon
  rw [hskip'] at hskip
  exact gap_cut hgap hgap' hbyte hbyte' (Except.ok.inj hskip).symm

/-- The name of a member can be told from what is around it. -/
theorem name_cut {front front' name name' back back' inside inside' : Bytes}
    (hfront : Blanks front) (hfront' : Blanks front') (hname : Quotable name)
    (hname' : Quotable name') (hback : Blanks back) (hback' : Blanks back')
    (h : front ++ 34 :: (name ++ 34 :: (back ++ 58 :: inside)) =
      front' ++ 34 :: (name' ++ 34 :: (back' ++ 58 :: inside'))) :
    name = name' ∧ inside = inside' := by
  -- behind the name and the colon the same is left over
  have hquote := skipBlanks_gap hfront (rfl : isBlank 34 = false)
    (name ++ 34 :: (back ++ 58 :: inside))
  rw [h, skipBlanks_gap hfront' rfl] at hquote
  have hnamed := (List.cons.inj hquote).2
  have hcolon := skipText_append hname (back ++ 58 :: inside)
  rw [← hnamed, skipText_append hname'] at hcolon
  have hvalue := skipColon_gap hback inside
  rw [← Except.ok.inj hcolon, skipColon_gap hback'] at hvalue
  rw [Except.ok.inj hcolon] at hnamed
  exact ⟨(List.append_cancel_right hnamed).symm, (Except.ok.inj hvalue).symm⟩

/-- A value that another one begins with has no comma behind it. -/
theorem Writes.not_element_comma {more : Bytes} (h : Writes (.element tree) (bytes ++ 44 :: more))
    (hother : Writes (.element other) bytes) : False := by
  have heq : bytes ++ 44 :: more ++ 93 :: [] = bytes ++ 44 :: (more ++ 93 :: []) :=
    List.append_assoc _ _ _
  cases h.element_cut hother (.inr (.inl rfl)) (.inl rfl) heq

theorem Writes.not_member_comma {name name' more : Bytes}
    (h : Writes (.member name tree) (bytes ++ 44 :: more))
    (hother : Writes (.member name' other) bytes) : False := by
  have heq : bytes ++ 44 :: more ++ 125 :: [] = bytes ++ 44 :: (more ++ 125 :: []) :=
    List.append_assoc _ _ _
  cases h.member_cut hother (.inr (.inr rfl)) (.inl rfl) heq

/-- Blanks around a value can be told from the value. -/
theorem Writes.value_cut {front front' back back' : Bytes} (hvalue : Writes (.value tree) bytes)
    (hvalue' : Writes (.value other) bytes') (hfront : Blanks front) (hfront' : Blanks front')
    (hback : Blanks back) (hback' : Blanks back')
    (h : front ++ (bytes ++ back) = front' ++ (bytes' ++ back')) : bytes = bytes' := by
  have hinside : bytes ++ back = bytes' ++ back' := by
    have hskip := skipBlanks_append hfront (bytes ++ back)
    rw [h, skipBlanks_append hfront', hvalue.skipBlanks_eq, hvalue'.skipBlanks_eq] at hskip
    exact hskip.symm
  have hskip := hvalue.isSkipped (2 * bytes.length + 2 * bytes'.length) back (by omega)
    (endsNumber_blanks hback)
  rw [hinside, hvalue'.isSkipped _ back' (by omega) (endsNumber_blanks hback')] at hskip
  rw [Except.ok.inj hskip] at hinside
  exact List.append_cancel_right hinside

/-! ## One value only -/

/-- Whether octets are written as no other part of the kind. -/
def IsOnly : Part → Bytes → Prop
  | .value tree, bytes => ∀ other, Writes (.value other) bytes → tree = other
  | .element tree, bytes => ∀ other, Writes (.element other) bytes → tree = other
  | .elements trees, bytes => ∀ others, Writes (.elements others) bytes → trees = others
  | .member name tree, bytes => ∀ name' other, Writes (.member name' other) bytes →
      name = name' ∧ tree = other
  | .members members, bytes => ∀ others, Writes (.members others) bytes → members = others

theorem Writes.isOnly {part : Part} (h : Writes part bytes) : IsOnly part bytes := by
  induction h with
  | null =>
    intro other hother
    exact hother.eq_null.symm
  | yes =>
    intro other hother
    exact hother.eq_yes.symm
  | no =>
    intro other hother
    exact hother.eq_no.symm
  | number hnumeral =>
    intro other hother
    exact (hother.eq_number hnumeral).symm
  | text hbody =>
    intro other hother
    rcases hother.of_quote with ⟨body, rfl, hinside⟩
    cases List.append_cancel_right hinside
    rfl
  | emptyList hgap =>
    intro other hother
    rcases hother.of_bracket with ⟨rfl, -⟩ | ⟨items, inside, rfl, hitems, hinside⟩
    · rfl
    · cases List.append_cancel_right hinside
      exact absurd hgap hitems.not_blanks
  | list hitems ih =>
    intro other hother
    rcases hother.of_bracket with ⟨-, gap, hgap, hinside⟩ | ⟨items, inside, rfl, hitems', hinside⟩
    · cases List.append_cancel_right hinside
      exact absurd hgap hitems.not_blanks
    · cases List.append_cancel_right hinside
      rw [ih items hitems']
  | emptyObject hgap =>
    intro other hother
    rcases hother.of_brace with ⟨rfl, -⟩ | ⟨members, inside, rfl, hmembers, hinside⟩
    · rfl
    · cases List.append_cancel_right hinside
      exact absurd hgap hmembers.not_blanks
  | object hmembers ih =>
    intro other hother
    rcases hother.of_brace with ⟨-, gap, hgap, hinside⟩ |
      ⟨members, inside, rfl, hmembers', hinside⟩
    · cases List.append_cancel_right hinside
      exact absurd hgap hmembers.not_blanks
    · cases List.append_cancel_right hinside
      rw [ih members hmembers']
  | @element tree front inside back hfront hvalue hback ih =>
    intro other hother
    generalize hbytes : front ++ (inside ++ back) = bytes at hother
    cases hother with
    | element hfront' hvalue' hback' =>
      cases hvalue.value_cut hvalue' hfront hfront' hback hback' hbytes
      exact ih _ hvalue'
  -- One item more would have a comma behind a value that is there as a whole.
  | lastElement helement ih =>
    intro others hothers
    cases hothers with
    | lastElement helement' => rw [ih _ helement']
    | moreElements helement' => exact (helement.not_element_comma helement').elim
  | @moreElements tree trees front back helement hmore ih ihmore =>
    intro others hothers
    generalize hbytes : front ++ 44 :: back = bytes at hothers
    cases hothers with
    | lastElement helement' =>
      subst hbytes
      exact (helement'.not_element_comma helement).elim
    | moreElements helement' hmore' =>
      have hcut := helement.element_cut helement' (.inl rfl) (.inl rfl) hbytes
      cases hcut
      cases List.append_cancel_right hbytes
      rw [ih _ helement', ihmore _ hmore']
  | @member name tree front back inside hfront hname hback helement ih =>
    intro name' other hother
    generalize hbytes : front ++ 34 :: (name ++ 34 :: (back ++ 58 :: inside)) = bytes at hother
    cases hother with
    | member hfront' hname' hback' helement' =>
      rcases name_cut hfront hfront' hname hname' hback hback' hbytes with ⟨rfl, rfl⟩
      exact ⟨rfl, ih _ helement'⟩
  | lastMember hmember ih =>
    intro others hothers
    cases hothers with
    | lastMember hmember' =>
      rcases ih _ _ hmember' with ⟨rfl, rfl⟩
      rfl
    | moreMembers hmember' => exact (hmember.not_member_comma hmember').elim
  | @moreMembers name tree members front back hmember hmore ih ihmore =>
    intro others hothers
    generalize hbytes : front ++ 44 :: back = bytes at hothers
    cases hothers with
    | lastMember hmember' =>
      subst hbytes
      exact (hmember'.not_member_comma hmember).elim
    | moreMembers hmember' hmore' =>
      have hcut := hmember.member_cut hmember' (.inl rfl) (.inl rfl) hbytes
      cases hcut
      cases List.append_cancel_right hbytes
      rcases ih _ _ hmember' with ⟨rfl, rfl⟩
      rw [ihmore _ hmore']

/-- The same octets are not written as two values. -/
theorem IsDocument.unique (h : IsDocument tree bytes) (hother : IsDocument other bytes) :
    tree = other :=
  Writes.isOnly h other hother

end Json
end Possession

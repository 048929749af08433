import Possession.Proofs.Json.Recognition
import Possession.Proofs.Json.Rows
import Mathlib.Data.List.Nodup

/-!
# Records are read as the grammar has them

A record is recognized when each of its members is: from an object in which every field occurs once,
or not at all if it may be absent, and from a list that has the fields in order.

* `Binding` ties a member of a shape to the field that it reads.
* `Shape.recognizes` is the result. The slots of an object that is read are those of the names seen
  so far, and `Allows` says which names may follow them.
-/

namespace Possession
namespace Json

variable {bytes rest behind : Bytes}

/-- A member of a shape, a value that it may have, and the field that says which trees stand for the
value. -/
structure Binding where
  member : Member
  value : Value
  field : Field
  name_eq : member.name = field.name
  reads : Recognizes member.read value field.Fits
  absent_iff : member.absent = some value ↔ field.FitsNone

/-- The last member cannot be absent, so a list that ends early is refused. -/
def EndsRequired (bindings : List Binding) : Prop :=
  ∀ binding ∈ bindings.getLast?, binding.member.absent = none

theorem EndsRequired.tail {binding : Binding} {bindings : List Binding}
    (h : EndsRequired (binding :: bindings)) : EndsRequired bindings := by
  cases bindings with
  | nil => exact nofun
  | cons next bindings => exact h

/-! ## Lists -/

section Lists

variable {expected : String} {index : Nat} {first : Bool}

theorem exists_itemAhead {ahead : Bytes} (h : itemAhead first bytes = .ok (true, ahead)) :
    ∃ gap back, Blanks gap ∧ Blanks back ∧ bytes = gap ++ (mark first ++ (back ++ ahead)) := by
  rw [itemAhead] at h
  split at h
  · cases h
  · cases h
  · next byte behind _ hblanks =>
    rcases exists_gap hblanks with ⟨gap, hgap, rfl⟩
    split at h
    · next hfirst =>
      cases h
      subst hfirst
      exact ⟨gap, [], hgap, .nil, rfl⟩
    · next hlater =>
      split at h
      · next hcomma =>
        subst hcomma
        split at h
        · cases h
        · cases h
        · cases h
          rcases exists_blanks behind with ⟨back, hback, hbehind⟩
          refine ⟨gap, back, hgap, hback, ?_⟩
          rw [mark, if_neg hlater, ← hbehind]
          rfl
      · cases h

theorem itemAhead_end {ahead : Bytes} (h : itemAhead first bytes = .ok (false, ahead)) :
    ∃ last, skipBlanks bytes = 93 :: last ∧ ahead = 93 :: last := by
  rw [itemAhead] at h
  split at h
  · cases h
  · next hblanks =>
    cases h
    exact ⟨_, hblanks, rfl⟩
  · split at h
    · cases h
    · split at h
      · split at h
        · cases h
        · cases h
        · cases h
      · cases h

theorem itemAhead_next {gap text : Bytes} (hgap : Blanks gap) {tree : Tree} (h : IsItem tree text)
    (rest : Bytes) :
    itemAhead first (gap ++ (mark first ++ (text ++ rest))) =
      .ok (true, skipBlanks (text ++ rest)) := by
  rcases Writes.beginsOpen h with ⟨byte, ⟨-, hclose, -⟩, hopen⟩
  rcases hopen rest with ⟨more, hmore⟩
  cases first with
  | true =>
    have hblanks : skipBlanks (gap ++ (mark true ++ (text ++ rest))) = byte :: more := by
      rw [skipBlanks_append hgap]
      exact hmore
    rw [itemAhead, hblanks, hmore]
    split
    · next heq => cases heq
    · next heq => exact absurd (List.cons.inj heq).1 hclose
    · next heq =>
      cases heq
      rfl
  | false =>
    have hblanks : skipBlanks (gap ++ (mark false ++ (text ++ rest))) = 44 :: (text ++ rest) :=
      skipBlanks_gap hgap rfl _
    rw [itemAhead, hblanks]
    split
    · next heq => cases heq
    · next heq => exact absurd (List.cons.inj heq).1 (by decide)
    · next heq =>
      cases heq
      simp only [Bool.false_eq_true, if_false, if_true, hmore]
      split
      · next heq => cases heq
      · next heq => exact absurd (List.cons.inj heq).1 hclose
      · rfl

/-- When a list has ended all that is left must be absent. -/
theorem absent_of_ended {members : List Member} {values : List Value} {last : Bytes}
    (hend : skipBlanks bytes = 93 :: last)
    (h : readItems expected index members bytes = .ok (values, behind)) :
    ∀ member ∈ members, member.absent ≠ none := by
  induction members generalizing index bytes values with
  | nil => exact nofun
  | cons member members ih =>
    have hahead (first : Bool) : itemAhead first bytes = .ok (false, 93 :: last) := by
      rw [itemAhead, hend]
      rfl
    simp only [readItems, hahead, Outcome.ok_bind, Bool.false_eq_true, if_false] at h
    split at h
    · next habsent =>
      rcases Outcome.bind_eq_ok_iff.mp h with ⟨⟨others, _⟩, hothers, hvalues⟩
      cases hvalues
      intro other hother
      rcases List.mem_cons.mp hother with rfl | hmem
      · rw [habsent]
        exact Option.some_ne_none _
      · exact ih (skipBlanks_cons rfl _) hothers other hmem
    · cases h

theorem exists_items {bindings : List Binding} (hrequired : EndsRequired bindings)
    (h : readItems expected index (bindings.map (·.member)) bytes =
      .ok (bindings.map (·.value), behind)) (hend : endList behind = .ok rest) :
    ∃ items text, List.Forall₂ Field.Fits (bindings.map (·.field)) items ∧
      Tail IsItem 93 (index == 0) items text ∧ bytes = text ++ rest := by
  induction bindings generalizing index bytes with
  | nil =>
    cases h
    rw [endList] at hend
    split at hend
    · cases hend
    · next hclose =>
      cases hend
      rcases exists_gap hclose with ⟨gap, hgap, rfl⟩
      exact ⟨[], _, .nil, .done hgap, List.append_cons _ _ _⟩
    · split at hend
      · cases hend
      · cases hend
    · cases hend
  | cons binding bindings ih =>
    have hread := h
    simp only [List.map_cons, readItems, Outcome.bind_eq_ok_iff] at h
    rcases h with ⟨⟨more, ahead⟩, hahead, h⟩
    cases more with
    | true =>
      simp only [if_true, Outcome.bind_eq_ok_iff] at h
      rcases h with ⟨⟨value, last⟩, hvalue, ⟨values, _⟩, hvalues, hrow⟩
      cases hrow
      rcases binding.reads.sound hvalue with ⟨tree, front, hfits, hwrites, rfl⟩
      rcases ih hrequired.tail hvalues with ⟨items, tail, hitems, htail, rfl⟩
      rcases exists_itemAhead hahead with ⟨gap, back, hgap, hback, rfl⟩
      refine ⟨tree :: items, _, .cons hfits hitems,
        .next hgap (padded_item.front hback hwrites) htail, ?_⟩
      simp only [List.append_assoc]
    | false =>
      -- the last member would be missing
      rcases itemAhead_end hahead with ⟨last, hclose, -⟩
      have habsent := absent_of_ended hclose hread
      have hne := List.cons_ne_nil binding bindings
      have hlast := hrequired _ (List.getLast?_eq_some_getLast hne)
      exact absurd hlast (habsent _ (List.mem_map_of_mem (List.getLast_mem hne)))

theorem readItems_append (expected : String) (index : Nat) {bindings : List Binding}
    {items : List Tree} {text : Bytes}
    (hfits : List.Forall₂ Field.Fits (bindings.map (·.field)) items)
    (htail : Tail IsItem 93 (index == 0) items text) (rest : Bytes) :
    ∃ behind, readItems expected index (bindings.map (·.member)) (text ++ rest) =
      .ok (bindings.map (·.value), behind) ∧ endList behind = .ok rest := by
  induction bindings generalizing index items text with
  | nil =>
    cases hfits
    cases htail with
    | done hgap =>
      refine ⟨_, rfl, ?_⟩
      rw [endList, ← List.append_cons, skipBlanks_gap hgap rfl]
      rfl
  | cons binding bindings ih =>
    cases hfits with
    | @cons _ tree _ others hfits hothers =>
      cases htail with
      | @next _ _ _ gap text tail hgap hitem htail =>
        -- a number would go on, but a comma or the bracket is behind it
        have hends := htail.endsNumber (.inr (.inl rfl)) rest
        rcases binding.reads.element hfits hitem hends with ⟨back, hback, hread⟩
        have hlater : Tail IsItem 93 (index + 1 == 0) others (back ++ tail) := htail.front hback
        rcases ih (index + 1) hothers hlater with ⟨behind, hvalues, hend⟩
        refine ⟨behind, ?_, hend⟩
        rw [List.append_assoc] at hvalues
        simp only [List.map_cons, readItems, List.append_assoc, itemAhead_next hgap hitem,
          Outcome.ok_bind, if_true, binding.reads.skips, hread, hvalues]
        rfl

end Lists

/-! ## The slots of an object -/

section Slots

variable {bindings : List Binding} {seen : List String} {name : String}

/-- The slots when some names have been seen. -/
def slotsOf (bindings : List Binding) (seen : List String) : Slots :=
  bindings.map fun binding => if binding.field.name ∈ seen then some binding.value else none

theorem member_getElem? {index : Nat} {binding : Binding} (h : bindings[index]? = some binding) :
    (bindings.map (·.member))[index]? = some binding.member := by
  rw [List.getElem?_map, h, Option.map_some]

theorem slotsOf_getElem? (seen : List String) {index : Nat} {binding : Binding}
    (h : bindings[index]? = some binding) : (slotsOf bindings seen)[index]? =
      some (if binding.field.name ∈ seen then some binding.value else none) := by
  rw [slotsOf, List.getElem?_map, h, Option.map_some]

/-- The slot of a field is filled when its name has been seen. -/
theorem slot_isSome_iff {index : Nat} {binding : Binding} (h : bindings[index]? = some binding) :
    ((slotsOf bindings seen)[index]?.bind id).isSome = true ↔ binding.field.name ∈ seen := by
  rw [slotsOf_getElem? seen h]
  by_cases hseen : binding.field.name ∈ seen
  · simp [hseen]
  · simp [hseen]

theorem slotsOf_nil (bindings : List Binding) :
    slotsOf bindings [] = (bindings.map (·.member)).map fun _ => none := by
  rw [slotsOf, List.map_map]
  rfl

theorem slotsOf_cons (binding : Binding) (bindings : List Binding) (seen : List String) :
    slotsOf (binding :: bindings) seen =
      (if binding.field.name ∈ seen then some binding.value else none) :: slotsOf bindings seen :=
  rfl

/-- A name of no field leaves the slots as they are. -/
theorem slotsOf_append_of_unknown (seen : List String)
    (h : ∀ binding ∈ bindings, binding.field.name ≠ name) :
    slotsOf bindings (seen ++ [name]) = slotsOf bindings seen := by
  apply List.map_congr_left
  intro binding hbinding
  simp only [List.mem_append, List.mem_singleton, h binding hbinding, or_false]

/-- The name of a field fills its slot and no other one, as names are distinct. -/
theorem slotsOf_append_of_known (hdistinct : (bindings.map (·.field.name)).Nodup) {index : Nat}
    {binding : Binding} (hbinding : bindings[index]? = some binding)
    (hname : binding.field.name = name) :
    slotsOf bindings (seen ++ [name]) = (slotsOf bindings seen).set index (some binding.value) := by
  induction bindings generalizing index with
  | nil => cases hbinding
  | cons first bindings ih =>
    rw [List.map_cons, List.nodup_cons] at hdistinct
    rcases hdistinct with ⟨hfirst, hdistinct⟩
    cases index with
    | zero =>
      cases hbinding
      have hothers : ∀ other ∈ bindings, other.field.name ≠ name := by
        rintro other hother rfl
        exact hfirst (hname ▸ List.mem_map_of_mem hother)
      rw [slotsOf_cons, slotsOf_cons, slotsOf_append_of_unknown seen hothers, List.set_cons_zero,
        if_pos (List.mem_append_right seen (List.mem_singleton.mpr hname))]
    | succ index =>
      rw [List.getElem?_cons_succ] at hbinding
      have hother : first.field.name ≠ name := by
        intro heq
        rw [heq, ← hname] at hfirst
        exact hfirst (List.mem_map_of_mem (List.mem_of_getElem? hbinding))
      rw [slotsOf_cons, slotsOf_cons, ih hdistinct hbinding, List.set_cons_succ]
      simp only [List.mem_append, List.mem_singleton, hother, or_false]

theorem unknown_of_findIdx?
    (h : (bindings.map (·.member)).findIdx? (·.name == name) = none) :
    ∀ binding ∈ bindings, binding.field.name ≠ name := by
  intro binding hbinding heq
  have hmember := List.findIdx?_eq_none_iff.mp h _ (List.mem_map_of_mem hbinding)
  rw [binding.name_eq, heq, beq_self_eq_true] at hmember
  cases hmember

theorem known_of_findIdx? {index : Nat}
    (h : (bindings.map (·.member)).findIdx? (·.name == name) = some index) :
    ∃ binding, bindings[index]? = some binding ∧ binding.field.name = name := by
  rcases List.findIdx?_eq_some_iff_getElem.mp h with ⟨hlt, hname, -⟩
  rw [List.length_map] at hlt
  rw [List.getElem_map, beq_iff_eq] at hname
  exact ⟨bindings[index], List.getElem?_eq_getElem hlt, bindings[index].name_eq ▸ hname⟩

/-- The first slot holds its value, or what stands for its member when it is absent. -/
theorem fillSlots_cons_eq_ok_iff {member : Member} {members : List Member} {slot : Option Value}
    {slots : Slots} {values : List Value} :
    fillSlots (member :: members) (slot :: slots) = .ok values ↔
      ∃ value others, slot.or member.absent = some value ∧ fillSlots members slots = .ok others ∧
        values = value :: others := by
  have hfound {value : Value} : (do return value :: (← fillSlots members slots)) =
      Except.ok values ↔ ∃ others, fillSlots members slots = .ok others ∧
        values = value :: others := by
    rw [Outcome.bind_eq_ok_iff]
    simp only [Outcome.pure_eq, Except.ok.injEq, eq_comm]
  have hnamed {value : Value} :
      (∃ others, fillSlots members slots = .ok others ∧ values = value :: others) ↔
        ∃ found others, value = found ∧ fillSlots members slots = .ok others ∧
          values = found :: others := by
    constructor
    · rintro ⟨others, hothers, hvalues⟩
      exact ⟨value, others, rfl, hothers, hvalues⟩
    · rintro ⟨_, others, rfl, hothers, hvalues⟩
      exact ⟨others, hothers, hvalues⟩
  cases slot with
  | some value =>
    simp only [fillSlots, hfound, Option.some_or, Option.some.injEq]
    exact hnamed
  | none =>
    cases habsent : member.absent with
    | some value =>
      simp only [fillSlots, habsent, hfound, Option.none_or, Option.some.injEq]
      exact hnamed
    | none => simp [fillSlots, habsent]

/-- Slots that are empty in the end must be of fields that may be absent. -/
theorem fillSlots_slotsOf_iff :
    fillSlots (bindings.map (·.member)) (slotsOf bindings seen) = .ok (bindings.map (·.value)) ↔
      ∀ binding ∈ bindings, binding.field.name ∈ seen ∨ binding.field.FitsNone := by
  induction bindings with
  | nil => exact ⟨fun _ => nofun, fun _ => rfl⟩
  | cons binding bindings ih =>
    have hslot : ((if binding.field.name ∈ seen then some binding.value else none).or
        binding.member.absent = some binding.value) ↔
          binding.field.name ∈ seen ∨ binding.field.FitsNone := by
      rw [← binding.absent_iff]
      by_cases hseen : binding.field.name ∈ seen
      · simp [hseen]
      · simp [hseen]
    rw [List.forall_mem_cons, ← ih, ← hslot, slotsOf_cons, List.map_cons, List.map_cons,
      fillSlots_cons_eq_ok_iff]
    constructor
    · rintro ⟨_, _, hvalue, hothers, ⟨⟩⟩
      exact ⟨hvalue, hothers⟩
    · rintro ⟨hvalue, hothers⟩
      exact ⟨_, _, hvalue, hothers, rfl⟩

/-- A value in a slot is the value in the end. -/
theorem value_of_fillSlots {members : List Member} {slots : Slots} {values : List Value}
    {index : Nat} {member : Member} {value : Value} (h : fillSlots members slots = .ok values)
    (hmember : members[index]? = some member) (hslot : slots[index]? = some (some value)) :
    values[index]? = some value := by
  induction members generalizing slots values index with
  | nil => cases hmember
  | cons first members ih =>
    cases slots with
    | nil => cases hslot
    | cons slot slots =>
      rcases fillSlots_cons_eq_ok_iff.mp h with ⟨found, others, hfound, hothers, rfl⟩
      cases index with
      | zero =>
        cases hslot
        exact hfound.symm
      | succ index =>
        rw [List.getElem?_cons_succ] at hmember hslot ⊢
        exact ih hothers hmember hslot

end Slots

/-! ## Members in order -/

section Members

variable {bindings : List Binding} {seen : List String}

/-- Whether members may follow when some names have been seen: none of a field that has been seen,
and each of a field stands for what the field holds. -/
def Allows (bindings : List Binding) : List String → List (String × Tree) → Prop
  | _, [] => True
  | seen, (name, tree) :: entries =>
    (∀ binding ∈ bindings, binding.field.name = name → name ∉ seen ∧ binding.field.Fits tree) ∧
      Allows bindings (seen ++ [name]) entries

theorem Tree.under_cons {name field : String} {tree : Tree} {entries : List (String × Tree)} :
    Tree.under field ((name, tree) :: entries) =
      if field = name then tree :: Tree.under field entries else Tree.under field entries := by
  simp only [Tree.under, List.filter_cons, beq_iff_eq, eq_comm (a := name)]
  split
  · rfl
  · rfl

theorem Tree.mem_names_iff {field : String} {entries : List (String × Tree)} :
    field ∈ entries.map (·.1) ↔ Tree.under field entries ≠ [] := by
  induction entries with
  | nil => simp [Tree.under]
  | cons entry entries ih =>
    rcases entry with ⟨name, tree⟩
    rw [List.map_cons, List.mem_cons, ih, Tree.under_cons]
    by_cases hname : field = name
    · simp [hname]
    · simp [hname]

theorem allows_iff {entries : List (String × Tree)} :
    Allows bindings seen entries ↔ ∀ binding ∈ bindings,
      Tree.under binding.field.name entries = [] ∨ binding.field.name ∉ seen ∧
        ∃ tree, Tree.under binding.field.name entries = [tree] ∧ binding.field.Fits tree := by
  induction entries generalizing seen with
  | nil => exact ⟨fun _ _ _ => .inl rfl, fun _ => trivial⟩
  | cons entry entries ih =>
    rcases entry with ⟨name, tree⟩
    rw [Allows, ih, ← forall₂_and]
    apply forall₂_congr
    intro binding _
    rw [Tree.under_cons]
    by_cases hname : binding.field.name = name
    · -- no further member of the name may follow
      rw [if_pos hname]
      constructor
      · rintro ⟨hone, hrest | ⟨hfresh, -⟩⟩
        · exact .inr ⟨hname ▸ (hone hname).1, tree, by rw [hrest], (hone hname).2⟩
        · exact absurd (List.mem_append_right seen (List.mem_singleton.mpr hname)) hfresh
      · rintro (hnone | ⟨hfresh, other, heq, hfits⟩)
        · cases hnone
        · rcases List.cons.inj heq with ⟨rfl, hrest⟩
          exact ⟨fun _ => ⟨hname ▸ hfresh, hfits⟩, .inl hrest⟩
    · have hfresh : binding.field.name ∉ seen ++ [name] ↔ binding.field.name ∉ seen := by
        rw [List.mem_append, List.mem_singleton, or_iff_left hname]
      rw [if_neg hname, hfresh]
      exact and_iff_right (fun heq => absurd heq hname)

/-- Members may stand in an object when each field occurs once at most, and the names of an object
fill all slots when every other field may be absent. -/
theorem allows_nil_iff {entries : List (String × Tree)} :
    (Allows bindings [] entries ∧ ∀ binding ∈ bindings,
        binding.field.name ∈ entries.map (·.1) ∨ binding.field.FitsNone) ↔
      ∀ field ∈ bindings.map (·.field), ∃ taken,
        Settling.once (Tree.under field.name entries) = some taken ∧ field.Takes taken := by
  rw [allows_iff, ← forall₂_and, List.forall_mem_map]
  apply forall₂_congr
  intro binding _
  rw [Tree.mem_names_iff]
  cases Tree.under binding.field.name entries with
  | nil => simp [Settling.once, Field.Takes]
  | cons tree trees =>
    cases trees with
    | nil => simp [Settling.once, Field.Takes]
    | cons other trees => simp [Settling.once]

end Members

/-! ## Objects -/

section Objects

variable {bindings : List Binding} {seen : List String} {first : Bool} {fuel : Nat} {gap : Bytes}

theorem exists_memberAhead (h : memberAhead first bytes = .ok (true, rest)) :
    ∃ gap back, Blanks gap ∧ Blanks back ∧ bytes = gap ++ (mark first ++ (back ++ 34 :: rest)) := by
  rw [memberAhead] at h
  split at h
  · cases h
  · cases h
  · next hblanks =>
    rcases exists_gap hblanks with ⟨gap, hgap, rfl⟩
    split at h
    · next hfirst =>
      subst hfirst
      split at h
      · next hquote =>
        cases h
        subst hquote
        exact ⟨gap, [], hgap, .nil, rfl⟩
      · cases h
    · next hlater =>
      split at h
      · next hcomma =>
        subst hcomma
        split at h
        · cases h
        · next hquote =>
          cases h
          rcases exists_gap hquote with ⟨back, hback, rfl⟩
          refine ⟨gap, back, hgap, hback, ?_⟩
          rw [mark, if_neg hlater]
          rfl
        · cases h
        · cases h
      · cases h

theorem memberAhead_end (h : memberAhead first bytes = .ok (false, rest)) :
    ∃ gap, Blanks gap ∧ bytes = gap ++ 125 :: rest := by
  rw [memberAhead] at h
  split at h
  · cases h
  · next hblanks =>
    cases h
    exact exists_gap hblanks
  · split at h
    · split at h
      · cases h
      · cases h
    · split at h
      · split at h
        · cases h
        · cases h
        · cases h
        · cases h
      · cases h

theorem memberAhead_close (hgap : Blanks gap) (rest : Bytes) :
    memberAhead first (gap ++ 125 :: rest) = .ok (false, rest) := by
  rw [memberAhead, skipBlanks_gap hgap rfl]
  rfl

theorem memberAhead_quote {back : Bytes} (hgap : Blanks gap) (hback : Blanks back) (rest : Bytes) :
    memberAhead first (gap ++ (mark first ++ (back ++ 34 :: rest))) = .ok (true, rest) := by
  cases first with
  | true =>
    have hblanks : skipBlanks (gap ++ (mark true ++ (back ++ 34 :: rest))) = 34 :: rest := by
      rw [skipBlanks_append hgap]
      exact skipBlanks_gap hback rfl rest
    rw [memberAhead, hblanks]
    rfl
  | false =>
    have hcomma : skipBlanks (gap ++ (mark false ++ (back ++ 34 :: rest))) =
        44 :: (back ++ 34 :: rest) := skipBlanks_gap hgap rfl _
    have hquote := skipBlanks_gap hback (rfl : isBlank 34 = false) rest
    rw [memberAhead, hcomma]
    split
    · next heq => cases heq
    · next heq => exact absurd (List.cons.inj heq).1 (by decide)
    · next heq =>
      cases heq
      simp only [Bool.false_eq_true, if_false, if_true, hquote]

/-- A slot that is filled is not filled again. -/
theorem readMembers_keeps {members : List Member} {slots filled : Slots} {index : Nat}
    {value : Value} (h : readMembers members fuel first slots bytes = .ok (filled, rest))
    (hslot : slots[index]? = some (some value)) : filled[index]? = some (some value) := by
  induction fuel generalizing first slots bytes with
  | zero => cases h
  | succ fuel ih =>
    simp only [readMembers, Outcome.bind_eq_ok_iff] at h
    rcases h with ⟨⟨more, ahead⟩, -, h⟩
    cases more with
    | false =>
      cases h
      exact hslot
    | true =>
      simp only [Bool.not_true, Bool.false_eq_true, if_false, Outcome.bind_eq_ok_iff] at h
      rcases h with ⟨⟨name, behind⟩, -, h⟩
      split at h
      · simp only [Outcome.bind_eq_ok_iff] at h
        rcases h with ⟨_, _, _, _, h⟩
        exact ih h hslot
      · next other _ =>
        split at h
        · cases h
        · next hempty =>
          simp only [Outcome.bind_eq_ok_iff] at h
          rcases h with ⟨_, _, h⟩
          split at h
          · cases h
          · simp only [Outcome.bind_eq_ok_iff] at h
            rcases h with ⟨⟨read, _⟩, _, h⟩
            apply ih h
            have hother : other ≠ index := by
              rintro rfl
              rw [hslot] at hempty
              exact hempty rfl
            rw [List.getElem?_set_ne hother]
            exact hslot

/-- Whether octets up to the end of an object are members that may follow when some names have been
seen, and the slots that they leave. -/
def ReadsAs (bindings : List Binding) (first : Bool) (seen : List String) (bytes rest : Bytes)
    (filled : Slots) : Prop :=
  ∃ members entries text, Tail IsMember 125 first members text ∧ bytes = text ++ rest ∧
    Tree.Named members entries ∧ Allows bindings seen entries ∧
    filled = slotsOf bindings (seen ++ entries.map (·.1))

theorem ReadsAs.cons {name : String} {body back colon front last : Bytes} {tree : Tree}
    {filled : Slots} (hgap : Blanks gap) (hback : Blanks back) (hname : SpellsText body name)
    (hcolon : Blanks colon) (helement : Writes (.element tree) front)
    (hone : ∀ binding ∈ bindings, binding.field.name = name →
      name ∉ seen ∧ binding.field.Fits tree)
    (h : ReadsAs bindings false (seen ++ [name]) last rest filled) :
    ReadsAs bindings first seen
      (gap ++ (mark first ++ (back ++ 34 :: (body ++ 34 :: (colon ++ 58 :: (front ++ last))))))
      rest filled := by
  rcases h with ⟨members, entries, text, htail, rfl, hnamed, hallows, rfl⟩
  have hmember : IsMember (body, tree) _ := .member hback hname.quotable hcolon helement
  refine ⟨(body, tree) :: members, (name, tree) :: entries, _, .next hgap hmember htail, ?_,
    .cons ⟨hname, rfl⟩ hnamed, ⟨hone, hallows⟩, ?_⟩
  · simp only [List.append_assoc, List.cons_append]
  · rw [List.map_cons, ← List.append_cons]

theorem readsAs_of_readMembers (hdistinct : (bindings.map (·.field.name)).Nodup) {filled : Slots}
    (h : readMembers (bindings.map (·.member)) fuel first (slotsOf bindings seen) bytes =
      .ok (filled, rest))
    (hfilled : ∀ (index : Nat) (binding : Binding) (value : Value),
      bindings[index]? = some binding → filled[index]? = some (some value) →
        value = binding.value) :
    ReadsAs bindings first seen bytes rest filled := by
  induction fuel generalizing first seen bytes with
  | zero => cases h
  | succ fuel ih =>
    simp only [readMembers, Outcome.bind_eq_ok_iff] at h
    rcases h with ⟨⟨more, ahead⟩, hahead, h⟩
    cases more with
    | false =>
      cases h
      rcases memberAhead_end hahead with ⟨gap, hgap, rfl⟩
      refine ⟨[], [], _, .done hgap, List.append_cons _ _ _, .nil, trivial, ?_⟩
      rw [List.map_nil, List.append_nil]
    | true =>
      simp only [Bool.not_true, Bool.false_eq_true, if_false, Outcome.bind_eq_ok_iff] at h
      rcases h with ⟨⟨name, behind⟩, hname, h⟩
      rcases exists_memberAhead hahead with ⟨gap, back, hgap, hback, rfl⟩
      rcases readText_eq_ok_iff.mp hname with ⟨body, hbody, rfl⟩
      -- the value behind a name of no field is skipped, and that of a field is read
      split at h
      · next hindex =>
        simp only [Outcome.bind_eq_ok_iff] at h
        rcases h with ⟨colon, hcolon, last, hskip, h⟩
        rcases exists_colon hcolon with ⟨between, hbetween, rfl⟩
        rcases exists_of_skipOne hskip with ⟨tree, front, helement, rfl⟩
        have hunknown := unknown_of_findIdx? hindex
        rw [← slotsOf_append_of_unknown seen hunknown] at h
        exact (ih h).cons hgap hback hbody hbetween helement
          fun binding hmem heq => absurd heq (hunknown binding hmem)
      · next index hindex =>
        rcases known_of_findIdx? hindex with ⟨binding, hbinding, hknown⟩
        split at h
        · cases h
        · next hempty =>
          simp only [Outcome.bind_eq_ok_iff] at h
          rcases h with ⟨colon, hcolon, h⟩
          rcases exists_colon hcolon with ⟨between, hbetween, rfl⟩
          rw [member_getElem? hbinding] at h
          rcases Outcome.bind_eq_ok_iff.mp h with ⟨⟨value, last⟩, hread, hrest⟩
          have hfresh : name ∉ seen := by
            intro hseen
            exact hempty ((slot_isSome_iff hbinding).mpr (hknown ▸ hseen))
          -- the slot keeps the value, which is the one in the end
          have hlt := (List.getElem?_eq_some_iff.mp (slotsOf_getElem? seen hbinding)).1
          have hkept := readMembers_keeps hrest (List.getElem?_set_self hlt)
          cases hfilled index binding value hbinding hkept
          rcases binding.reads.sound hread with ⟨tree, front, hfits, helement, rfl⟩
          rw [← slotsOf_append_of_known hdistinct hbinding hknown] at hrest
          refine (ih hrest).cons hgap hback hbody hbetween helement ?_
          intro other hother heq
          have hsame := List.inj_on_of_nodup_map hdistinct hother (List.mem_of_getElem? hbinding)
            (heq.trans hknown.symm)
          exact ⟨hfresh, hsame ▸ hfits⟩

theorem readMembers_append (hdistinct : (bindings.map (·.field.name)).Nodup)
    {members : List (Bytes × Tree)} {entries : List (String × Tree)} {text : Bytes}
    (htail : Tail IsMember 125 first members text) (hnamed : Tree.Named members entries)
    (hallows : Allows bindings seen entries) (hfuel : members.length < fuel) (rest : Bytes) :
    readMembers (bindings.map (·.member)) fuel first (slotsOf bindings seen) (text ++ rest) =
      .ok (slotsOf bindings (seen ++ entries.map (·.1)), rest) := by
  induction members generalizing first seen entries text fuel with
  | nil =>
    obtain ⟨fuel, rfl⟩ : ∃ more, fuel = more + 1 := Nat.exists_eq_add_one.mpr hfuel
    cases hnamed
    cases htail with
    | done hgap =>
      rw [← List.append_cons, readMembers, memberAhead_close hgap, List.map_nil, List.append_nil]
      rfl
  | cons member members ih =>
    rcases member with ⟨body, tree⟩
    obtain ⟨fuel, rfl⟩ : ∃ more, fuel = more + 1 :=
      Nat.exists_eq_add_one.mpr (Nat.zero_lt_of_lt hfuel)
    have hless : members.length < fuel := Nat.lt_of_succ_lt_succ hfuel
    cases hnamed with
    | @cons _ entry _ entries hentry hnamed =>
      rcases entry with ⟨name, _⟩
      rcases hentry with ⟨hbody, rfl⟩
      rcases hallows with ⟨hone, hallows⟩
      cases htail with
      | @next _ _ _ gap _ tail hgap hmember htail =>
        have hends := htail.endsNumber (.inr (.inr rfl)) rest
        cases hmember with
        -- the member is read piece by piece: its quote, its name, the colon, and then its value
        | @member _ _ back between front hback hname hbetween helement =>
          have hread : readText (body ++ 34 :: (between ++ 58 :: (front ++ (tail ++ rest)))) =
              .ok (name, between ++ 58 :: (front ++ (tail ++ rest))) :=
            readText_eq_ok_iff.mpr ⟨body, hbody, rfl⟩
          have hlater {blanks : Bytes} (hblanks : Blanks blanks) :=
            ih (htail.front hblanks) hnamed hallows hless
          rw [List.map_cons, List.append_cons seen name]
          simp only [List.append_assoc, List.cons_append, readMembers,
            memberAhead_quote hgap hback, Outcome.ok_bind, Bool.not_true, Bool.false_eq_true,
            if_false, hread, skipColon_gap hbetween] at hlater ⊢
          cases hindex : (bindings.map (·.member)).findIdx? (·.name == name) with
          | none =>
            rcases skipOne_append helement hends with ⟨blanks, hblanks, hskip⟩
            simp only [hskip, Outcome.ok_bind]
            rw [← slotsOf_append_of_unknown seen (unknown_of_findIdx? hindex)]
            exact hlater hblanks
          | some index =>
            rcases known_of_findIdx? hindex with ⟨binding, hbinding, hknown⟩
            rcases hone binding (List.mem_of_getElem? hbinding) hknown with ⟨hfresh, hfits⟩
            rcases binding.reads.element hfits helement hends with ⟨blanks, hblanks, hvalue⟩
            have hempty : ¬ ((slotsOf bindings seen)[index]?.bind id).isSome = true := by
              rw [slot_isSome_iff hbinding, hknown]
              exact hfresh
            simp only [if_neg hempty, member_getElem? hbinding, hvalue, Outcome.ok_bind]
            rw [← slotsOf_append_of_known hdistinct hbinding hknown]
            exact hlater hblanks

end Objects

/-! ## Records -/

section Records

variable {shape : Shape} {bindings : List Binding}

/-- The values of an object fill the slots of its fields. -/
theorem isRecord_object_iff {members : List (Bytes × Tree)} :
    Tree.IsRecord .once (bindings.map (·.field)) (.object members) ↔ ∃ entries,
      Tree.Named members entries ∧ Allows bindings [] entries ∧
        fillSlots (bindings.map (·.member)) (slotsOf bindings (entries.map (·.1))) =
          .ok (bindings.map (·.value)) := by
  simp only [Tree.IsRecord, fillSlots_slotsOf_iff, allows_nil_iff]

theorem exists_object (hdistinct : (bindings.map (·.field.name)).Nodup) {fuel : Nat}
    {filled : Slots}
    (h : readMembers (bindings.map (·.member)) fuel true (slotsOf bindings []) bytes =
      .ok (filled, rest))
    (hfill : fillSlots (bindings.map (·.member)) filled = .ok (bindings.map (·.value))) :
    ∃ members text, Tree.IsRecord .once (bindings.map (·.field)) (.object members) ∧
      Tail IsMember 125 true members text ∧ bytes = text ++ rest := by
  have hfilled (index : Nat) (binding : Binding) (value : Value)
      (hbinding : bindings[index]? = some binding) (hslot : filled[index]? = some (some value)) :
      value = binding.value := by
    have hvalue := value_of_fillSlots hfill (member_getElem? hbinding) hslot
    rw [List.getElem?_map, hbinding] at hvalue
    exact (Option.some.inj hvalue).symm
  rcases readsAs_of_readMembers hdistinct h hfilled with
    ⟨members, entries, text, htail, hbytes, hnamed, hallows, rfl⟩
  exact ⟨members, text, isRecord_object_iff.mpr ⟨entries, hnamed, hallows, hfill⟩, htail, hbytes⟩

/-- A record is recognized when its members are, if their names are distinct and the last of them
cannot be absent. -/
theorem Shape.recognizes (hmembers : shape.members = bindings.map (·.member))
    (hdistinct : (bindings.map (·.field.name)).Nodup) (hrequired : EndsRequired bindings) :
    Recognizes shape.read (.record (bindings.map (·.value)))
      (Tree.IsRecord .once (bindings.map (·.field))) where
  skips bytes := by
    rw [Shape.read, Shape.read, skipBlanks_skipBlanks]
  sound {bytes rest} h := by
    rw [Shape.read] at h
    split at h
    · next hblanks =>
      rw [hmembers] at h
      rcases Outcome.bind_eq_ok_iff.mp h with ⟨⟨values, behind⟩, hvalues, h⟩
      rcases Outcome.bind_eq_ok_iff.mp h with ⟨last, hend, hrecord⟩
      cases hrecord
      rcases exists_items hrequired hvalues hend with ⟨items, text, hfits, htail, rfl⟩
      rcases exists_front (writes_list_iff.mpr ⟨text, htail, rfl⟩) hblanks with
        ⟨front, hwrites, hbytes⟩
      exact ⟨.list items, front, hfits, hwrites, hbytes⟩
    · next hblanks =>
      rw [hmembers, ← slotsOf_nil] at h
      rcases Outcome.bind_eq_ok_iff.mp h with ⟨⟨slots, behind⟩, hslots, h⟩
      rcases Outcome.bind_eq_ok_iff.mp h with ⟨values, hfill, hrecord⟩
      cases hrecord
      rcases exists_object hdistinct hslots hfill with ⟨members, text, hfits, htail, rfl⟩
      rcases exists_front (writes_object_iff.mpr ⟨text, htail, rfl⟩) hblanks with
        ⟨front, hwrites, hbytes⟩
      exact ⟨.object members, front, hfits, hwrites, hbytes⟩
    · cases h
  complete {tree form rest} hfits hwrites _ := by
    cases tree with
    | list items =>
      rcases writes_list_iff.mp hwrites with ⟨text, htail, rfl⟩
      rcases readItems_append shape.expectedItems 0 hfits htail rest with ⟨behind, hvalues, hend⟩
      simp only [Shape.read, List.cons_append, skipBlanks_cons (rfl : isBlank 91 = false), hmembers,
        hvalues, hend, Outcome.ok_bind]
      rfl
    | object members =>
      rcases writes_object_iff.mp hwrites with ⟨text, htail, rfl⟩
      rcases isRecord_object_iff.mp hfits with ⟨entries, hnamed, hallows, hfill⟩
      have hfuel : members.length < (text ++ rest).length + 1 := by
        have hlength := htail.length_lt fun _ _ h => Writes.length_pos h
        rw [List.length_append]
        omega
      have hread := readMembers_append hdistinct htail hnamed hallows hfuel rest
      simp only [Shape.read, List.cons_append, skipBlanks_cons (rfl : isBlank 123 = false),
        hmembers, ← slotsOf_nil, hread, List.nil_append, hfill, Outcome.ok_bind]
      rfl
    | _ => exact hfits.elim

end Records

end Json
end Possession

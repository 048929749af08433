import Possession.Json.Record
import Possession.Proofs.Json.Unambiguous

/-!
# Rows of items and of members

Lists and objects are read from their inside: of what is left of a row, one item is read after the
other, each behind a comma but the first, and then the closing bracket. `Tail` relates what is left
to the items that are left; for the inside of a whole list or object it is the grammar.
-/

namespace Possession
namespace Json

variable {α : Type} {IsPart : α → Bytes → Prop} {close : UInt8} {first : Bool}
  {bytes rest gap : Bytes}

/-- What stands in front of an item: a comma, unless it is the first one. -/
def mark (first : Bool) : Bytes :=
  if first then [] else [44]

/-- Items with commas between them, one at least. -/
inductive Row (IsPart : α → Bytes → Prop) : List α → Bytes → Prop where
  | one {item : α} {text : Bytes} : IsPart item text → Row IsPart [item] text
  | more {item : α} {items : List α} {text rest : Bytes} : IsPart item text →
      Row IsPart items rest → Row IsPart (item :: items) (text ++ 44 :: rest)

/-- What is left of a row of items, with the bracket that closes it. -/
inductive Tail (IsPart : α → Bytes → Prop) (close : UInt8) : Bool → List α → Bytes → Prop where
  | done {first : Bool} {gap : Bytes} : Blanks gap → Tail IsPart close first [] (gap ++ [close])
  | next {first : Bool} {item : α} {items : List α} {gap text tail : Bytes} : Blanks gap →
      IsPart item text → Tail IsPart close false items tail →
      Tail IsPart close first (item :: items) (gap ++ (mark first ++ (text ++ tail)))

/-- Blanks may stand around an item. -/
structure Padded (IsPart : α → Bytes → Prop) : Prop where
  front : ∀ {item : α} {gap text : Bytes}, Blanks gap → IsPart item text →
    IsPart item (gap ++ text)
  back : ∀ {item : α} {gap text : Bytes}, Blanks gap → IsPart item text →
    IsPart item (text ++ gap)

namespace Tail

variable {items : List α} {tail : Bytes}

/-- Blanks may stand in front of what is left. -/
theorem front (hgap : Blanks gap) (h : Tail IsPart close first items tail) :
    Tail IsPart close first items (gap ++ tail) := by
  cases h with
  | done hblanks =>
    rw [← List.append_assoc]
    exact .done (hgap.append hblanks)
  | next hblanks hitem htail =>
    rw [← List.append_assoc]
    exact .next (hgap.append hblanks) hitem htail

/-- The first item that is left may have a comma in front of it. -/
theorem comma (hpadded : Padded IsPart) {item : α}
    (h : Tail IsPart close true (item :: items) tail) :
    Tail IsPart close false (item :: items) (44 :: tail) := by
  cases h with
  | @next _ _ _ gap text tail hblanks hitem htail =>
    have hnext : Tail IsPart close false (item :: items) ([] ++ ([44] ++ (gap ++ text ++ tail))) :=
      .next .nil (hpadded.front hblanks hitem) htail
    rw [List.append_assoc] at hnext
    exact hnext

/-- A row of items is left when nothing of it is read. -/
theorem of_row (hpadded : Padded IsPart) {text : Bytes} (h : Row IsPart items text) :
    Tail IsPart close true items (text ++ [close]) := by
  induction h with
  | one hitem =>
    exact .next .nil hitem (.done .nil)
  | more hitem hmore ih =>
    rw [List.append_assoc]
    -- the row that follows is not empty, so there is an item for the comma to stand before
    cases hmore with
    | one => exact .next .nil hitem (ih.comma hpadded)
    | more => exact .next .nil hitem (ih.comma hpadded)

/-- What is left of a row is a row, behind a comma or not, or it is the bracket. -/
theorem exists_row (hpadded : Padded IsPart) (h : Tail IsPart close first items tail) :
    ∃ gap, Blanks gap ∧ (items = [] ∧ tail = gap ++ [close] ∨
      ∃ text, Row IsPart items text ∧ tail = gap ++ (mark first ++ (text ++ [close]))) := by
  induction h with
  | done hgap => exact ⟨_, hgap, .inl ⟨rfl, rfl⟩⟩
  | next hgap hitem _ ih =>
    refine ⟨_, hgap, .inr ?_⟩
    -- the blanks in front of the next comma, or of the bracket, go to this item
    rcases ih with ⟨back, hback, ⟨rfl, rfl⟩ | ⟨text, hrow, rfl⟩⟩
    · refine ⟨_, .one (hpadded.back hback hitem), ?_⟩
      rw [List.append_assoc]
    · refine ⟨_, .more (hpadded.back hback hitem) hrow, ?_⟩
      simp only [mark, Bool.false_eq_true, if_false, List.append_assoc, List.cons_append,
        List.nil_append]

theorem endsNumber (hclose : Ends close) (h : Tail IsPart close false items tail) (rest : Bytes) :
    EndsNumber (tail ++ rest) := by
  cases h with
  | done hgap =>
    rw [List.append_assoc]
    exact endsNumber_gap hgap (endsNumber_cons hclose rest)
  | next hgap =>
    rw [List.append_assoc]
    exact endsNumber_gap hgap (endsNumber_cons (.inl rfl) _)

/-- Each item takes an octet at least. -/
theorem length_lt (hpos : ∀ item text, IsPart item text → 0 < text.length)
    (h : Tail IsPart close first items tail) : items.length < tail.length := by
  induction h with
  | done =>
    rw [List.length_append]
    exact Nat.succ_pos _
  | next _ hitem _ ih =>
    have hlength := hpos _ _ hitem
    simp only [List.length_cons, List.length_append]
    omega

end Tail

/-! ## Lists and objects -/

/-- The items of a list. -/
def IsItem (tree : Tree) (bytes : Bytes) : Prop :=
  Writes (.element tree) bytes

/-- The members of an object. -/
def IsMember (member : Bytes × Tree) (bytes : Bytes) : Prop :=
  Writes (.member member.1 member.2) bytes

theorem padded_item : Padded IsItem where
  front hgap h := Writes.element_front hgap h
  back hgap h := Writes.element_back hgap h

theorem padded_member : Padded IsMember where
  front hgap h := Writes.member_front hgap h
  back {member gap text} hgap h := by
    rcases member with ⟨name, tree⟩
    cases h with
    | member hfront hname hback helement =>
      have hmember := Writes.member hfront hname hback (helement.element_back hgap)
      simpa only [IsMember, List.append_assoc, List.cons_append] using hmember

theorem writes_elements_iff {trees : List Tree} :
    Writes (.elements trees) bytes ↔ Row IsItem trees bytes := by
  constructor
  · intro h
    induction trees generalizing bytes with
    | nil => cases h
    | cons tree trees ih =>
      cases h with
      | lastElement helement => exact .one helement
      | moreElements helement hmore => exact .more helement (ih hmore)
  · intro h
    induction h with
    | one hitem => exact .lastElement hitem
    | more hitem _ ih => exact .moreElements hitem ih

theorem writes_members_iff {members : List (Bytes × Tree)} :
    Writes (.members members) bytes ↔ Row IsMember members bytes := by
  constructor
  · intro h
    induction members generalizing bytes with
    | nil => cases h
    | cons member members ih =>
      cases h with
      | lastMember hmember => exact .one hmember
      | moreMembers hmember hmore => exact .more hmember (ih hmore)
  · intro h
    induction h with
    | one hmember => exact .lastMember hmember
    | more hmember _ ih => exact .moreMembers hmember ih

/-- A list is a bracket and what is left behind it. -/
theorem writes_list_iff {items : List Tree} :
    Writes (.value (.list items)) bytes ↔
      ∃ tail, Tail IsItem 93 true items tail ∧ bytes = 91 :: tail := by
  constructor
  · intro h
    cases h with
    | emptyList hgap => exact ⟨_, .done hgap, rfl⟩
    | list helements =>
      exact ⟨_, .of_row padded_item (writes_elements_iff.mp helements), rfl⟩
  · rintro ⟨tail, htail, rfl⟩
    rcases htail.exists_row padded_item with ⟨gap, hgap, ⟨rfl, rfl⟩ | ⟨text, hrow, rfl⟩⟩
    · exact .emptyList hgap
    · have helements := (writes_elements_iff.mpr hrow).elements_front hgap
      have hlist := Writes.list helements
      rw [List.append_assoc] at hlist
      exact hlist

/-- An object is a bracket and what is left behind it. -/
theorem writes_object_iff {members : List (Bytes × Tree)} :
    Writes (.value (.object members)) bytes ↔
      ∃ tail, Tail IsMember 125 true members tail ∧ bytes = 123 :: tail := by
  constructor
  · intro h
    cases h with
    | emptyObject hgap => exact ⟨_, .done hgap, rfl⟩
    | object hmembers =>
      exact ⟨_, .of_row padded_member (writes_members_iff.mp hmembers), rfl⟩
  · rintro ⟨tail, htail, rfl⟩
    rcases htail.exists_row padded_member with ⟨gap, hgap, ⟨rfl, rfl⟩ | ⟨text, hrow, rfl⟩⟩
    · exact .emptyObject hgap
    · have hmembers := (writes_members_iff.mpr hrow).members_front hgap
      have hobject := Writes.object hmembers
      rw [List.append_assoc] at hobject
      exact hobject

end Json
end Possession

import Possession.Json.Record
import Possession.Proofs.Outcome

/-!
# Values that records have

Whatever octets a record is read from, each of its values was answered by the reader of its member
or stands for a member that is absent. So what a reader promises of its answers holds of the values
of every record.
-/

namespace Possession
namespace Json

/-! ## Admitted values -/

/-- The values that a member may have: what its reader answers and what stands for it when it is
absent. -/
def Member.Admits (member : Member) (value : Value) : Prop :=
  (∃ bytes rest, member.read bytes = .ok (value, rest)) ∨ member.absent = some value

/-- Slots hold only values that their members may have. -/
def SlotsAdmitted (members : List Member) (slots : Slots) : Prop :=
  ∀ (index : Nat) (member : Member) (value : Value), members[index]? = some member →
    slots[index]? = some (some value) → member.Admits value

/-- Values are values that their members may have. -/
def ValuesAdmitted (members : List Member) (values : List Value) : Prop :=
  ∀ (index : Nat) (value : Value), values[index]? = some value →
      ∃ member, members[index]? = some member ∧ member.Admits value

theorem ValuesAdmitted.nil (members : List Member) : ValuesAdmitted members [] := by
  intro index value hvalue
  cases hvalue

theorem ValuesAdmitted.cons {members : List Member} {values : List Value} {member : Member}
    {value : Value} (hvalue : member.Admits value) (h : ValuesAdmitted members values) :
    ValuesAdmitted (member :: members) (value :: values) := by
  intro index found hfound
  cases index with
  | zero =>
    cases hfound
    exact ⟨member, rfl, hvalue⟩
  | succ index => exact h index found hfound

/-! ## Reading -/

theorem readInteger_bounds {expected : String} {low high number : Int} {bytes rest : Bytes}
    (h : readInteger expected low high bytes = .ok (.integer number, rest)) :
    low ≤ number ∧ number ≤ high := by
  simp only [readInteger] at h
  split at h
  · split at h
    · simp only [Outcome.bind_eq_ok_iff] at h
      rcases h with ⟨⟨found, behind⟩, -, h⟩
      split at h
      · split at h
        · rename_i hbounds
          cases h
          exact hbounds
        · cases h
      · cases h
    · cases h
  · cases h

theorem readItems_admitted {expected : String} {index : Nat} {members : List Member}
    {bytes rest : Bytes} {values : List Value}
    (h : readItems expected index members bytes = .ok (values, rest)) :
    ValuesAdmitted members values := by
  induction members generalizing index bytes rest values with
  | nil =>
    cases h
    exact ValuesAdmitted.nil []
  | cons member members ih =>
    simp only [readItems, Outcome.bind_eq_ok_iff] at h
    rcases h with ⟨⟨more, ahead⟩, -, h⟩
    cases more with
    -- the value is there and is read
    | true =>
      simp only [if_true, Outcome.bind_eq_ok_iff] at h
      rcases h with ⟨⟨value, behind⟩, hread, ⟨others, last⟩, hothers, hvalues⟩
      cases hvalues
      exact ValuesAdmitted.cons (Or.inl ⟨ahead, behind, hread⟩) (ih hothers)
    -- the array has ended: what stands for the absent value, if anything does
    | false =>
      simp only [Bool.false_eq_true, if_false] at h
      split at h
      · rename_i value habsent
        simp only [Outcome.bind_eq_ok_iff] at h
        rcases h with ⟨⟨others, last⟩, hothers, hvalues⟩
        cases hvalues
        exact ValuesAdmitted.cons (Or.inr habsent) (ih hothers)
      · cases h

theorem SlotsAdmitted.set {members : List Member} {slots : Slots}
    (h : SlotsAdmitted members slots) {index : Nat} {member : Member} {value : Value}
    (hmember : members[index]? = some member) (hvalue : member.Admits value) :
    SlotsAdmitted members (slots.set index (some value)) := by
  intro other found held hfound hheld
  rw [List.getElem?_set] at hheld
  -- only the slot that is set has a new value
  by_cases hsame : index = other
  · subst hsame
    rw [if_pos rfl] at hheld
    split at hheld
    · rw [hmember] at hfound
      cases hfound
      cases hheld
      exact hvalue
    · cases hheld
  · rw [if_neg hsame] at hheld
    exact h other found held hfound hheld

theorem readMembers_admitted {members : List Member} {fuel : Nat} {first : Bool}
    {slots filled : Slots} {bytes rest : Bytes} (hslots : SlotsAdmitted members slots)
    (h : readMembers members fuel first slots bytes = .ok (filled, rest)) :
    SlotsAdmitted members filled := by
  -- along the members read; the slots filled so far are the invariant
  induction fuel generalizing first slots bytes with
  | zero => cases h
  | succ fuel ih =>
    simp only [readMembers, Outcome.bind_eq_ok_iff] at h
    rcases h with ⟨⟨more, ahead⟩, -, h⟩
    cases more with
    | false =>
      cases h
      exact hslots
    | true =>
      simp only [Bool.not_true, Bool.false_eq_true, if_false, Outcome.bind_eq_ok_iff] at h
      rcases h with ⟨⟨name, behind⟩, -, h⟩
      split at h
      -- a name of no member is skipped with its value
      · simp only [Outcome.bind_eq_ok_iff] at h
        rcases h with ⟨colon, -, last, -, h⟩
        exact ih hslots h
      · rename_i index hindex
        split at h
        · cases h
        · simp only [Outcome.bind_eq_ok_iff] at h
          rcases h with ⟨colon, -, h⟩
          split at h
          · cases h
          · rename_i member hmember
            simp only [Outcome.bind_eq_ok_iff] at h
            rcases h with ⟨⟨value, last⟩, hread, h⟩
            exact ih (hslots.set hmember (Or.inl ⟨colon, last, hread⟩)) h

theorem fillSlots_admitted {members : List Member} {slots : Slots} {values : List Value}
    (hslots : SlotsAdmitted members slots) (h : fillSlots members slots = .ok values) :
    ValuesAdmitted members values := by
  induction members generalizing slots values with
  | nil =>
    cases h
    exact ValuesAdmitted.nil []
  | cons member members ih =>
    cases slots with
    | nil =>
      cases h
      exact ValuesAdmitted.nil (member :: members)
    | cons slot slots =>
      have htail : SlotsAdmitted members slots := fun index => hslots (index + 1)
      cases slot with
      | some value =>
        simp only [fillSlots, Outcome.bind_eq_ok_iff] at h
        rcases h with ⟨others, hothers, hvalues⟩
        cases hvalues
        exact (ih htail hothers).cons (hslots 0 member value rfl rfl)
      -- an empty slot gets what stands for its member
      | none =>
        cases habsent : member.absent with
        | some value =>
          simp only [fillSlots, habsent, Outcome.bind_eq_ok_iff] at h
          rcases h with ⟨others, hothers, hvalues⟩
          cases hvalues
          exact (ih htail hothers).cons (Or.inr habsent)
        | none => simp [fillSlots, habsent] at h

/-- A shape answers a record whose values are values that its members may have. -/
theorem Shape.read_admitted {shape : Shape} {bytes rest : Bytes} {value : Value}
    (h : shape.read bytes = .ok (value, rest)) :
    ∃ values, value = .record values ∧ ValuesAdmitted shape.members values := by
  rw [Shape.read] at h
  split at h
  · simp only [Outcome.bind_eq_ok_iff] at h
    rcases h with ⟨⟨values, behind⟩, hvalues, last, -, hrecord⟩
    cases hrecord
    exact ⟨values, rfl, readItems_admitted hvalues⟩
  · simp only [Outcome.bind_eq_ok_iff] at h
    rcases h with ⟨⟨slots, behind⟩, hslots, values, hvalues, hrecord⟩
    cases hrecord
    -- no slot is filled before the first member
    have hnone : SlotsAdmitted shape.members (shape.members.map fun _ => none) := by
      intro index member found _ hfound
      rw [List.getElem?_map] at hfound
      cases hmember : shape.members[index]? <;> rw [hmember] at hfound <;> cases hfound
    exact ⟨values, rfl, fillSlots_admitted (readMembers_admitted hnone hslots) hvalues⟩
  · cases h

theorem readWholeText_admitted {shape : Shape} {bytes : Bytes} {value : Value}
    (h : readWholeText shape.read bytes = .ok value) :
    ∃ values, value = .record values ∧ ValuesAdmitted shape.members values := by
  simp only [readWholeText, Outcome.bind_eq_ok_iff] at h
  rcases h with ⟨⟨found, rest⟩, hread, h⟩
  split at h
  · cases h
    exact Shape.read_admitted hread
  · cases h

end Json
end Possession

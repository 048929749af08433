import Possession.Proofs.Json.Shapes

/-!
# Readers that settle repeated names in other ways

A reader of objects that takes the first of several members of a name, or the last one, reads what
is read here from every object that is accepted here, as no name of a field occurs twice. It reads
nothing else from it either: what a tree stands for is told by the tree.
-/

namespace Possession
namespace Json

variable {settle : Settling} {tree : Tree} {fields others : List Field}

/-! ## What a tree stands for -/

theorem Tree.IsText.unique {value other : String} (h : tree.IsText value)
    (hother : tree.IsText other) : value = other := by
  rcases h with ⟨body, rfl, hbody⟩
  rcases hother with ⟨_, heq, hother⟩
  cases heq
  exact hbody.unique hother

theorem Tree.IsInteger.unique {value other : Int} (h : tree.IsInteger value)
    (hother : tree.IsInteger other) : value = other := by
  rcases h with ⟨numeral, rfl, hnumeral⟩
  rcases hother with ⟨_, heq, hother⟩
  cases heq
  exact hnumeral.unique hother

theorem Tree.Named.unique {members : List (Bytes × Tree)} {entries entries' : List (String × Tree)}
    (h : Tree.Named members entries) (h' : Tree.Named members entries') : entries = entries' := by
  induction h generalizing entries' with
  | nil =>
    cases h'
    rfl
  | @cons member entry members entries hentry _ ih =>
    cases h' with
    | @cons _ entry' _ entries' hentry' h' =>
      have hname := hentry.1.unique hentry'.1
      have htree := hentry.2.symm.trans hentry'.2
      rw [Prod.ext hname htree, ih h']

/-! ## Two records of one tree -/

/-- Whether two fields are of the same name and may be told from one another by what is taken for
them only. -/
def Field.Meets (field other : Field) : Prop :=
  ∃ taken, field.Takes taken ∧ other.Takes taken

/-- Fields of the same names that a tree has both hold what is taken. -/
theorem Tree.IsRecord.meets (h : tree.IsRecord settle fields) (hother : tree.IsRecord settle others)
    (hnames : fields.map (·.name) = others.map (·.name)) :
    List.Forall₂ Field.Meets fields others := by
  rw [← List.forall₂_eq_eq_eq, List.forall₂_map_left_iff, List.forall₂_map_right_iff] at hnames
  cases tree with
  | list items =>
    induction hnames generalizing items with
    | nil => exact .nil
    | cons _ _ ih =>
      cases h with
      | cons hfits hfields =>
        cases hother with
        | cons hfits' hothers =>
          exact .cons ⟨some _, hfits, hfits'⟩ (ih _ hfields hothers)
  | object members =>
    rcases h with ⟨entries, hnamed, h⟩
    rcases hother with ⟨entries', hnamed', hother⟩
    -- names are read in one way only, so both records take from the same entries
    cases hnamed.unique hnamed'
    induction hnames with
    | nil => exact .nil
    | cons hname _ ih =>
      rw [List.forall_mem_cons] at h hother
      rcases h with ⟨⟨taken, hsettle, htakes⟩, hfields⟩
      rcases hother with ⟨⟨taken', hsettle', htakes'⟩, hothers⟩
      rw [hname, hsettle'] at hsettle
      cases hsettle
      exact .cons ⟨_, htakes, htakes'⟩ (ih hfields hothers)
  | _ => exact h.elim

/-! ## Other ways to settle -/

/-- Whether one way to settle takes what another one takes. -/
def Settling.Agrees (strict loose : Settling) : Prop :=
  ∀ trees taken, strict trees = some taken → loose trees = some taken

theorem Settling.agrees_first : Settling.Agrees .once .first := by
  intro trees taken h
  match trees with
  | [] => exact h
  | [tree] => exact h
  | _ :: _ :: _ => cases h

theorem Settling.agrees_last : Settling.Agrees .once .last := by
  intro trees taken h
  match trees with
  | [] => exact h
  | [tree] => exact h
  | _ :: _ :: _ => cases h

/-- Whether a field holds what another one of the same name holds. -/
structure Field.Implies (field other : Field) : Prop where
  name : field.name = other.name
  fits : ∀ tree, field.Fits tree → other.Fits tree
  none : field.FitsNone → other.FitsNone

theorem Field.Implies.takes {field other : Field} (h : field.Implies other) {taken : Option Tree}
    (htakes : field.Takes taken) : other.Takes taken := by
  cases taken with
  | none => exact h.none htakes
  | some tree => exact h.fits tree htakes

theorem Tree.IsRecord.mono {loose : Settling} (hsettle : settle.Agrees loose)
    (hfields : List.Forall₂ Field.Implies fields others) (h : tree.IsRecord settle fields) :
    tree.IsRecord loose others := by
  cases tree with
  | list items =>
    induction hfields generalizing items with
    | nil => exact h
    | cons hfield _ ih =>
      cases h with
      | cons hfits hothers => exact .cons (hfield.fits _ hfits) (ih _ hothers)
  | object members =>
    rcases h with ⟨entries, hnamed, h⟩
    refine ⟨entries, hnamed, ?_⟩
    induction hfields with
    | nil => exact nofun
    | cons hfield _ ih =>
      rw [List.forall_mem_cons] at h ⊢
      rcases h with ⟨⟨taken, htaken, htakes⟩, hothers⟩
      refine ⟨⟨taken, ?_, hfield.takes htakes⟩, ih hothers⟩
      rw [← hfield.name]
      exact hsettle _ _ htaken
  | _ => exact h.elim

/-! ## Fields that are told by what is taken -/

theorem Field.Implies.refl (field : Field) : field.Implies field :=
  ⟨rfl, fun _ => id, id⟩

theorem Field.Implies.refl_fields (fields : List Field) :
    List.Forall₂ Field.Implies fields fields :=
  List.forall₂_same.mpr fun field _ => .refl field

theorem Field.text_of_meets {name name' value other : String}
    (h : (Field.text name value).Meets (.text name' other)) : value = other := by
  rcases h with ⟨_ | tree, hvalue, hother⟩
  · exact hvalue.elim
  · exact Tree.IsText.unique hvalue hother

theorem Field.optional_of_meets {name name' : String} {value other : Option String}
    (h : (Field.optional name value).Meets (.optional name' other)) : value = other := by
  rcases h with ⟨_ | tree, hvalue, hother⟩
  · exact hvalue.trans hother.symm
  · cases value with
    | none =>
      cases other with
      | none => rfl
      | some other =>
        cases hvalue
        rcases hother with ⟨_, heq, _⟩
        cases heq
    | some value =>
      cases other with
      | none =>
        cases hother
        rcases hvalue with ⟨_, heq, _⟩
        cases heq
      | some other => exact congrArg some (Tree.IsText.unique hvalue hother)

theorem Field.integer_of_meets {name name' : String} {low high low' high' value other : Int}
    (h : (Field.integer name low high value).Meets (.integer name' low' high' other)) :
    value = other := by
  rcases h with ⟨_ | tree, hvalue, hother⟩
  · exact hvalue.elim
  · exact hvalue.1.unique hother.1

/-- Records of one name are of one tree. -/
theorem Field.record_of_meets {name name' : String}
    (h : (Field.record settle name fields).Meets (.record settle name' others)) :
    ∃ tree : Tree, tree.IsRecord settle fields ∧ tree.IsRecord settle others := by
  rcases h with ⟨_ | tree, hvalue, hother⟩
  · exact hvalue.elim
  · exact ⟨tree, hvalue, hother⟩

theorem Field.implies_record {loose : Settling} (name : String) (hsettle : settle.Agrees loose)
    (hfields : List.Forall₂ Field.Implies fields others) :
    (Field.record settle name fields).Implies (.record loose name others) :=
  ⟨rfl, fun _ h => h.mono hsettle hfields, id⟩

end Json
end Possession

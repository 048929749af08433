import Possession.Algorithm
import Possession.Proofs.Rsa.Signature
import Possession.Proofs.Text.Split

/-!
# Algorithms

A header names an algorithm by its own name and nothing else; elsewhere either name will do, in
letters of any case and with blanks around it. Every signature that a key gives out with an
algorithm verifies with that algorithm.
-/

namespace Possession
namespace Algorithm

/-! ## Names -/

theorem mem_all (algorithm : Algorithm) : algorithm ∈ all := by
  rcases algorithm with ⟨padding, digest⟩
  cases padding <;> cases digest <;> decide

theorem name_injective {left right : Algorithm} (h : left.name = right.name) : left = right := by
  have hall : ∀ first ∈ all, ∀ second ∈ all, first.name = second.name → first = second := by
    decide
  exact hall left (mem_all left) right (mem_all right) h

/-- A search among all algorithms for what only one of them can be. -/
theorem find?_all_eq_some_iff {wanted : Algorithm → Bool} {algorithm : Algorithm}
    (hunique : ∀ {left right}, wanted left = true → wanted right = true → left = right) :
    all.find? wanted = some algorithm ↔ wanted algorithm = true := by
  constructor
  · exact List.find?_some
  · intro h
    cases hresult : all.find? wanted with
    | none =>
      have hnone := List.find?_eq_none.mp hresult algorithm (mem_all algorithm)
      exact absurd h hnone
    | some found => rw [hunique (List.find?_some hresult) h]

theorem ofHeader?_eq_some_iff {text : String} {algorithm : Algorithm} :
    ofHeader? text = some algorithm ↔ text = algorithm.name := by
  rw [ofHeader?, find?_all_eq_some_iff, beq_iff_eq, eq_comm]
  intro left right hleft hright
  exact name_injective ((beq_iff_eq.mp hleft).trans (beq_iff_eq.mp hright).symm)

/-- One of the two names of an algorithm, in capitals. -/
def Capitals (algorithm : Algorithm) (wanted : String) : Prop :=
  wanted = Ascii.upper algorithm.name ∨ wanted = Ascii.upper algorithm.keystoreName

/-- A text that names an algorithm for whoever does not insist on the name of the header. -/
def IsNamed (algorithm : Algorithm) (text : String) : Prop :=
  ∃ front name back, text.toList = front ++ name ++ back ∧
    (∀ c ∈ front, Text.isBlank c = true) ∧ (∀ c ∈ back, Text.isBlank c = true) ∧
    algorithm.Capitals (Ascii.upper (String.ofList name))

theorem upper_name (algorithm : Algorithm) : Ascii.upper algorithm.name = algorithm.name := by
  have hall : ∀ algorithm ∈ all, Ascii.upper algorithm.name = algorithm.name := by decide
  exact hall algorithm (mem_all algorithm)

/-- No two algorithms have a name in common. -/
theorem Capitals.eq {left right : Algorithm} {wanted : String} (hleft : left.Capitals wanted)
    (hright : right.Capitals wanted) : left = right := by
  have hall : ∀ first ∈ all, ∀ second ∈ all,
      (Ascii.upper first.name = Ascii.upper second.name ∨
        Ascii.upper first.name = Ascii.upper second.keystoreName ∨
        Ascii.upper first.keystoreName = Ascii.upper second.name ∨
        Ascii.upper first.keystoreName = Ascii.upper second.keystoreName) → first = second := by
    decide
  apply hall left (mem_all left) right (mem_all right)
  rcases hleft with rfl | rfl
  · exact hright.imp id .inl
  · exact .inr (.inr hright)

theorem ofName?_eq_some_iff {text : String} {algorithm : Algorithm} :
    ofName? text = some algorithm ↔ algorithm.Capitals (Ascii.upper (Text.trim text)) := by
  generalize hwanted : Ascii.upper (Text.trim text) = wanted
  have hfound (other : Algorithm) : (other.name == wanted ||
      Ascii.upper other.keystoreName == wanted) = true ↔ other.Capitals wanted := by
    rw [Bool.or_eq_true, beq_iff_eq, beq_iff_eq, Capitals, upper_name, eq_comm (a := wanted),
      eq_comm (a := wanted)]
  rw [ofName?, hwanted, find?_all_eq_some_iff, hfound]
  intro left right hleft hright
  exact ((hfound left).mp hleft).eq ((hfound right).mp hright)

/-- No name of an algorithm has a blank in it, whatever the case of its letters. -/
theorem not_isBlank_of_upper {algorithm : Algorithm} {name : List Char}
    (h : algorithm.Capitals (Ascii.upper (String.ofList name))) :
    ∀ c ∈ name, Text.isBlank c = false := by
  have hall : ∀ algorithm ∈ all,
      ((Ascii.upper algorithm.name).toList.all fun c => !Text.isBlank c) ∧
        (Ascii.upper algorithm.keystoreName).toList.all fun c => !Text.isBlank c := by
    decide
  rcases hall algorithm (mem_all algorithm) with ⟨hname, hkeystore⟩
  simp only [List.all_eq_true, Bool.not_eq_true'] at hname hkeystore
  intro c hc
  -- A blank is no letter, so it would be in the capitals too.
  have hraised : c.toUpper ∈ (Ascii.upper (String.ofList name)).toList := by
    rw [Ascii.upper, String.toList_ofList, String.toList_ofList]
    exact List.mem_map_of_mem hc
  have hplain : Text.isBlank c.toUpper = false := by
    rcases h with heq | heq
    · exact hname _ (heq ▸ hraised)
    · exact hkeystore _ (heq ▸ hraised)
  by_cases hletter : 97 ≤ c.toNat ∧ c.toNat ≤ 122
  · simp only [Text.isBlank, Bool.or_eq_false_iff, Bool.and_eq_false_iff, decide_eq_false_iff_not,
      beq_eq_false_iff_ne]
    omega
  · have hsame : c.toUpper = c := dif_neg hletter
    rwa [hsame] at hplain

/-- What is accepted as the name of an algorithm. -/
theorem parse_eq_ok_iff {text : String} {algorithm : Algorithm} :
    parse text = .ok algorithm ↔ algorithm.IsNamed text := by
  have hparse : parse text = .ok algorithm ↔ ofName? text = some algorithm := by
    rw [parse]
    cases ofName? text <;> simp
  rw [hparse, ofName?_eq_some_iff]
  constructor
  · intro h
    rcases Text.exists_append_stripChars Text.isBlank text.toList with
      ⟨front, back, happend, hfront, hback⟩
    exact ⟨front, _, back, happend, hfront, hback, h⟩
  · rintro ⟨front, name, back, happend, hfront, hback, hname⟩
    have hplain := not_isBlank_of_upper hname
    rw [Text.trim, happend, Text.stripChars_append hfront hplain hback]
    exact hname

/-! ## Signatures -/

/-- A signature given out by a key has the size of the key and verifies. -/
theorem verify_sign {algorithm : Algorithm} {key : Rsa.PrivateKey} {salt message signature : Bytes}
    (hmodulus : 0 < key.modulus)
    (hsalt : algorithm.padding = .salted → salt.length = algorithm.saltSize)
    (h : algorithm.sign key salt message = .ok signature) :
    signature.length = key.publicKey.size ∧
      algorithm.verify key.publicKey message signature := by
  rcases algorithm with ⟨padding, digest⟩
  cases padding with
  | deterministic => exact Rsa.Deterministic.verify_sign hmodulus h
  | salted => exact Rsa.Salted.verify_sign hmodulus (hsalt rfl) h

end Algorithm
end Possession

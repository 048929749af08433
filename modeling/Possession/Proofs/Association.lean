/-!
# Association lists

Looking up in a list of pairs from which the pairs of one key have been removed, which is how stores
and file trees forget and replace what they hold.
-/

namespace Possession

variable {α β : Type} [BEq α] [LawfulBEq α]

theorem lookup_removed (items : List (α × β)) (key : α) :
    (items.filter fun item => item.1 != key).lookup key = none := by
  induction items with
  | nil => rfl
  | cons item items ih =>
    by_cases h : item.1 = key
    · simp [h, ih]
    · have hne : (key == item.1) = false := by simpa using Ne.symm h
      rw [List.filter_cons_of_pos (by simpa using h), List.lookup_cons, hne]
      exact ih

theorem lookup_removed_of_ne (items : List (α × β)) {key other : α} (h : other ≠ key) :
    (items.filter fun item => item.1 != key).lookup other = items.lookup other := by
  induction items with
  | nil => rfl
  | cons item items ih =>
    by_cases hkey : item.1 = key
    · have hne : (other == item.1) = false := by simpa [hkey] using h
      rw [List.filter_cons_of_neg (by simpa using hkey), List.lookup_cons, hne]
      exact ih
    · rw [List.filter_cons_of_pos (by simpa using hkey), List.lookup_cons, List.lookup_cons, ih]

end Possession

import Mathlib.Data.List.DropRight
import Mathlib.Data.String.Basic
import Possession.Text.Blank

/-!
# Cutting sequences

A sequence is cut in one way only at the first place where a given element stands, and trimming a
sequence at its ends leaves everything between the elements that are not trimmed.
-/

namespace Possession
namespace Text

variable {α : Type}

theorem bne_of_not_mem [BEq α] [LawfulBEq α] {mark : α} {elements : List α} (h : mark ∉ elements) :
    ∀ c ∈ elements, (c != mark) = true := by
  intro c hc
  rw [bne_iff_ne]
  rintro rfl
  exact h hc

theorem append_cons_inj {mark : α} {left right front back : List α} (hleft : mark ∉ left)
    (hright : mark ∉ right) (h : left ++ mark :: front = right ++ mark :: back) :
    left = right ∧ front = back := by
  -- both sides begin alike until the first mark is reached
  induction left generalizing right with
  | nil =>
    cases right with
    | nil => exact ⟨rfl, (List.cons.inj h).2⟩
    | cons c right =>
      rcases List.cons.inj h with ⟨rfl, -⟩
      exact absurd List.mem_cons_self hright
  | cons c left ih =>
    cases right with
    | nil =>
      rcases List.cons.inj h with ⟨rfl, -⟩
      exact absurd List.mem_cons_self hleft
    | cons d right =>
      rcases List.cons.inj h with ⟨rfl, htail⟩
      obtain ⟨hsame, hrest⟩ := ih (fun hmem => hleft (List.mem_cons_of_mem _ hmem))
        (fun hmem => hright (List.mem_cons_of_mem _ hmem)) htail
      exact ⟨by rw [hsame], hrest⟩

theorem rdropWhile_append_cons {p : α → Bool} {kept : α} (h : p kept = false)
    (front back : List α) :
    (front ++ kept :: back).rdropWhile p = front ++ kept :: back.rdropWhile p := by
  -- from the back, where trimming works
  induction back using List.reverseRecOn with
  | nil => rw [List.rdropWhile_concat_neg _ _ _ (by simp [h]), List.rdropWhile_nil]
  | append_singleton back last ih =>
    have hlast : front ++ kept :: (back ++ [last]) = (front ++ kept :: back) ++ [last] := by simp
    rw [hlast, List.rdropWhile_concat, List.rdropWhile_concat, ih]
    split <;> simp

/-- A run ends where it meets an element that does not belong to it. -/
theorem takeWhile_append_cons {p : α → Bool} {front : List α} {stop : α}
    (hfront : ∀ c ∈ front, p c = true) (hstop : p stop = false) (back : List α) :
    (front ++ stop :: back).takeWhile p = front := by
  rw [List.takeWhile_append_of_pos hfront, List.takeWhile_cons_of_neg (by simp [hstop]),
    List.append_nil]

/-- Either all elements satisfy a condition, or there is a first one that does not. -/
theorem all_or_first (p : α → Bool) (elements : List α) :
    (∀ c ∈ elements, p c = true) ∨ ∃ front stop back, elements = front ++ stop :: back ∧
      (∀ c ∈ front, p c = true) ∧ p stop = false := by
  induction elements with
  | nil => exact Or.inl (by simp)
  | cons c elements ih =>
    cases hc : p c with
    | false => exact Or.inr ⟨[], c, elements, rfl, by simp, hc⟩
    | true =>
      rcases ih with hall | ⟨front, stop, back, rfl, hfront, hstop⟩
      · exact Or.inl (by simpa [hc] using hall)
      · exact Or.inr ⟨c :: front, stop, back, rfl, by simpa [hc] using hfront, hstop⟩

/-- What stands behind the last place of an element. -/
theorem reverse_takeWhile_reverse [BEq α] [LawfulBEq α] {mark : α} {back : List α}
    (h : mark ∉ back) (front : List α) :
    ((front ++ mark :: back).reverse.takeWhile (· != mark)).reverse = back := by
  have hall : ∀ c ∈ back.reverse, (c != mark) = true :=
    bne_of_not_mem (fun hmem => h (List.mem_reverse.mp hmem))
  have hreverse : (front ++ mark :: back).reverse = back.reverse ++ mark :: front.reverse := by
    simp
  rw [hreverse, takeWhile_append_cons hall (by simp), List.reverse_reverse]

/-! ## Trimming at both ends -/

theorem stripChars_append {drop : Char → Bool} {front middle back : List Char}
    (hfront : ∀ c ∈ front, drop c = true) (hmiddle : ∀ c ∈ middle, drop c = false)
    (hback : ∀ c ∈ back, drop c = true) :
    stripChars drop (front ++ middle ++ back) = middle := by
  have hkept {elements rest : List Char} (hall : ∀ c ∈ elements, drop c = false)
      (hne : elements ≠ []) : (elements ++ rest).dropWhile drop = elements ++ rest := by
    rcases List.exists_cons_of_ne_nil hne with ⟨first, more, rfl⟩
    rw [List.cons_append, List.dropWhile_cons_of_neg]
    simp [hall first List.mem_cons_self]
  rw [stripChars, List.append_assoc, List.dropWhile_append_of_pos hfront]
  by_cases hne : middle = []
  · subst hne
    rw [List.nil_append, List.dropWhile_eq_nil_iff.mpr hback]
    rfl
  · have hreversed : ∀ c ∈ middle.reverse, drop c = false := fun c hc =>
      hmiddle c (List.mem_reverse.mp hc)
    have hblank : ∀ c ∈ back.reverse, drop c = true := fun c hc => hback c (List.mem_reverse.mp hc)
    have hkeeps : middle.reverse.dropWhile drop = middle.reverse := by
      have happend := @hkept middle.reverse [] hreversed (by simpa using hne)
      rwa [List.append_nil] at happend
    rw [hkept hmiddle hne, List.reverse_append, List.dropWhile_append_of_pos hblank, hkeeps,
      List.reverse_reverse]

/-- What is trimmed at the ends of a sequence are elements to be trimmed. -/
theorem exists_append_stripChars (drop : Char → Bool) (chars : List Char) :
    ∃ front back, chars = front ++ stripChars drop chars ++ back ∧
      (∀ c ∈ front, drop c = true) ∧ ∀ c ∈ back, drop c = true := by
  let rest := chars.dropWhile drop
  refine ⟨chars.takeWhile drop, (rest.reverse.takeWhile drop).reverse, ?_, ?_, ?_⟩
  · have hrest : stripChars drop chars ++ (rest.reverse.takeWhile drop).reverse = rest := by
      rw [stripChars, ← List.reverse_append, List.takeWhile_append_dropWhile, List.reverse_reverse]
    rw [List.append_assoc, hrest, List.takeWhile_append_dropWhile]
  · exact fun c hc => List.mem_takeWhile_imp hc
  · exact fun c hc => List.mem_takeWhile_imp (List.mem_reverse.mp hc)

/-- What is trimmed once is trimmed. -/
theorem stripChars_stripChars (drop : Char → Bool) (chars : List Char) :
    stripChars drop (stripChars drop chars) = stripChars drop chars := by
  let rest := chars.dropWhile drop
  have hstrip : stripChars drop chars = rest.rdropWhile drop := rfl
  -- what is left of `rest` begins as `rest` does, with an element that is kept
  have hfront : (rest.rdropWhile drop).dropWhile drop = rest.rdropWhile drop := by
    rw [List.dropWhile_eq_self_iff]
    intro hlength
    have hbegins : rest.rdropWhile drop <+: rest := List.rdropWhile_prefix drop rest
    have hrest : 0 < rest.length := Nat.lt_of_lt_of_le hlength hbegins.length_le
    rw [hbegins.getElem hlength]
    exact List.dropWhile_get_zero_not drop chars hrest
  calc
    stripChars drop (stripChars drop chars)
        = ((rest.rdropWhile drop).dropWhile drop).rdropWhile drop := rfl
    _ = (rest.rdropWhile drop).rdropWhile drop := by rw [hfront]
    _ = rest.rdropWhile drop := List.rdropWhile_idempotent drop rest
    _ = stripChars drop chars := hstrip.symm

theorem trim_trim (text : String) : trim (trim text) = trim text := by
  rw [trim, trim, String.toList_ofList, stripChars_stripChars]

/-! ## Pieces -/

section Pieces

variable [BEq α] {mark element : α} {elements piece : List α}

/-- One element more is a mark, behind which all pieces stand, or belongs to the first piece. -/
theorem exists_splitOn_cons (mark first : α) (rest : List α) :
    ∃ piece more, rest.splitOn mark = piece :: more ∧ (first :: rest).splitOn mark =
      if first == mark then [] :: piece :: more else (first :: piece) :: more := by
  rcases List.exists_cons_of_ne_nil (List.splitOn_ne_nil mark rest) with ⟨piece, more, hpieces⟩
  refine ⟨piece, more, hpieces, ?_⟩
  rw [List.splitOn_cons_eq_if_modifyHead, hpieces, List.modifyHead_cons]

variable [LawfulBEq α]

/-- Whatever is no mark is in one of the pieces between the marks. -/
theorem exists_mem_splitOn (hmark : element ≠ mark) (h : element ∈ elements) :
    ∃ piece ∈ elements.splitOn mark, element ∈ piece := by
  induction elements with
  | nil => cases h
  | cons first rest ih =>
    rcases exists_splitOn_cons mark first rest with ⟨piece, more, hpieces, hcons⟩
    rw [hpieces] at ih
    rw [hcons]
    rcases List.mem_cons.mp h with rfl | hmem
    · rw [if_neg (by simpa using hmark)]
      exact ⟨_, List.mem_cons_self, List.mem_cons_self⟩
    · rcases ih hmem with ⟨found, hfound, helement⟩
      split
      · exact ⟨found, List.mem_cons_of_mem _ hfound, helement⟩
      · rcases List.mem_cons.mp hfound with rfl | hmore
        · exact ⟨_, List.mem_cons_self, List.mem_cons_of_mem _ helement⟩
        · exact ⟨found, List.mem_cons_of_mem _ hmore, helement⟩

theorem not_mem_of_mem_splitOn (h : piece ∈ elements.splitOn mark) : mark ∉ piece := by
  induction elements generalizing piece with
  | nil =>
    rw [List.splitOn_nil, List.mem_singleton] at h
    rw [h]
    exact List.not_mem_nil
  | cons first rest ih =>
    rcases exists_splitOn_cons mark first rest with ⟨next, more, hpieces, hcons⟩
    rw [hpieces] at ih
    rw [hcons] at h
    split at h
    · rcases List.mem_cons.mp h with rfl | hmem
      · exact List.not_mem_nil
      · exact ih hmem
    · next hfirst =>
      rcases List.mem_cons.mp h with rfl | hmem
      · rw [List.mem_cons, not_or]
        exact ⟨fun hsame => hfirst (beq_iff_eq.mpr hsame.symm), ih List.mem_cons_self⟩
      · exact ih (List.mem_cons_of_mem _ hmem)

theorem splitOn_eq_three_iff {first second third : List α} :
    elements.splitOn mark = [first, second, third] ↔
      elements = first ++ mark :: (second ++ mark :: third) ∧
        mark ∉ first ∧ mark ∉ second ∧ mark ∉ third := by
  constructor
  · intro h
    have hjoin : [mark].intercalate (elements.splitOn mark) = elements :=
      List.intercalate_splitOn mark
    have hfree {piece : List α} (hpiece : piece ∈ [first, second, third]) : mark ∉ piece :=
      not_mem_of_mem_splitOn (h ▸ hpiece)
    rw [h] at hjoin
    refine ⟨?_, hfree (by simp), hfree (by simp), hfree (by simp)⟩
    rw [← hjoin]
    simp [List.intercalate]
  · rintro ⟨rfl, hfirst, hsecond, hthird⟩
    rw [List.splitOn_append_cons_self_of_not_mem hfirst,
      List.splitOn_append_cons_self_of_not_mem hsecond, List.splitOn_eq_singleton hthird]

end Pieces

/-- Behind characters that are no slash, what is left of a text is not cut any more. -/
theorem splitOnAux_of_notMem (front : List Char) {back : List Char} (h : '/' ∉ back) :
    (String.ofList (front ++ back)).splitOnAux "/" 0 ⟨String.utf8Len front⟩ 0 [] =
      [String.ofList (front ++ back)] := by
  induction back generalizing front with
  | nil =>
    have hend := (String.atEnd_of_valid front []).mpr rfl
    have hwhole := String.extract_of_valid [] front []
    simp only [List.nil_append, String.utf8Len_nil, Nat.zero_add] at hwhole
    rw [String.splitOnAux, if_pos hend]
    exact congrArg (fun text => [text]) (hwhole.trans (by rw [List.append_nil]))
  | cons c back ih =>
    have hend : ¬ String.Pos.Raw.atEnd (String.ofList (front ++ c :: back))
        ⟨String.utf8Len front⟩ = true := by
      rw [String.atEnd_of_valid]
      exact List.cons_ne_nil c back
    have hslash : String.Pos.Raw.get "/" 0 = '/' := by decide
    have hne : ((c :: back).headD default == '/') = false := by
      rw [List.headD_cons, beq_eq_false_iff_ne]
      rintro rfl
      exact h List.mem_cons_self
    have hstay : (⟨String.utf8Len front⟩ : String.Pos.Raw).unoffsetBy 0 =
        ⟨String.utf8Len front⟩ := rfl
    have hrest := ih (front ++ [c]) fun hmem => h (List.mem_cons_of_mem c hmem)
    rw [List.append_assoc, List.singleton_append, String.utf8Len_append] at hrest
    rw [String.splitOnAux, if_neg hend, String.get_of_valid, hslash, hne,
      if_neg Bool.false_ne_true, hstay, String.next_of_valid]
    simpa using hrest

/-- A text without a slash is one piece. -/
theorem splitOn_of_notMem {text : String} (h : '/' ∉ text.toList) : text.splitOn "/" = [text] := by
  have hpieces := splitOnAux_of_notMem [] h
  rw [List.nil_append, String.ofList_toList] at hpieces
  rw [String.splitOn, if_neg (by decide)]
  exact hpieces

end Text
end Possession

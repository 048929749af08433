import Possession.Proofs.Json.Number
import Possession.Proofs.Json.Text

/-!
# JSON records read back

A reader reads back a written form when it answers the value and stops right behind the form. Texts,
integers and records have such readers; for a record it is enough that each written member belongs
to a slot that is still empty and is itself read back.
-/

namespace Possession
namespace Json

/-! ## Readers and written forms -/

/-- A reader answers `value` for a written form, whatever follows that cannot go on with it. -/
def Reads (reader : Reader) (json : String) (value : Value) : Prop :=
  ∀ rest, EndsNumber rest → reader (Utf8.encode json ++ rest) = .ok (value, rest)

theorem endsNumber_cons {byte : UInt8} (h : byte = 44 ∨ byte = 93 ∨ byte = 125) (rest : Bytes) :
    EndsNumber (byte :: rest) := by
  intro next hnext
  have heq : byte = next := by simpa using hnext
  rcases h with rfl | rfl | rfl <;> rw [← heq] <;> decide

theorem skipBlanks_cons {byte : UInt8} (h : isBlank byte = false) (rest : Bytes) :
    skipBlanks (byte :: rest) = byte :: rest := by
  simp [skipBlanks, h]

theorem isBlank_of_isDigit {byte : UInt8} (h : isDigit byte) : isBlank byte = false := by
  rw [Bool.eq_false_iff]
  intro hblank
  simp only [isBlank, Bool.or_eq_true, beq_iff_eq] at hblank
  rcases hblank with ((rfl | rfl) | rfl) | rfl <;> exact absurd h (by decide)

/-- A text is read back by every reader that does not refuse it. -/
theorem reads_textThat (expected : String) {refuse : String → Option String} {text : String}
    (h : refuse text = none) : Reads (readTextThat expected refuse) (writeText text) (.text text) := by
  intro rest _
  rw [encode_writeText, List.append_assoc, List.cons_append, List.singleton_append, readTextThat,
    skipBlanks_cons rfl]
  simp [readText_written, h]

theorem reads_text (text : String) : Reads readAnyText (writeText text) (.text text) :=
  reads_textThat "a string" rfl

theorem reads_nullable {reader : Reader} {json : String} {value : Value}
    (h : Reads reader json value) {first : UInt8} {more : Bytes}
    (hfirst : Utf8.encode json = first :: more) (hblank : isBlank first = false)
    (hnull : first ≠ 110) : Reads (readNullable reader) json value := by
  intro rest hrest
  have hread := h rest hrest
  rw [hfirst, List.cons_append] at hread ⊢
  rw [readNullable, skipBlanks_cons hblank]
  split
  · rename_i heq
    exact absurd (List.cons.inj heq).1 hnull
  · exact hread

theorem reads_nullable_text (text : String) :
    Reads (readNullable readAnyText) (writeText text) (.text text) :=
  reads_nullable (reads_text text) (encode_writeText text) rfl (by decide)

theorem reads_integer (expected : String) {value : Int}
    (hlow : -0x8000_0000_0000_0000 ≤ value) (hhigh : value ≤ 0x7fff_ffff_ffff_ffff) :
    Reads (readInteger expected (-0x8000_0000_0000_0000) 0x7fff_ffff_ffff_ffff) (toString value)
      (.integer value) := by
  intro rest hrest
  have hnumber := readNumber_written hlow hhigh hrest
  obtain ⟨first, more, hfirst, hstart⟩ : ∃ first more,
      Utf8.encode (toString value) = first :: more ∧ (first = 45 ∨ isDigit first) := by
    rw [encode_toString]
    by_cases hnegative : value < 0
    · exact ⟨45, decimalOctets value.natAbs, by simp [hnegative], Or.inl rfl⟩
    · obtain ⟨digit, digits, hdigits⟩ :=
        List.exists_cons_of_ne_nil (decimalOctets_ne_nil value.natAbs)
      have hdigit : isDigit digit := isDigit_of_mem value.natAbs digit (by simp [hdigits])
      exact ⟨digit, digits, by simp [hnegative, hdigits], Or.inr hdigit⟩
  have hblank : isBlank first = false := by
    rcases hstart with rfl | hdigit
    · rfl
    · exact isBlank_of_isDigit hdigit
  rw [hfirst, List.cons_append] at hnumber ⊢
  rw [readInteger, skipBlanks_cons hblank]
  simp only [hstart, if_true, hnumber, Outcome.ok_bind]
  rw [if_pos ⟨hlow, hhigh⟩]
  rfl

/-! ## Members -/

/-- The octets of the members of a record from one of them on, with the end of the record. -/
def memberOctets : (first : Bool) → List (String × String) → Bytes
  | _, [] => [125]
  | first, (name, json) :: members =>
    (if first then [] else [44]) ++ Utf8.encode (writeText name) ++ 58 :: Utf8.encode json ++
      memberOctets false members

theorem memberOctets_false {members : List (String × String)} (h : members ≠ []) :
    memberOctets false members = 44 :: memberOctets true members := by
  cases members with
  | nil => exact absurd rfl h
  | cons member members => simp [memberOctets]

theorem length_le_memberOctets (first : Bool) (members : List (String × String)) :
    members.length < (memberOctets first members).length := by
  induction members generalizing first with
  | nil => simp [memberOctets]
  | cons member members ih =>
    have hrest := ih false
    simp only [memberOctets, List.length_cons, List.length_append]
    omega

/-- A written record is a brace and its members. -/
theorem encode_writeRecord (members : List (String × String)) :
    Utf8.encode (writeRecord members) = 123 :: memberOctets true members := by
  have hopen : Utf8.encode "\x7b" = [123] := by decide
  have hclose : Utf8.encode "\x7d" = [125] := by decide
  have hcomma : Utf8.encode "," = [44] := by decide
  have hcolon : Utf8.encode ":" = [58] := by decide
  rw [writeRecord, Utf8.encode_append, Utf8.encode_append, hopen, hclose, List.append_assoc,
    List.singleton_append]
  congr 1
  -- members are joined by commas when written and led by them when read
  induction members with
  | nil =>
    simp [memberOctets, Utf8.encode]
  | cons member members ih =>
    have hmember : Utf8.encode (writeMember member) =
        Utf8.encode (writeText member.1) ++ 58 :: Utf8.encode member.2 := by
      simp [writeMember, hcolon]
    cases members with
    | nil =>
      simp [memberOctets, hmember]
    | cons next members =>
      have hright : memberOctets true (member :: next :: members) =
          Utf8.encode (writeText member.1) ++ 58 :: Utf8.encode member.2 ++
            44 :: memberOctets true (next :: members) := by
        rw [memberOctets, memberOctets_false (List.cons_ne_nil next members)]
        simp
      rw [List.map_cons, List.map_cons, String.intercalate_cons_cons, Utf8.encode_append,
        Utf8.encode_append, hcomma, hmember, ← List.map_cons, List.append_assoc, ih, hright]
      simp

/-! ## Slots -/

section Slots

variable (members : List Member)

/-- Written members fill slots one by one: each belongs to a slot that is still empty, and its value
is what the member's reader answers. -/
inductive Fills : Slots → List (String × String) → Slots → Prop where
  | done (slots : Slots) : Fills slots [] slots
  | next {slots filled : Slots} {written : List (String × String)} {name json : String}
      {index : Nat} {member : Member} {value : Value} :
      members.findIdx? (·.name == name) = some index → members[index]? = some member →
      slots[index]? = some none → Reads member.read json value →
      Fills (slots.set index (some value)) written filled →
      Fills slots ((name, json) :: written) filled

variable {members}

theorem Fills.append {slots middle filled : Slots} {front back : List (String × String)}
    (hfront : Fills members slots front middle) (hback : Fills members middle back filled) :
    Fills members slots (front ++ back) filled := by
  induction hfront with
  | done slots => exact hback
  | next hindex hmember hslot hreads _ ih => exact Fills.next hindex hmember hslot hreads (ih hback)

theorem memberAhead_next (first : Bool) (rest : Bytes) :
    memberAhead first ((if first then [] else [44]) ++ 34 :: rest) = .ok (true, rest) := by
  cases first with
  | true => rfl
  | false => rfl

theorem skipColon_colon (rest : Bytes) : skipColon (58 :: rest) = .ok rest := rfl

theorem readMembers_fills {slots filled : Slots} {written : List (String × String)}
    (h : Fills members slots written filled) {fuel : Nat} (hfuel : written.length < fuel)
    (first : Bool) (rest : Bytes) :
    readMembers members fuel first slots (memberOctets first written ++ rest) =
      .ok (filled, rest) := by
  -- along the members; each takes one unit of fuel
  induction h generalizing fuel first with
  | done slots =>
    rcases Nat.exists_eq_add_of_lt hfuel with ⟨fuel, rfl⟩
    simp [readMembers, memberOctets, memberAhead, skipBlanks_cons (rfl : isBlank 125 = false)]
  | @next slots filled written name json index member value hindex hmember hslot hreads _ ih =>
    obtain ⟨fuel, rfl⟩ : ∃ more, fuel = more + 1 :=
      ⟨fuel - 1, by simp only [List.length_cons] at hfuel; omega⟩
    -- a comma or the closing brace stands behind the value and ends a number
    have htail : EndsNumber (memberOctets false written ++ rest) := by
      cases written with
      | nil => exact endsNumber_cons (Or.inr (Or.inr rfl)) _
      | cons member written => exact endsNumber_cons (Or.inl rfl) _
    -- the form is taken apart in the order in which the reader goes through it
    have hform : memberOctets first ((name, json) :: written) ++ rest =
        (if first then [] else [44]) ++ 34 :: (Utf8.encodeChars (name.toList.flatMap writeChar) ++
          34 :: 58 :: (Utf8.encode json ++ (memberOctets false written ++ rest))) := by
      simp [memberOctets, encode_writeText]
    rw [hform, readMembers, memberAhead_next, Outcome.ok_bind]
    simp only [Bool.not_true, Bool.false_eq_true, if_false, readText_written, Outcome.ok_bind,
      hindex, hslot, Option.bind_some, id_eq, Option.isSome_none, skipColon_colon, hmember,
      hreads _ htail]
    exact ih (by simpa using hfuel) false

end Slots

/-! ## Records -/

theorem reads_record {shape : Shape} {written : List (String × String)} {filled : Slots}
    {values : List Value} (hslots : Fills shape.members (shape.members.map fun _ => none) written
      filled) (hfill : fillSlots shape.members filled = .ok values) :
    Reads shape.read (writeRecord written) (.record values) := by
  intro rest _
  -- the fuel is the length of the text, and each member has an octet at least
  have hfuel : written.length < (memberOctets true written ++ rest).length + 1 := by
    have hlength := length_le_memberOctets true written
    simp only [List.length_append]
    omega
  rw [encode_writeRecord, List.cons_append, Shape.read, skipBlanks_cons rfl]
  simp only [readMembers_fills hslots hfuel, Outcome.ok_bind, hfill, Outcome.pure_eq]

theorem readWholeText_of_reads {reader : Reader} {json : String} {value : Value}
    (h : Reads reader json value) : readWholeText reader (Utf8.encode json) = .ok value := by
  have hread := h [] (by simp [EndsNumber])
  rw [List.append_nil] at hread
  rw [readWholeText, hread]
  rfl

end Json
end Possession

import Possession.Text.Utf8

/-!
# UTF-8 read back

A text is recovered from its octets, so no two texts have the same octets, and whatever octets are
read are those of the text. The octets of a character beyond ASCII all lie outside the ASCII range,
so no syntax over ASCII ever meets them.
-/

namespace Possession
namespace Utf8

/-! ## The forms of a character -/

/-- The octet strings that a character can be written as, by their lengths. -/
inductive Form (c : Char) : Bytes → Prop where
  | one (a : UInt8) :
      c.toNat < 0x80 → a.toNat = c.toNat → Form c [a]
  | two (a b : UInt8) :
      0x80 ≤ c.toNat → c.toNat < 0x800 → a.toNat = c.toNat / 64 + 0xC0 →
      b.toNat = c.toNat % 64 + 0x80 → Form c [a, b]
  | three (a b d : UInt8) :
      0x800 ≤ c.toNat → c.toNat < 0x10000 → a.toNat = c.toNat / 4096 + 0xE0 →
      b.toNat = c.toNat / 64 % 64 + 0x80 → d.toNat = c.toNat % 64 + 0x80 → Form c [a, b, d]
  | four (a b d e : UInt8) :
      0x10000 ≤ c.toNat → c.toNat < 0x110000 → a.toNat = c.toNat / 262144 + 0xF0 →
      b.toNat = c.toNat / 4096 % 64 + 0x80 → d.toNat = c.toNat / 64 % 64 + 0x80 →
      e.toNat = c.toNat % 64 + 0x80 → Form c [a, b, d, e]

/-- A code point that is no surrogate. -/
theorem toNat_lt_or (c : Char) :
    c.toNat < 0xD800 ∨ 0xDFFF < c.toNat ∧ c.toNat < 0x110000 :=
  c.valid

theorem form_utf8EncodeChar (c : Char) : Form c (String.utf8EncodeChar c) := by
  have hvalid := toNat_lt_or c
  -- the library writes with bit masks; as arithmetic the four lengths are four intervals
  have hdef : String.utf8EncodeChar c =
      if c.toNat ≤ 0x7f then [UInt8.ofNat c.toNat]
      else if c.toNat ≤ 0x7ff then
        [UInt8.ofNat (c.toNat / 64 % 0x20 + 0xc0), UInt8.ofNat (c.toNat % 0x40 + 0x80)]
      else if c.toNat ≤ 0xffff then
        [UInt8.ofNat (c.toNat / 4096 % 0x10 + 0xe0), UInt8.ofNat (c.toNat / 64 % 0x40 + 0x80),
          UInt8.ofNat (c.toNat % 0x40 + 0x80)]
      else
        [UInt8.ofNat (c.toNat / 262144 % 0x08 + 0xf0), UInt8.ofNat (c.toNat / 4096 % 0x40 + 0x80),
          UInt8.ofNat (c.toNat / 64 % 0x40 + 0x80), UInt8.ofNat (c.toNat % 0x40 + 0x80)] := rfl
  rw [hdef]
  split
  · apply Form.one <;> (try rw [UInt8.toNat_ofNat']) <;> omega
  split
  · apply Form.two <;> (try rw [UInt8.toNat_ofNat']) <;> omega
  split
  · apply Form.three <;> (try rw [UInt8.toNat_ofNat']) <;> omega
  · apply Form.four <;> (try rw [UInt8.toNat_ofNat']) <;> omega

/-! ## Writing -/

@[simp]
theorem encodeChars_nil : encodeChars [] = [] := rfl

theorem encodeChars_cons (c : Char) (chars : List Char) :
    encodeChars (c :: chars) = String.utf8EncodeChar c ++ encodeChars chars := by
  simp [encodeChars]

@[simp]
theorem encodeChars_append (left right : List Char) :
    encodeChars (left ++ right) = encodeChars left ++ encodeChars right := by
  simp [encodeChars]

@[simp]
theorem encode_append (left right : String) :
    encode (left ++ right) = encode left ++ encode right := by
  simp [encode]

@[simp]
theorem encode_ofList (chars : List Char) : encode (String.ofList chars) = encodeChars chars := by
  simp [encode]

/-- An ASCII character is written as one octet. -/
theorem utf8EncodeChar_ascii {c : Char} (h : c.toNat < 128) :
    String.utf8EncodeChar c = [UInt8.ofNat c.toNat] := by
  generalize hbytes : String.utf8EncodeChar c = bytes
  have hform : Form c bytes := hbytes ▸ form_utf8EncodeChar c
  cases hform with
  | one a _ ha =>
    rw [← ha, UInt8.ofNat_toNat]
  | two _ _ hlow | three _ _ _ hlow | four _ _ _ _ hlow =>
    omega

theorem encodeChars_ascii {chars : List Char} (h : ∀ c ∈ chars, c.toNat < 128) :
    encodeChars chars = chars.map fun c => UInt8.ofNat c.toNat := by
  induction chars with
  | nil => rfl
  | cons c chars ih =>
    have hc : c.toNat < 128 := h c (by simp)
    have hchars : ∀ c ∈ chars, c.toNat < 128 := fun c hmem => h c (by simp [hmem])
    rw [encodeChars_cons, utf8EncodeChar_ascii hc, ih hchars]
    rfl

/-- The octets of any other character lie outside the ASCII range. -/
theorem le_of_mem_utf8EncodeChar {c : Char} (h : 128 ≤ c.toNat) {byte : UInt8}
    (hbyte : byte ∈ String.utf8EncodeChar c) : 128 ≤ byte.toNat := by
  generalize hbytes : String.utf8EncodeChar c = bytes at hbyte
  have hform : Form c bytes := hbytes ▸ form_utf8EncodeChar c
  -- every octet of a longer form has its highest bit set
  cases hform with
  | one a hlow =>
    omega
  | two a b =>
    simp only [List.mem_cons, List.not_mem_nil, or_false] at hbyte
    rcases hbyte with rfl | rfl <;> omega
  | three a b d =>
    simp only [List.mem_cons, List.not_mem_nil, or_false] at hbyte
    rcases hbyte with rfl | rfl | rfl <;> omega
  | four a b d e =>
    simp only [List.mem_cons, List.not_mem_nil, or_false] at hbyte
    rcases hbyte with rfl | rfl | rfl | rfl <;> omega

/-! ## Reading -/

theorem decodeChars?_encodeChar_append (c : Char) (rest : Bytes) :
    decodeChars? (String.utf8EncodeChar c ++ rest) = (decodeChars? rest).map (c :: ·) := by
  have hvalid := toNat_lt_or c
  have hback : Char.ofNat c.toNat = c := Char.ofNat_toNat c
  generalize hbytes : String.utf8EncodeChar c = bytes
  have hform : Form c bytes := hbytes ▸ form_utf8EncodeChar c
  -- the lead octet alone decides the length, and each form has leads of its own
  cases hform with
  | one a hlow ha =>
    rw [List.singleton_append, decodeChars?.eq_def]
    simp [ha, hlow, hback]
  | two a b hlow hhigh ha hb =>
    have hcode : a.toNat % 32 * 64 + payload b = c.toNat := by
      unfold payload
      omega
    have hone : ¬ a.toNat < 0x80 := by omega
    have htwo : 0xC2 ≤ a.toNat ∧ a.toNat < 0xE0 := by omega
    have htail : isTail b := by
      simp [isTail]
      omega
    rw [List.cons_append, List.singleton_append, decodeChars?.eq_def]
    simp [hone, htwo, htail, hcode, hback]
  | three a b d hlow hhigh ha hb hd =>
    have hcode : a.toNat % 16 * 4096 + payload b * 64 + payload d = c.toNat := by
      unfold payload
      omega
    have hone : ¬ a.toNat < 0x80 := by omega
    have htwo : ¬ (0xC2 ≤ a.toNat ∧ a.toNat < 0xE0) := by omega
    have hthree : 0xE0 ≤ a.toNat ∧ a.toNat < 0xF0 := by omega
    have htail : isTail b ∧ isTail d := by
      simp [isTail]
      omega
    -- three octets could also spell a surrogate, which no character is
    have hscalar : c.toNat < 0xD800 ∨ 0xE000 ≤ c.toNat := by omega
    rw [List.cons_append, List.cons_append, List.singleton_append, decodeChars?.eq_def]
    simp [hone, htwo, hthree, htail, hcode, hback, hlow, hscalar]
  | four a b d e hlow hhigh ha hb hd he =>
    have hcode :
        a.toNat % 8 * 262144 + payload b * 4096 + payload d * 64 + payload e = c.toNat := by
      unfold payload
      omega
    have hone : ¬ a.toNat < 0x80 := by omega
    have htwo : ¬ (0xC2 ≤ a.toNat ∧ a.toNat < 0xE0) := by omega
    have hthree : ¬ (0xE0 ≤ a.toNat ∧ a.toNat < 0xF0) := by omega
    have hfour : 0xF0 ≤ a.toNat ∧ a.toNat < 0xF5 := by omega
    have htail : isTail b ∧ isTail d ∧ isTail e := by
      simp [isTail]
      omega
    rw [List.cons_append, List.cons_append, List.cons_append, List.singleton_append,
      decodeChars?.eq_def]
    simp [hone, htwo, hthree, hfour, htail, hcode, hback, hlow, hhigh]

theorem decodeChars?_encodeChars (chars : List Char) :
    decodeChars? (encodeChars chars) = some chars := by
  induction chars with
  | nil =>
    simp [decodeChars?]
  | cons c chars ih =>
    rw [encodeChars_cons, decodeChars?_encodeChar_append, ih]
    rfl

/-- A text is recovered from its octets. -/
theorem decode?_encode (text : String) : decode? (encode text) = some text := by
  simp [decode?, encode, decodeChars?_encodeChars]

theorem encode_injective {left right : String} (h : encode left = encode right) : left = right := by
  have hback := decode?_encode left
  rw [h, decode?_encode] at hback
  exact (Option.some.inj hback).symm

/-! ## Written again -/

/-- A character has one form only. -/
theorem Form.eq {c : Char} {bytes bytes' : Bytes} (h : Form c bytes) (h' : Form c bytes') :
    bytes = bytes' := by
  -- forms of two lengths belong to two intervals of code points
  cases h <;> cases h' <;>
    simp only [List.cons.injEq, and_true, and_false, reduceCtorEq, ← UInt8.toNat_inj] <;> omega

theorem utf8EncodeChar_of_form {code : Nat} (bytes : Bytes)
    (hscalar : code < 0xD800 ∨ 0xDFFF < code ∧ code < 0x110000)
    (h : (Char.ofNat code).toNat = code → Form (Char.ofNat code) bytes) :
    String.utf8EncodeChar (Char.ofNat code) = bytes := by
  refine (form_utf8EncodeChar _).eq (h ?_)
  rw [Char.ofNat, dif_pos hscalar]
  rfl

/-- Reading loses nothing: the octets are those of the characters that are read. -/
theorem encodeChars_of_decodeChars? {bytes : Bytes} {chars : List Char}
    (h : decodeChars? bytes = some chars) : encodeChars chars = bytes := by
  fun_induction decodeChars? bytes generalizing chars with
  | case1 =>
    cases h
    rfl
  | case2 a rest ha ih =>
    rcases Option.map_eq_some_iff.mp h with ⟨more, hmore, rfl⟩
    rw [encodeChars_cons, ih hmore, utf8EncodeChar_of_form [a] (by omega)]
    · rfl
    · intro hcode
      exact Form.one a (by omega) hcode.symm
  | case3 a ha hlead b rest htail ih =>
    rcases Option.map_eq_some_iff.mp h with ⟨more, hmore, rfl⟩
    simp only [isTail, beq_iff_eq] at htail
    rw [encodeChars_cons, ih hmore, utf8EncodeChar_of_form [a, b]]
    · rfl
    · unfold payload
      omega
    · unfold payload
      intro hcode
      exact Form.two a b (by omega) (by omega) (by omega) (by omega)
  | case6 a _ _ hlead b c rest code hall =>
    rename_i ih
    rcases Option.map_eq_some_iff.mp h with ⟨more, hmore, rfl⟩
    have hsum : code = a.toNat % 16 * 4096 + b.toNat % 64 * 64 + c.toNat % 64 := rfl
    simp only [isTail, Bool.and_eq_true, Bool.or_eq_true, beq_iff_eq, decide_eq_true_eq] at hall
    rw [encodeChars_cons, ih hmore, utf8EncodeChar_of_form [a, b, c] (by omega)]
    · rfl
    · intro hcode
      exact Form.three a b c (by omega) (by omega) (by omega) (by omega) (by omega)
  | case9 a _ _ _ hlead b c d rest code hall =>
    rename_i ih
    rcases Option.map_eq_some_iff.mp h with ⟨more, hmore, rfl⟩
    have hsum : code = a.toNat % 8 * 262144 + b.toNat % 64 * 4096 + c.toNat % 64 * 64 +
        d.toNat % 64 := rfl
    simp only [isTail, Bool.and_eq_true, beq_iff_eq, decide_eq_true_eq] at hall
    rw [encodeChars_cons, ih hmore, utf8EncodeChar_of_form [a, b, c, d] (by omega)]
    · rfl
    · intro hcode
      exact Form.four a b c d (by omega) (by omega) (by omega) (by omega) (by omega) (by omega)
  | _ => cases h

theorem decode?_eq_some_iff {bytes : Bytes} {text : String} :
    decode? bytes = some text ↔ bytes = encode text := by
  constructor
  · intro h
    rcases Option.map_eq_some_iff.mp h with ⟨chars, hchars, rfl⟩
    rw [encode_ofList, encodeChars_of_decodeChars? hchars]
  · rintro rfl
    exact decode?_encode text

end Utf8
end Possession

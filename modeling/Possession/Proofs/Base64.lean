import Mathlib.Tactic.ByContra
import Possession.Base64
import Possession.Proofs.Bytes
import Possession.Proofs.Outcome
import Possession.Proofs.Text.Utf8

/-!
# Base64 read back

Reading is canonical: a text is accepted exactly when it is what writing makes of the octets that
are read from it. Both directions go through the octets of the text, group by group.
-/

namespace Possession
namespace Base64

/-! ## Alphabets -/

/-- The octet of the symbol of a value. -/
def octet (alphabet : Base64) (value : Nat) : UInt8 :=
  UInt8.ofNat (alphabet.symbol value).toNat

/-- An alphabet that can be read: its symbols are ASCII characters, each the only one of its value,
and the padding sign is none of them. -/
structure Proper (alphabet : Base64) : Prop where
  ascii : ∀ value < 64, (alphabet.symbol value).toNat < 128
  value_octet : ∀ value < 64, alphabet.value? (alphabet.octet value) = some value
  value_padding : alphabet.value? padding = none
  -- over all 256 octets, so that one evaluation of the table settles it
  octet_value : ∀ code < 256, ∀ value ∈ alphabet.value? (UInt8.ofNat code),
    value < 64 ∧ UInt8.ofNat code = alphabet.octet value

theorem proper_url : Proper url where
  ascii := by decide
  value_octet := by decide
  value_padding := by decide
  octet_value := by decide +kernel

theorem proper_standard : Proper standard where
  ascii := by decide
  value_octet := by decide
  value_padding := by decide
  octet_value := by decide +kernel

namespace Proper

variable {alphabet : Base64}

theorem octet_of_value (proper : Proper alphabet) {byte : UInt8} {value : Nat}
    (h : alphabet.value? byte = some value) : value < 64 ∧ byte = alphabet.octet value := by
  have hbyte : UInt8.ofNat byte.toNat = byte := UInt8.ofNat_toNat
  have hvalue := proper.octet_value byte.toNat byte.toNat_lt value
  rw [hbyte] at hvalue
  exact hvalue h

theorem octet_ne_padding (proper : Proper alphabet) {value : Nat} (h : value < 64) :
    alphabet.octet value ≠ padding := by
  intro heq
  have hvalue := proper.value_octet value h
  rw [heq, proper.value_padding] at hvalue
  cases hvalue

end Proper

/-! ## Groups of four symbols -/

/-- The octets that stand behind the symbols of a whole group. -/
def groupBytes (x y z w : Nat) : Bytes :=
  [UInt8.ofNat (x * 4 + y / 16), UInt8.ofNat (y % 16 * 16 + z / 4), UInt8.ofNat (z % 4 * 64 + w)]

/-- The octets of a written octet string. -/
def octets (alphabet : Base64) (bytes : Bytes) : Bytes :=
  (alphabet.encodeChars bytes).map fun c => UInt8.ofNat c.toNat

/-- Padding behind a last group that lacks `count` symbols. -/
def pads (alphabet : Base64) (count : Nat) : Bytes :=
  if alphabet.padded then List.replicate count padding else []

section Writing

variable (alphabet : Base64)

@[simp]
theorem octets_nil : alphabet.octets [] = [] := rfl

theorem octets_one (a : UInt8) :
    alphabet.octets [a] =
      [alphabet.octet (a.toNat / 4), alphabet.octet (a.toNat % 4 * 16)] ++ alphabet.pads 2 := by
  -- the single octet fills two symbols; the low four bits of the second are zero
  have hx : a.toNat * 16 / 64 = a.toNat / 4 := by omega
  have hy : a.toNat * 16 % 64 = a.toNat % 4 * 16 := by omega
  cases hpadded : alphabet.padded <;>
    simp [octets, encodeChars, octet, pads, hpadded, hx, hy, padding]

theorem octets_two (a b : UInt8) :
    alphabet.octets [a, b] =
      [alphabet.octet (a.toNat / 4), alphabet.octet (a.toNat % 4 * 16 + b.toNat / 16),
        alphabet.octet (b.toNat % 16 * 4)] ++ alphabet.pads 1 := by
  have ha : a.toNat < 256 := a.toNat_lt
  have hb : b.toNat < 256 := b.toNat_lt
  -- the two octets fill three symbols; the low two bits of the third are zero
  have hx : (a.toNat * 1024 + b.toNat * 4) / 4096 = a.toNat / 4 := by omega
  have hy : (a.toNat * 1024 + b.toNat * 4) / 64 % 64 = a.toNat % 4 * 16 + b.toNat / 16 := by omega
  have hz : (a.toNat * 1024 + b.toNat * 4) % 64 = b.toNat % 16 * 4 := by omega
  cases hpadded : alphabet.padded <;>
    simp [octets, encodeChars, octet, pads, hpadded, hx, hy, hz, padding]

theorem octets_group (a b c : UInt8) (rest : Bytes) :
    alphabet.octets (a :: b :: c :: rest) =
      alphabet.octet (a.toNat / 4) :: alphabet.octet (a.toNat % 4 * 16 + b.toNat / 16) ::
        alphabet.octet (b.toNat % 16 * 4 + c.toNat / 64) :: alphabet.octet (c.toNat % 64) ::
        alphabet.octets rest := by
  have ha : a.toNat < 256 := a.toNat_lt
  have hb : b.toNat < 256 := b.toNat_lt
  have hc : c.toNat < 256 := c.toNat_lt
  have hx : (a.toNat * 65536 + b.toNat * 256 + c.toNat) / 262144 = a.toNat / 4 := by omega
  have hy : (a.toNat * 65536 + b.toNat * 256 + c.toNat) / 4096 % 64 =
      a.toNat % 4 * 16 + b.toNat / 16 := by omega
  have hz : (a.toNat * 65536 + b.toNat * 256 + c.toNat) / 64 % 64 =
      b.toNat % 16 * 4 + c.toNat / 64 := by omega
  have hw : (a.toNat * 65536 + b.toNat * 256 + c.toNat) % 64 = c.toNat % 64 := by omega
  simp [octets, encodeChars, octet, hx, hy, hz, hw]

theorem octets_ne_nil {bytes : Bytes} (h : bytes ≠ []) : alphabet.octets bytes ≠ [] := by
  cases bytes with
  | nil => exact absurd rfl h
  | cons a rest =>
    cases rest with
    | nil => simp [octets_one]
    | cons b rest =>
      cases rest with
      | nil => simp [octets_two]
      | cons c rest => simp [octets_group]

end Writing

/-- The octets of a group are those that its symbols were made from. -/
theorem groupBytes_symbols (a b c : UInt8) :
    groupBytes (a.toNat / 4) (a.toNat % 4 * 16 + b.toNat / 16) (b.toNat % 16 * 4 + c.toNat / 64)
      (c.toNat % 64) = [a, b, c] := by
  have ha : a.toNat < 256 := a.toNat_lt
  have hb : b.toNat < 256 := b.toNat_lt
  have hc : c.toNat < 256 := c.toNat_lt
  have hfirst : a.toNat / 4 * 4 + (a.toNat % 4 * 16 + b.toNat / 16) / 16 = a.toNat := by omega
  have hsecond : (a.toNat % 4 * 16 + b.toNat / 16) % 16 * 16 +
      (b.toNat % 16 * 4 + c.toNat / 64) / 4 = b.toNat := by omega
  have hthird : (b.toNat % 16 * 4 + c.toNat / 64) % 4 * 64 + c.toNat % 64 = c.toNat := by omega
  simp only [groupBytes, hfirst, hsecond, hthird, UInt8.ofNat_toNat]

/-- The symbols of a group are those that its octets were made from. -/
theorem octets_groupBytes (alphabet : Base64) {x y z w : Nat} (hx : x < 64) (hy : y < 64)
    (hz : z < 64) (hw : w < 64) (rest : Bytes) :
    alphabet.octets (groupBytes x y z w ++ rest) =
      alphabet.octet x :: alphabet.octet y :: alphabet.octet z :: alphabet.octet w ::
        alphabet.octets rest := by
  have hfirst : (UInt8.ofNat (x * 4 + y / 16)).toNat = x * 4 + y / 16 :=
    Bytes.toNat_octet (by omega)
  have hsecond : (UInt8.ofNat (y % 16 * 16 + z / 4)).toNat = y % 16 * 16 + z / 4 :=
    Bytes.toNat_octet (by omega)
  have hthird : (UInt8.ofNat (z % 4 * 64 + w)).toNat = z % 4 * 64 + w :=
    Bytes.toNat_octet (by omega)
  have hx' : (x * 4 + y / 16) / 4 = x := by omega
  have hy' : (x * 4 + y / 16) % 4 * 16 + (y % 16 * 16 + z / 4) / 16 = y := by omega
  have hz' : (y % 16 * 16 + z / 4) % 16 * 4 + (z % 4 * 64 + w) / 64 = z := by omega
  have hw' : (z % 4 * 64 + w) % 64 = w := by omega
  simp only [groupBytes, List.cons_append, List.nil_append, octets_group, hfirst, hsecond, hthird,
    hx', hy', hz', hw']

/-! ## Reading what was written -/

section Reading

variable {alphabet : Base64} (proper : Proper alphabet)

theorem readLast_padding (start : Nat) {index : Nat} (h : 2 ≤ index) (group : LastGroup)
    (count : Nat) :
    readLast alphabet start index group (List.replicate count padding) =
      .ok { group with pads := group.pads + count } := by
  induction count generalizing index group with
  | zero =>
    simp [readLast]
  | succ count ih =>
    -- padding is only an error in front of the second symbol
    have hindex : ¬ index < 2 := by omega
    rw [List.replicate_succ, readLast]
    simp only [if_true, hindex, if_false]
    rw [ih (by omega)]
    simp only [Nat.add_assoc, Nat.add_comm 1]

include proper

theorem readLast_symbols (start index : Nat) (before values : List Nat) (last : UInt8)
    (hvalues : ∀ value ∈ values, value < 64) (rest : Bytes) :
    ∃ last', readLast alphabet start index ⟨before, last, 0⟩ (values.map alphabet.octet ++ rest) =
      readLast alphabet start (index + values.length) ⟨before ++ values, last', 0⟩ rest := by
  induction values generalizing index before last with
  | nil =>
    -- the octet read last is only kept for errors, so any will do
    exact ⟨last, by simp⟩
  | cons value values ih =>
    have hvalue : value < 64 := hvalues value (by simp)
    obtain ⟨last', hrest⟩ := ih (index + 1) (before ++ [value]) (alphabet.octet value)
      (fun v hv => hvalues v (by simp [hv]))
    refine ⟨last', ?_⟩
    rw [List.map_cons, List.cons_append, readLast]
    simp only [proper.octet_ne_padding hvalue, proper.value_octet value hvalue, if_false,
      Nat.lt_irrefl, hrest, List.append_assoc, List.singleton_append, List.length_cons]
    congr 1
    omega

/-- A group of symbols and padding is worth what its symbols are worth. -/
theorem decodeLast_symbols (values : List Nat) {bytes : Bytes} (start : Nat)
    (hvalues : ∀ value ∈ values, value < 64) (hcount : 2 ≤ values.length ∧ values.length ≤ 4)
    (hbytes : ∀ last pads, LastGroup.bytes ⟨values, last, pads⟩ start = .ok bytes) :
    decodeLast alphabet start (values.map alphabet.octet ++ alphabet.pads (4 - values.length)) =
      .ok bytes := by
  obtain ⟨last, hsymbols⟩ :=
    readLast_symbols proper start 0 [] values 0 hvalues (alphabet.pads (4 - values.length))
  have hshort : ¬ values.length < 2 := by omega
  rw [decodeLast, hsymbols]
  cases hpadded : alphabet.padded with
  | false =>
    -- unpadded: the symbols are all there is
    simp only [pads, hpadded, Bool.false_eq_true, if_false, readLast, Outcome.ok_bind,
      List.nil_append, hshort, Nat.lt_irrefl, hbytes]
  | true =>
    -- padded: symbols and padding make up a group of four
    have hwhole : (0 + (4 - values.length) + values.length) % 4 = 0 := by omega
    simp only [pads, hpadded, if_true]
    rw [readLast_padding start (by omega)]
    simp only [Outcome.ok_bind, List.nil_append, hshort, if_false, hwhole, ne_eq,
      not_true_eq_false, hbytes]

theorem decodeLast_octets (bytes : Bytes) (start : Nat) (h : bytes.length ∈ [1, 2, 3]) :
    decodeLast alphabet start (alphabet.octets bytes) = .ok bytes := by
  match bytes, h with
  | [a], _ =>
    have ha : a.toNat < 256 := a.toNat_lt
    have hback : a.toNat / 4 * 4 + a.toNat % 4 * 16 / 16 = a.toNat := by omega
    have hspare : a.toNat % 4 * 16 % 16 = 0 := by omega
    -- the spare bits of the last symbol are zero, so the canonical form is met
    rw [octets_one]
    refine decodeLast_symbols proper [_, _] start ?_ (by simp) ?_
    · simp only [List.forall_mem_cons, List.not_mem_nil, false_imp_iff, implies_true, and_true]
      omega
    · simp only [LastGroup.bytes, hspare, if_true, hback, UInt8.ofNat_toNat, implies_true]
  | [a, b], _ =>
    have ha : a.toNat < 256 := a.toNat_lt
    have hb : b.toNat < 256 := b.toNat_lt
    have hfirst : a.toNat / 4 * 4 + (a.toNat % 4 * 16 + b.toNat / 16) / 16 = a.toNat := by omega
    have hsecond : (a.toNat % 4 * 16 + b.toNat / 16) % 16 * 16 + b.toNat % 16 * 4 / 4 =
        b.toNat := by omega
    have hspare : b.toNat % 16 * 4 % 4 = 0 := by omega
    rw [octets_two]
    refine decodeLast_symbols proper [_, _, _] start ?_ (by simp) ?_
    · simp only [List.forall_mem_cons, List.not_mem_nil, false_imp_iff, implies_true, and_true]
      omega
    · simp only [LastGroup.bytes, hspare, if_true, hfirst, hsecond, UInt8.ofNat_toNat, implies_true]
  | [a, b, c], _ =>
    have ha : a.toNat < 256 := a.toNat_lt
    have hb : b.toNat < 256 := b.toNat_lt
    have hc : c.toNat < 256 := c.toNat_lt
    have hwhole := groupBytes_symbols a b c
    -- a whole group that ends the text is read as a last group without padding
    have hsplit : alphabet.octets [a, b, c] =
        [a.toNat / 4, a.toNat % 4 * 16 + b.toNat / 16, b.toNat % 16 * 4 + c.toNat / 64,
          c.toNat % 64].map alphabet.octet ++ alphabet.pads (4 - 4) := by
      simp [octets_group, pads]
    rw [hsplit]
    refine decodeLast_symbols proper _ start ?_ (by simp) ?_
    · simp only [List.forall_mem_cons, List.not_mem_nil, false_imp_iff, implies_true, and_true]
      omega
    · simp only [groupBytes] at hwhole
      simp only [LastGroup.bytes, hwhole, implies_true]

theorem decodeGroups_group {x y z w : Nat} (hx : x < 64) (hy : y < 64) (hz : z < 64) (hw : w < 64)
    (start : Nat) {rest : Bytes} (hrest : rest ≠ []) :
    decodeGroups alphabet start (alphabet.octet x :: alphabet.octet y :: alphabet.octet z ::
        alphabet.octet w :: rest) =
      (decodeGroups alphabet (start + 4) rest).map (groupBytes x y z w ++ ·) := by
  cases rest with
  | nil => exact absurd rfl hrest
  | cons next rest =>
    rw [decodeGroups]
    simp [proper.value_octet _ hx, proper.value_octet _ hy, proper.value_octet _ hz,
      proper.value_octet _ hw, groupBytes]

omit proper in
theorem decodeGroups_last (start : Nat) {bytes : Bytes} (hne : bytes ≠ []) (hshort : bytes.length ≤ 4) :
    decodeGroups alphabet start bytes = decodeLast alphabet start bytes := by
  rw [decodeGroups.eq_def]
  split
  · simp only [List.length_cons] at hshort
    omega
  · exact absurd rfl hne
  · rfl

/-- Groups are read back, wherever in a text they begin. -/
theorem decodeGroups_octets (bytes : Bytes) (start : Nat) :
    decodeGroups alphabet start (alphabet.octets bytes) = .ok bytes := by
  -- along the recursion of the writer, one group of three octets at a time
  fun_induction encodeChars alphabet bytes generalizing start with
  | case1 a b c rest group ih =>
    have ha : a.toNat < 256 := a.toNat_lt
    have hb : b.toNat < 256 := b.toNat_lt
    have hc : c.toNat < 256 := c.toNat_lt
    -- the reader takes four symbols as a whole group only when more stand behind them
    by_cases hrest : rest = []
    · subst hrest
      rw [decodeGroups_last start (octets_ne_nil _ (by simp)) (by simp [octets_group])]
      exact decodeLast_octets proper [a, b, c] start (by simp)
    · rw [octets_group, decodeGroups_group proper (by omega) (by omega) (by omega) (by omega) start
        (octets_ne_nil alphabet hrest), ih, groupBytes_symbols]
      rfl
  | case2 a b group =>
    have hshort : (alphabet.octets [a, b]).length ≤ 4 := by
      cases hpadded : alphabet.padded <;> simp [octets_two, pads, hpadded]
    rw [decodeGroups_last start (octets_ne_nil _ (by simp)) hshort]
    exact decodeLast_octets proper [a, b] start (by simp)
  | case3 a group =>
    have hshort : (alphabet.octets [a]).length ≤ 4 := by
      cases hpadded : alphabet.padded <;> simp [octets_one, pads, hpadded]
    rw [decodeGroups_last start (octets_ne_nil _ (by simp)) hshort]
    exact decodeLast_octets proper [a] start (by simp)
  | case4 => simp [decodeGroups]

end Reading

/-! ## Only what was written is read -/

section Canonical

variable {alphabet : Base64} (proper : Proper alphabet)

include proper

/-- What a last group is read as: its symbols in front, its padding behind them. -/
theorem eq_of_readLast {start index : Nat} {group out : LastGroup} {bytes : Bytes}
    (h : readLast alphabet start index group bytes = .ok out) :
    ∃ values count, bytes = values.map alphabet.octet ++ List.replicate count padding ∧
      (∀ value ∈ values, value < 64) ∧ out.values = group.values ++ values ∧
      out.pads = group.pads + count ∧ (0 < group.pads → values = []) := by
  -- the last conjunct carries the induction: behind padding no symbol is read
  induction bytes generalizing index group with
  | nil =>
    rw [readLast] at h
    cases h
    exact ⟨[], 0, by simp⟩
  | cons byte rest ih =>
    rw [readLast] at h
    by_cases hpadding : byte = padding
    · rw [if_pos hpadding] at h
      split at h
      · cases h
      · rcases ih h with ⟨values, count, hrest, -, hout, hpads, hnone⟩
        -- a symbol behind this padding would have been refused
        have hnil : values = [] := hnone (by simp)
        subst hnil
        refine ⟨[], count + 1, ?_, by simp, by simpa using hout, ?_, by simp⟩
        · rw [hrest, hpadding, List.replicate_succ]
          rfl
        · simp only at hpads
          omega
    · rw [if_neg hpadding] at h
      split at h
      · cases h
      rename_i hnone
      cases hvalue : alphabet.value? byte with
      | none =>
        simp [hvalue] at h
      | some value =>
        simp only [hvalue] at h
        rcases proper.octet_of_value hvalue with ⟨hlt, hbyte⟩
        rcases ih h with ⟨values, count, hrest, hvalues, hout, hpads, -⟩
        refine ⟨value :: values, count, ?_, ?_, ?_, hpads, fun hpos => absurd hpos hnone⟩
        · rw [hrest, hbyte]
          rfl
        · simpa [hlt] using hvalues
        · simpa using hout

omit proper in
/-- What follows from a last group being accepted: it is filled up as its alphabet says. -/
theorem readLast_of_decodeLast {start : Nat} {bytes out : Bytes}
    (h : decodeLast alphabet start bytes = .ok out) :
    ∃ group, readLast alphabet start 0 ⟨[], 0, 0⟩ bytes = .ok group ∧
      (if alphabet.padded then (group.pads + group.values.length) % 4 = 0 else group.pads = 0) ∧
      group.bytes start = .ok out := by
  rw [decodeLast, Outcome.bind_eq_ok_iff] at h
  rcases h with ⟨group, hread, h⟩
  refine ⟨group, hread, ?_⟩
  cases hpadded : alphabet.padded with
  | false =>
    by_cases hshort : group.values.length < 2 <;> by_cases hpads : 0 < group.pads <;>
      simp_all
  | true =>
    by_cases hshort : group.values.length < 2 <;>
      by_cases hpads : (group.pads + group.values.length) % 4 = 0 <;> simp_all

theorem eq_octets_of_decodeLast {start : Nat} {bytes out : Bytes} (hshort : bytes.length ≤ 4)
    (h : decodeLast alphabet start bytes = .ok out) : bytes = alphabet.octets out := by
  rcases readLast_of_decodeLast h with ⟨group, hread, hpads, hout⟩
  rcases eq_of_readLast proper hread with ⟨values, count, hbytes, hvalues, hgroup, hcount, -⟩
  simp only [List.nil_append, Nat.zero_add] at hgroup hcount
  rw [hgroup, hcount] at hpads
  have hlength : values.length + count ≤ 4 := by simpa [hbytes] using hshort
  -- the padding that was read is the padding that would be written
  have hfill : 2 ≤ values.length →
      List.replicate count padding = alphabet.pads (4 - values.length) := by
    intro htwo
    cases hpadded : alphabet.padded with
    | false =>
      simp only [hpadded, Bool.false_eq_true, if_false] at hpads
      simp [pads, hpadded, hpads]
    | true =>
      simp only [hpadded, if_true] at hpads
      have hcount : count = 4 - values.length := by omega
      simp [pads, hpadded, hcount]
  rw [LastGroup.bytes, hgroup] at hout
  split at hout
  · rename_i x y
    split at hout
    · rename_i hspare
      cases hout
      obtain ⟨hx, hy⟩ : x < 64 ∧ y < 64 := by simpa using hvalues
      -- the octet holds all of the first symbol, the spare bits of the second are zero
      have hnat : (UInt8.ofNat (x * 4 + y / 16)).toNat = x * 4 + y / 16 :=
        Bytes.toNat_octet (by omega)
      have hfirst : (x * 4 + y / 16) / 4 = x := by omega
      have hsecond : (x * 4 + y / 16) % 4 * 16 = y := by omega
      rw [hbytes, hfill (by simp), octets_one, hnat, hfirst, hsecond]
      rfl
    · cases hout
  · rename_i x y z
    split at hout
    · rename_i hspare
      cases hout
      obtain ⟨hx, hy, hz⟩ : x < 64 ∧ y < 64 ∧ z < 64 := by simpa using hvalues
      have hnat : (UInt8.ofNat (x * 4 + y / 16)).toNat = x * 4 + y / 16 :=
        Bytes.toNat_octet (by omega)
      have hnat' : (UInt8.ofNat (y % 16 * 16 + z / 4)).toNat = y % 16 * 16 + z / 4 :=
        Bytes.toNat_octet (by omega)
      have hfirst : (x * 4 + y / 16) / 4 = x := by omega
      have hsecond : (x * 4 + y / 16) % 4 * 16 + (y % 16 * 16 + z / 4) / 16 = y := by omega
      have hthird : (y % 16 * 16 + z / 4) % 16 * 4 = z := by omega
      rw [hbytes, hfill (by simp), octets_two, hnat, hnat', hfirst, hsecond, hthird]
      rfl
    · cases hout
  · rename_i x y z w
    cases hout
    obtain ⟨hx, hy, hz, hw⟩ : x < 64 ∧ y < 64 ∧ z < 64 ∧ w < 64 := by simpa using hvalues
    rw [hbytes, hfill (by simp)]
    have hgroup := octets_groupBytes alphabet hx hy hz hw []
    simpa [groupBytes, pads] using hgroup.symm
  · cases hout

theorem eq_octets_of_decodeGroups {start : Nat} {bytes out : Bytes}
    (h : decodeGroups alphabet start bytes = .ok out) : bytes = alphabet.octets out := by
  fun_induction decodeGroups alphabet start bytes generalizing out with
  | case1 start a b c d e rest x y z w hw hz hy hx ih =>
    rcases Outcome.map_eq_ok_iff.mp h with ⟨more, hmore, rfl⟩
    rcases proper.octet_of_value hx with ⟨hx', rfl⟩
    rcases proper.octet_of_value hy with ⟨hy', rfl⟩
    rcases proper.octet_of_value hz with ⟨hz', rfl⟩
    rcases proper.octet_of_value hw with ⟨hw', rfl⟩
    -- a whole group: its octets are written as the four symbols they were read from
    rw [ih hmore]
    exact (octets_groupBytes alphabet hx' hy' hz' hw' more).symm
  | case2 | case3 | case4 | case5 => cases h
  | case6 =>
    cases h
    rfl
  | case7 start bytes hlong hne =>
    have hshort : bytes.length ≤ 4 := by
      by_contra hlt
      match bytes with
      | a :: b :: c :: d :: e :: rest => exact hlong a b c d e rest rfl
      | [] | [_] | [_, _] | [_, _, _] | [_, _, _, _] => simp at hlt
    -- the end of the text, at most four symbols
    exact eq_octets_of_decodeLast proper hshort h

end Canonical

/-! ## Texts -/

section Texts

variable {alphabet : Base64} (proper : Proper alphabet)

/-- A written text is made of symbols and padding. -/
theorem mem_encodeChars {bytes : Bytes} {c : Char} (h : c ∈ alphabet.encodeChars bytes) :
    (∃ value < 64, c = alphabet.symbol value) ∨ alphabet.padded ∧ c = '=' := by
  fun_induction encodeChars alphabet bytes with
  | case1 a b c rest group ih =>
    have ha : a.toNat < 256 := a.toNat_lt
    have hb : b.toNat < 256 := b.toNat_lt
    have hc : c.toNat < 256 := c.toNat_lt
    simp only [List.mem_cons] at h
    rcases h with rfl | rfl | rfl | rfl | h
    · exact Or.inl ⟨_, by omega, rfl⟩
    · exact Or.inl ⟨_, by omega, rfl⟩
    · exact Or.inl ⟨_, by omega, rfl⟩
    · exact Or.inl ⟨_, by omega, rfl⟩
    · exact ih h
  | case2 a b group =>
    have ha : a.toNat < 256 := a.toNat_lt
    have hb : b.toNat < 256 := b.toNat_lt
    simp only [List.mem_cons] at h
    rcases h with rfl | rfl | rfl | h
    · exact Or.inl ⟨_, by omega, rfl⟩
    · exact Or.inl ⟨_, by omega, rfl⟩
    · exact Or.inl ⟨_, by omega, rfl⟩
    · split at h <;> simp_all
  | case3 a group =>
    have ha : a.toNat < 256 := a.toNat_lt
    simp only [List.mem_cons] at h
    rcases h with rfl | rfl | h
    · exact Or.inl ⟨_, by omega, rfl⟩
    · exact Or.inl ⟨_, by omega, rfl⟩
    · split at h <;> simp_all
  | case4 => cases h

/-- What is so of every symbol of the alphabet for URLs is so of all that is written in it, since it
has no padding. -/
theorem of_mem_encode_url {P : Char → Prop} (hsymbols : ∀ value < 64, P (url.symbol value))
    {bytes : Bytes} {c : Char} (h : c ∈ (url.encode bytes).toList) : P c := by
  rw [encode, String.toList_ofList] at h
  rcases mem_encodeChars h with ⟨value, hvalue, rfl⟩ | ⟨hpadded, -⟩
  · exact hsymbols value hvalue
  · cases hpadded

include proper

theorem encode_octets (bytes : Bytes) :
    Utf8.encode (alphabet.encode bytes) = alphabet.octets bytes := by
  rw [encode, Utf8.encode_ofList, octets]
  apply Utf8.encodeChars_ascii
  intro c hc
  rcases mem_encodeChars hc with ⟨value, hvalue, rfl⟩ | ⟨-, rfl⟩
  · exact proper.ascii value hvalue
  · decide

theorem value_of_mem_octets {bytes : Bytes} {byte : UInt8} (h : byte ∈ alphabet.octets bytes) :
    byte = padding ∨ (alphabet.value? byte).isSome := by
  rcases List.mem_map.mp h with ⟨c, hc, rfl⟩
  rcases mem_encodeChars hc with ⟨value, hvalue, rfl⟩ | ⟨-, rfl⟩
  · have hread := proper.value_octet value hvalue
    exact Or.inr (by rw [octet] at hread; simp [hread])
  · exact Or.inl rfl

/-- A character that is no symbol and no padding stands in no written text. -/
theorem not_mem_encode {c : Char} (hsymbol : alphabet.value? (UInt8.ofNat c.toNat) = none)
    (hpadding : c ≠ '=') (bytes : Bytes) : c ∉ (alphabet.encode bytes).toList := by
  rw [encode, String.toList_ofList]
  intro hmem
  rcases mem_encodeChars hmem with ⟨value, hvalue, rfl⟩ | ⟨-, heq⟩
  · have hread := proper.value_octet value hvalue
    rw [octet, hsymbol] at hread
    cases hread
  · exact hpadding heq

theorem decode_encode (bytes : Bytes) : alphabet.decode (alphabet.encode bytes) = .ok bytes := by
  have hgroups := decodeGroups_octets proper bytes 0
  rw [decode, encode_octets proper, decodeBytes]
  cases hlast : (alphabet.octets bytes).getLast? with
  | none =>
    rw [List.getLast?_eq_none_iff.mp hlast, decodeGroups] at hgroups
    exact hgroups
  | some byte =>
    have hvalue := value_of_mem_octets proper (List.mem_of_getLast? hlast)
    simp only
    -- the check of the last octet looks for a stray one, and none was written
    rw [if_neg]
    · exact hgroups
    · rintro ⟨-, hpadding, hnone⟩
      rcases hvalue with heq | hsome
      · exact hpadding heq
      · simp [Option.isNone_iff_eq_none.mp hnone] at hsome

theorem eq_encode_of_decode {text : String} {bytes : Bytes}
    (h : alphabet.decode text = .ok bytes) : text = alphabet.encode bytes := by
  -- a text is told by its octets, so it is enough to compare those
  apply Utf8.encode_injective
  rw [encode_octets proper]
  rw [decode, decodeBytes] at h
  split at h
  · split at h
    · cases h
    · exact eq_octets_of_decodeGroups proper h
  · rename_i hlast
    cases h
    exact List.getLast?_eq_none_iff.mp hlast

/-- Each octet string has exactly one text. -/
theorem decode_eq_ok_iff {text : String} {bytes : Bytes} :
    alphabet.decode text = .ok bytes ↔ text = alphabet.encode bytes := by
  constructor
  · intro h
    exact eq_encode_of_decode proper h
  · rintro rfl
    exact decode_encode proper bytes

theorem encode_injective {left right : Bytes} (h : alphabet.encode left = alphabet.encode right) :
    left = right := by
  have hback := decode_encode proper left
  rw [h, decode_encode proper right] at hback
  exact (Except.ok.inj hback).symm

omit proper in
theorem encode_eq_empty_iff {bytes : Bytes} : alphabet.encode bytes = "" ↔ bytes = [] := by
  constructor
  · intro h
    by_contra hne
    apply octets_ne_nil alphabet hne
    rw [encode] at h
    have hnil : alphabet.encodeChars bytes = [] := by simpa using h
    simp [octets, hnil]
  · rintro rfl
    rfl

end Texts

end Base64
end Possession

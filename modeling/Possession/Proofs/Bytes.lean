import Mathlib.Data.List.Induction
import Mathlib.Data.Nat.Log
import Mathlib.Tactic.Ring
import Possession.Bytes

/-!
# Octet strings as numbers

An octet string of a given length is the same thing as a number that fits the length: reading and
writing are inverse to each other, and the shortest form of a number reads back as the number.
-/

namespace Possession
namespace Bytes

/-! ## Single octets -/

theorem toNat_octet {value : Nat} (h : value < 256) : (UInt8.ofNat value).toNat = value :=
  UInt8.toNat_ofNat_of_lt' h

/-! ## Reading -/

theorem toNat_concat (bytes : Bytes) (byte : UInt8) :
    toNat (bytes ++ [byte]) = toNat bytes * 256 + byte.toNat := by
  simp [toNat]

theorem toNat_lt (bytes : Bytes) : toNat bytes < 256 ^ bytes.length := by
  -- from the back, as the number is built
  induction bytes using List.reverseRecOn with
  | nil =>
    simp [toNat]
  | append_singleton bytes byte ih =>
    have hbyte : byte.toNat < 256 := byte.toNat_lt
    rw [toNat_concat, List.length_append, List.length_singleton, pow_succ]
    omega

/-! ## Writing -/

@[simp]
theorem length_ofNatPadded (length value : Nat) : (ofNatPadded length value).length = length := by
  induction length generalizing value with
  | zero => rfl
  | succ length ih => simp [ofNatPadded, ih]

theorem toNat_ofNatPadded {length value : Nat} (h : value < 256 ^ length) :
    toNat (ofNatPadded length value) = value := by
  induction length generalizing value with
  | zero =>
    have hzero : value = 0 := by simpa using h
    simp [ofNatPadded, toNat, hzero]
  | succ length ih =>
    -- all but the lowest octet fit the length that is left
    have hhigh : value / 256 < 256 ^ length := by
      apply Nat.div_lt_of_lt_mul
      rwa [Nat.mul_comm, ← pow_succ]
    rw [ofNatPadded, toNat_concat, ih hhigh, UInt8.toNat_ofNat']
    omega

theorem ofNatPadded_toNat (bytes : Bytes) : ofNatPadded bytes.length (toNat bytes) = bytes := by
  induction bytes using List.reverseRecOn with
  | nil => rfl
  | append_singleton bytes byte ih =>
    have hbyte : byte.toNat < 256 := byte.toNat_lt
    have hhigh : (toNat bytes * 256 + byte.toNat) / 256 = toNat bytes := by omega
    -- the lowest octet is the remainder
    have hlow : UInt8.ofNat (toNat bytes * 256 + byte.toNat) = byte := by
      apply UInt8.toNat_inj.mp
      rw [UInt8.toNat_ofNat']
      omega
    rw [List.length_append, List.length_singleton, toNat_concat, ofNatPadded, hhigh, hlow, ih]

/-! ## Shortest forms -/

theorem lt_pow_width (value : Nat) : value < 256 ^ width value := by
  unfold width
  -- the shortest form of zero has no octet at all
  split
  · simp_all
  · have hlog : value < 2 ^ (value.log2 + 1) := Nat.lt_log2_self
    have hwidth : value.log2 + 1 ≤ 8 * (value.log2 / 8 + 1) := by omega
    calc
      value < 2 ^ (value.log2 + 1) := hlog
      _ ≤ 2 ^ (8 * (value.log2 / 8 + 1)) := Nat.pow_le_pow_right (by omega) hwidth
      _ = 256 ^ (value.log2 / 8 + 1) := by rw [pow_mul]; norm_num

@[simp]
theorem toNat_ofNat (value : Nat) : toNat (ofNat value) = value :=
  toNat_ofNatPadded (lt_pow_width value)

theorem ofNat_ne_nil {value : Nat} (h : value ≠ 0) : ofNat value ≠ [] := by
  intro hnil
  have hzero : toNat (ofNat value) = 0 := by rw [hnil]; rfl
  rw [toNat_ofNat] at hzero
  exact h hzero

/-! ## Zeros in front -/

theorem toNat_cons (byte : UInt8) (bytes : Bytes) :
    toNat (byte :: bytes) = byte.toNat * 256 ^ bytes.length + toNat bytes := by
  induction bytes using List.reverseRecOn with
  | nil => simp [toNat]
  | append_singleton bytes last ih =>
    rw [← List.cons_append, toNat_concat, toNat_concat, ih, List.length_append,
      List.length_singleton, pow_succ]
    ring

theorem pow_width_le {value : Nat} (h : value ≠ 0) : 256 ^ (width value - 1) ≤ value := by
  have hlog : 2 ^ value.log2 ≤ value := Nat.log2_self_le h
  rw [width, if_neg h, Nat.add_sub_cancel]
  calc
    256 ^ (value.log2 / 8) = 2 ^ (8 * (value.log2 / 8)) := by rw [pow_mul]; norm_num
    _ ≤ 2 ^ value.log2 := Nat.pow_le_pow_right (by omega) (by omega)
    _ ≤ value := hlog

/-- An octet string without a zero in front is as long as the shortest form of its number. -/
theorem width_toNat {bytes : Bytes} (h : bytes.head? ≠ some 0) :
    width (toNat bytes) = bytes.length := by
  cases bytes with
  | nil => simp [toNat, width]
  | cons first rest =>
    have hfirst : 1 ≤ first.toNat := by
      rw [Nat.one_le_iff_ne_zero]
      intro hzero
      exact h (congrArg some (UInt8.toNat_inj.mp hzero))
    have hlow : 256 ^ rest.length ≤ toNat (first :: rest) := by
      rw [toNat_cons]
      exact Nat.le_add_right_of_le (Nat.le_mul_of_pos_left _ hfirst)
    have hne : toNat (first :: rest) ≠ 0 := by
      have hpos : 0 < 256 ^ rest.length := Nat.pow_pos (by omega)
      omega
    -- the number lies between two powers of 256 that leave one width
    have hlt : rest.length < width (toNat (first :: rest)) :=
      (Nat.pow_lt_pow_iff_right (by omega)).mp (lt_of_le_of_lt hlow (lt_pow_width _))
    have hle : width (toNat (first :: rest)) - 1 < rest.length + 1 :=
      (Nat.pow_lt_pow_iff_right (by omega)).mp
        (lt_of_le_of_lt (pow_width_le hne) (toNat_lt (first :: rest)))
    rw [List.length_cons]
    omega

/-- An octet string without a zero in front is the shortest form of the number that it denotes. -/
theorem ofNat_toNat {bytes : Bytes} (h : bytes.head? ≠ some 0) : ofNat (toNat bytes) = bytes := by
  rw [ofNat, width_toNat h, ofNatPadded_toNat]

theorem head?_ofNat (value : Nat) : (ofNat value).head? ≠ some 0 := by
  intro hhead
  cases hbytes : ofNat value with
  | nil => simp [hbytes] at hhead
  | cons first rest =>
    rw [hbytes, List.head?_cons, Option.some.injEq] at hhead
    subst hhead
    -- the rest alone denotes the number, and is shorter than its shortest form
    have hvalue : toNat rest = value := by
      rw [← toNat_ofNat value, hbytes, toNat_cons]
      simp
    have hwidth : width value = rest.length + 1 := by
      rw [← length_ofNatPadded (width value) value, ← ofNat, hbytes, List.length_cons]
    have hne : value ≠ 0 := by
      rintro rfl
      cases hbytes
    have hle := pow_width_le hne
    rw [hwidth, Nat.add_sub_cancel] at hle
    exact absurd (toNat_lt rest) (by omega)

theorem ofNat_toNat_iff {bytes : Bytes} : ofNat (toNat bytes) = bytes ↔ bytes.head? ≠ some 0 := by
  constructor
  · intro h
    rw [← h]
    exact head?_ofNat _
  · exact ofNat_toNat

end Bytes
end Possession

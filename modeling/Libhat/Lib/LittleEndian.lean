import Mathlib.Data.Nat.Digits.Defs

/-!
# Integers in little-endian order

`bytes n v` are the lowest `n` bytes of the integer `v`, the lowest one first, and `value` is the
number that is written with such bytes.

* `value_bytes`: the round trip of an integer.
* `ofNat_value_iff`: bytes read as an integer are that integer exactly if they are its bytes.
-/

namespace LittleEndian

variable {w n : Nat}

/-- The lowest `n` bytes of an integer. -/
def bytes (n : Nat) (v : BitVec w) : List (BitVec 8) :=
  (List.range n).map fun i => v.extractLsb' (8 * i) 8

/-- The number that is written with the bytes. -/
def value (bs : List (BitVec 8)) : Nat := Nat.ofDigits 256 (bs.map BitVec.toNat)

@[simp] theorem length_bytes (n : Nat) (v : BitVec w) : (bytes n v).length = n := by
  rw [bytes, List.length_map, List.length_range]

theorem bytes_succ (n : Nat) (v : BitVec w) :
    bytes (n + 1) v = bytes n v ++ [v.extractLsb' (8 * n) 8] := by
  rw [bytes, List.range_succ, List.map_append]
  rfl

/-- The higher bits of an integer are not in its lowest bytes. -/
theorem bytes_setWidth (w' : Nat) (h : 8 * n ≤ w') (v : BitVec w) :
    bytes n (v.setWidth w') = bytes n v := by
  refine List.map_congr_left fun i hi => ?_
  have hlt := List.mem_range.mp hi
  exact BitVec.extractLsb'_setWidth_of_le (by omega)

theorem digit_lt {bs : List (BitVec 8)} {d : Nat} (hd : d ∈ bs.map BitVec.toNat) : d < 256 := by
  obtain ⟨b, _, rfl⟩ := List.mem_map.mp hd
  exact b.isLt

/-- **The round trip of an integer.** -/
theorem value_bytes (n : Nat) (v : BitVec w) : value (bytes n v) = v.toNat % 256 ^ n := by
  induction n with
  | zero => rw [Nat.pow_zero, Nat.mod_one]; rfl
  | succ n ih =>
    have hpow : (2 : Nat) ^ (8 * n) = 256 ^ n := by rw [Nat.pow_mul]
    have hlast : (v.extractLsb' (8 * n) 8).toNat = v.toNat / 256 ^ n % 256 := by
      rw [BitVec.extractLsb'_toNat, Nat.shiftRight_eq_div_pow, hpow]
    rw [value, bytes_succ, List.map_append, Nat.ofDigits_append, List.length_map, length_bytes]
    rw [← value, ih, List.map_singleton, Nat.ofDigits_singleton, hlast, Nat.pow_succ, Nat.mod_mul]

theorem value_inj {bs bs' : List (BitVec 8)} (hlength : bs.length = bs'.length)
    (hvalue : value bs = value bs') : bs = bs' := by
  have hdigits : bs.map BitVec.toNat = bs'.map BitVec.toNat := by
    refine Nat.ofDigits_inj_of_len_eq (by decide) ?_ (fun _ => digit_lt) (fun _ => digit_lt) hvalue
    rw [List.length_map, List.length_map, hlength]
  exact (List.map_inj_right fun _ _ => BitVec.eq_of_toNat_eq).mp hdigits

theorem value_lt (bs : List (BitVec 8)) : value bs < 256 ^ bs.length := by
  have hlt := Nat.ofDigits_lt_base_pow_length (b := 256) (by decide)
    (fun d (hd : d ∈ bs.map BitVec.toNat) => digit_lt hd)
  rwa [List.length_map] at hlt

/-- **Bytes read as an integer.** -/
theorem ofNat_value_iff {bs : List (BitVec 8)} {v : BitVec (8 * n)} (hlength : bs.length = n) :
    BitVec.ofNat (8 * n) (value bs) = v ↔ bs = bytes n v := by
  have hpow : (2 : Nat) ^ (8 * n) = 256 ^ n := by rw [Nat.pow_mul]
  have hlt : value bs < 256 ^ n := hlength ▸ value_lt bs
  have hv : v.toNat < 256 ^ n := hpow ▸ v.isLt
  rw [← BitVec.toNat_inj, BitVec.toNat_ofNat, hpow, Nat.mod_eq_of_lt hlt]
  constructor
  · intro h
    refine value_inj (by rw [length_bytes, hlength]) ?_
    rw [value_bytes, Nat.mod_eq_of_lt hv, h]
  · rintro rfl
    rw [value_bytes, Nat.mod_eq_of_lt hv]

end LittleEndian

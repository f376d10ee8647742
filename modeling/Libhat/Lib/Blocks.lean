import Mathlib.Data.Nat.Bitwise

/-!
# Blocks of equal size

Addresses fall into blocks of `n`, block `i` holding those from `n * i` up to
`n * (i + 1)`.

* `meets_iff`: the blocks that a range meets are those from the block of its first
  address to the block of its last one.
* `meets_aligned_iff`: a range of whole blocks meets just these.
* `toNat_and_not`: a mask that clears the low bits rounds down to a block.
-/

namespace Blocks

/-- Block `i` and the range of `len` addresses from `a` on have an address in common. -/
def Meets (n i a len : Nat) : Prop := ∃ x, a ≤ x ∧ x < a + len ∧ x / n = i

variable {n i a len : Nat}

/-- What holds of the blocks of a range, address by address. -/
theorem forall_meets {P : Nat → Prop} :
    (∀ i, Meets n i a len → P i) ↔ ∀ x, a ≤ x → x < a + len → P (x / n) := by
  constructor
  · intro h x hlo hhi
    exact h (x / n) ⟨x, hlo, hhi, rfl⟩
  · intro h i hi
    obtain ⟨x, hlo, hhi, rfl⟩ := hi
    exact h x hlo hhi

theorem meets_iff (hn : 0 < n) :
    Meets n i a len ↔ 0 < len ∧ a / n ≤ i ∧ i ≤ (a + len - 1) / n := by
  constructor
  · intro h
    obtain ⟨x, hax, hxl, rfl⟩ := h
    exact ⟨by omega, Nat.div_le_div_right hax, Nat.div_le_div_right (by omega)⟩
  · intro h
    obtain ⟨hlen, hlo, hhi⟩ := h
    by_cases hfirst : a / n = i
    · exact ⟨a, le_rfl, by omega, hfirst⟩
    · have hstart : a ≤ n * i := by
        have hlt : a / n < i := by omega
        have := (Nat.div_lt_iff_lt_mul hn).mp hlt
        rw [Nat.mul_comm]
        omega
      have hend : n * i ≤ a + len - 1 := by
        rw [Nat.mul_comm]
        exact (Nat.le_div_iff_mul_le hn).mp hhi
      exact ⟨n * i, hstart, by omega, Nat.mul_div_cancel_left i hn⟩

/-- **A range of whole blocks** meets the blocks it is made of. -/
theorem meets_aligned_iff (hn : 0 < n) {q c : Nat} :
    Meets n i (n * q) (n * c) ↔ q ≤ i ∧ i < q + c := by
  rw [meets_iff hn, Nat.mul_div_cancel_left q hn]
  have hlast : 0 < c → (n * q + n * c - 1) / n = q + c - 1 := by
    intro hc
    have hsplit : n * q + n * c - 1 = n - 1 + n * (q + c - 1) := by
      have hsum : n * q + n * c = n * (q + c - 1) + n := by
        rw [← Nat.mul_add, ← Nat.mul_succ]
        congr 1
        omega
      omega
    rw [hsplit, Nat.add_mul_div_left _ _ hn, Nat.div_eq_of_lt (by omega), Nat.zero_add]
  constructor
  · intro h
    obtain ⟨hpos, hlo, hhi⟩ := h
    have hc : 0 < c := Nat.pos_of_mul_pos_left hpos
    rw [hlast hc] at hhi
    omega
  · intro h
    have hc : 0 < c := by omega
    rw [hlast hc]
    exact ⟨Nat.mul_pos hn hc, h.1, by omega⟩

/-- **Clearing the low bits rounds down.** -/
theorem toNat_and_not {w k : Nat} (hk : k < w) {x m : BitVec w} (hm : m.toNat = 2 ^ k) :
    (x &&& ~~~(m - 1#w)).toNat = 2 ^ k * (x.toNat / 2 ^ k) := by
  have hpow : 2 ^ k < 2 ^ w := Nat.pow_lt_pow_right (by decide) hk
  have hone : (1#w).toNat = 1 := by
    rw [BitVec.toNat_ofNat]
    exact Nat.mod_eq_of_lt (Nat.lt_of_le_of_lt (Nat.one_le_two_pow) hpow)
  have hsub : (m - 1#w).toNat = 2 ^ k - 1 := by
    rw [BitVec.toNat_sub_of_le, hm, hone]
    rw [BitVec.le_def, hm, hone]
    exact Nat.one_le_two_pow
  have hbits : x &&& ~~~(m - 1#w) = (x >>> k) <<< k := by
    apply BitVec.eq_of_getLsbD_eq
    intro i hi
    have hlow : (m - 1#w).getLsbD i = decide (i < k) := by
      rw [BitVec.getLsbD, hsub, Nat.testBit_two_pow_sub_one]
    rw [BitVec.getLsbD_and, BitVec.getLsbD_not, hlow, BitVec.getLsbD_shiftLeft,
      BitVec.getLsbD_ushiftRight]
    by_cases hik : i < k
    · simp [hik]
    · simp [hik, hi, Nat.add_sub_cancel' (Nat.le_of_not_lt hik)]
  have hlt : 2 ^ k * (x.toNat / 2 ^ k) < 2 ^ w :=
    Nat.lt_of_le_of_lt (Nat.mul_div_le _ _) x.isLt
  rw [hbits, BitVec.toNat_shiftLeft, BitVec.toNat_ushiftRight, Nat.shiftRight_eq_div_pow,
    Nat.shiftLeft_eq, Nat.mul_comm, Nat.mod_eq_of_lt hlt]

end Blocks

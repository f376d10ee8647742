import Mathlib.Order.Bounds.Basic
import Mathlib.Order.Interval.Set.Defs
import Mathlib.Data.Nat.Bitwise

/-!
# Scanning the set bits of a mask

A bit mask stands for the set of its set bits.  A scanning loop takes the lowest
one, counts the zeros below it, and clears it.

* `isLeast_ctz`: the count of trailing zeros is the lowest set bit.
* `bits_and_sub_one`: `x & (x - 1)` clears exactly that bit.
* `Uniform g x`: `x` holds one flag per lane of `g` bits; then the lane of the
  lowest set bit is the lowest lane (`isLeast_lanes`), and an exclusive or with
  `g` ones at that bit clears exactly that lane (`lanes_xor`).
-/

namespace BitScan

variable {w : Nat}

/-- The set bits. -/
def bits (x : BitVec w) : Set Nat := {i | x.getLsbD i = true}

theorem bits_zero : bits (0#w) = ∅ := by
  simp [bits]

theorem lt_of_mem_bits {x : BitVec w} {i : Nat} (h : i ∈ bits x) : i < w :=
  BitVec.lt_of_getLsbD h

theorem isLeast_ctz {x : BitVec w} (hx : x ≠ 0#w) : IsLeast (bits x) x.ctz.toNat := by
  refine ⟨BitVec.getLsbD_true_ctz_of_ne_zero hx, fun i hi => ?_⟩
  by_contra hlt
  have := BitVec.getLsbD_false_of_lt_ctz (x := x) (i := i) (by omega)
  exact absurd (this.symm.trans hi) (by decide)

theorem le_ctz_zero : w ≤ (0#w).ctz.toNat := by
  have h : ¬ (0#w).ctz < (w : BitVec w) := fun h => BitVec.ctz_lt_iff_ne_zero.mp h rfl
  have hw := Nat.lt_two_pow_self (n := w)
  rw [BitVec.natCast_eq_ofNat, BitVec.lt_def, BitVec.toNat_ofNat, Nat.mod_eq_of_lt hw] at h
  omega

/-- A mask whose bits all lie above the lowest bit of `x` has more trailing zeros. -/
theorem ctz_lt_ctz {x y : BitVec w} (hx : x ≠ 0#w) (h : bits y ⊆ bits x \ {x.ctz.toNat}) :
    w - y.ctz.toNat < w - x.ctz.toNat := by
  have hlt := lt_of_mem_bits (isLeast_ctz hx).1
  by_cases hy : y = 0#w
  · have := le_ctz_zero (w := w)
    rw [hy]
    omega
  · obtain ⟨hmem, hne⟩ := h (isLeast_ctz hy).1
    have hle := (isLeast_ctz hx).2 hmem
    have hne' : y.ctz.toNat ≠ x.ctz.toNat := hne
    omega

/-- **Clearing the lowest bit**: `x & (x - 1)`. -/
theorem bits_and_sub_one {x : BitVec w} (hx : x ≠ 0#w) :
    bits (x &&& (x - 1#w)) = bits x \ {x.ctz.toNat} := by
  obtain ⟨hmem, hleast⟩ := isLeast_ctz hx
  have hkw := lt_of_mem_bits hmem
  generalize x.ctz.toNat = k at *
  -- `x` is `2 ^ k` above a multiple of `2 ^ (k + 1)`
  have hlow : x.toNat % 2 ^ (k + 1) = 2 ^ k := by
    apply Nat.eq_of_testBit_eq
    intro i
    rw [Nat.testBit_mod_two_pow, Nat.testBit_two_pow]
    by_cases hik : k = i
    · subst hik
      have : x.toNat.testBit k = true := hmem
      simp [this]
    · rw [decide_eq_false hik]
      by_cases hlt : i < k + 1
      · have hni : i ∉ bits x := fun h => by have := hleast h; omega
        have : x.toNat.testBit i = false := by simpa [bits, BitVec.getLsbD] using hni
        simp [this]
      · simp [hlt]
  obtain ⟨h, hh⟩ : ∃ h, x.toNat = 2 ^ (k + 1) * h + 2 ^ k :=
    ⟨x.toNat / 2 ^ (k + 1), by rw [← hlow, Nat.div_add_mod]⟩
  have hpos : 0 < 2 ^ k := Nat.two_pow_pos k
  have hsub : (x - 1#w).toNat = 2 ^ (k + 1) * h + (2 ^ k - 1) := by
    rw [BitVec.toNat_sub_of_le]
    · rw [hh]
      have : (1#w).toNat = 1 := by
        rw [BitVec.toNat_ofNat, Nat.mod_eq_of_lt]
        exact Nat.one_lt_two_pow (by omega)
      rw [this]
      omega
    · rw [BitVec.le_def, BitVec.toNat_ofNat]
      have := Nat.mod_le 1 (2 ^ w)
      omega
  ext i
  simp only [bits, Set.mem_ofPred_eq, BitVec.getLsbD_and, Bool.and_eq_true, Set.mem_sdiff,
    Set.mem_singleton_iff]
  apply and_congr_right
  intro hi
  have hki : k ≤ i := hleast hi
  have hlt : 2 ^ k - 1 < 2 ^ (k + 1) := by rw [pow_succ]; omega
  have hlt' : 2 ^ k < 2 ^ (k + 1) := by rw [pow_succ]; omega
  rw [BitVec.getLsbD, hsub, Nat.testBit_two_pow_mul_add _ hlt]
  have hi' : x.toNat.testBit i = true := hi
  rw [hh, Nat.testBit_two_pow_mul_add _ hlt'] at hi'
  by_cases hik : i = k
  · subst hik
    simp [Nat.testBit_two_pow_sub_one]
  · rw [if_neg (by omega)] at hi' ⊢
    simp [hi', hik]

/-! ### Masks with one flag per lane -/

/-- Every bit of a lane of `g` bits equals the lane's first bit. -/
def Uniform (g : Nat) (x : BitVec w) : Prop :=
  ∀ i < w, x.getLsbD i = x.getLsbD (g * (i / g))

/-- The lanes whose flag is set. -/
def lanes (g : Nat) (x : BitVec w) : Set Nat := {l | x.getLsbD (g * l) = true}

variable {g : Nat} {x : BitVec w}

theorem Uniform.ctz_eq (h : Uniform g x) (hx : x ≠ 0#w) :
    x.ctz.toNat = g * (x.ctz.toNat / g) := by
  obtain ⟨hmem, hleast⟩ := isLeast_ctz hx
  have hlane : g * (x.ctz.toNat / g) ∈ bits x := (h _ (lt_of_mem_bits hmem)).symm.trans hmem
  exact le_antisymm (hleast hlane) (Nat.mul_div_le _ _)

theorem lanes_zero : lanes g (0#w) = ∅ := by
  simp [lanes]

/-- **The lane of the lowest set bit is the lowest lane.** -/
theorem Uniform.isLeast_lanes (h : Uniform g x) (hg : 0 < g) (hx : x ≠ 0#w) :
    IsLeast (lanes g x) (x.ctz.toNat / g) := by
  obtain ⟨hmem, hleast⟩ := isLeast_ctz hx
  refine ⟨(h _ (lt_of_mem_bits hmem)).symm.trans hmem, fun l hl => ?_⟩
  have hle : x.ctz.toNat ≤ g * l := hleast hl
  rw [h.ctz_eq hx] at hle
  exact Nat.le_of_mul_le_mul_left hle hg

/-- `g` ones at bit `g * l`. -/
theorem getLsbD_ones_shiftLeft (l i : Nat) (hi : i < w) (hg : 0 < g) :
    (BitVec.ofNat w (2 ^ g - 1) <<< (g * l)).getLsbD i = decide (i / g = l) := by
  rw [BitVec.getLsbD_shiftLeft, BitVec.getLsbD_ofNat, Nat.testBit_two_pow_sub_one]
  have hdiv := Nat.div_add_mod i g
  have hmod := Nat.mod_lt i hg
  by_cases hil : i / g = l
  · subst hil
    have h1 : ¬ i < g * (i / g) := by omega
    have h2 : i - g * (i / g) < g := by omega
    simp [hi, h1, h2, show i - g * (i / g) < w by omega]
  · rw [decide_eq_false hil]
    rcases Nat.lt_or_gt_of_ne hil with hlt | hgt
    · have := Nat.mul_le_mul_left g hlt
      rw [Nat.mul_succ] at this
      simp [show i < g * l by omega]
    · have := Nat.mul_le_mul_left g hgt
      rw [Nat.mul_succ] at this
      simp [show ¬ i - g * l < g by omega]

/-- **Clearing the lowest lane** with an exclusive or keeps the mask uniform. -/
theorem Uniform.xor (h : Uniform g x) (hg : 0 < g) (hx : x ≠ 0#w) :
    Uniform g (x ^^^ (BitVec.ofNat w (2 ^ g - 1) <<< x.ctz.toNat)) := by
  intro i hi
  have hle : g * (i / g) ≤ i := Nat.mul_div_le i g
  rw [h.ctz_eq hx, BitVec.getLsbD_xor, BitVec.getLsbD_xor, getLsbD_ones_shiftLeft _ _ hi hg,
    getLsbD_ones_shiftLeft _ _ (by omega) hg, Nat.mul_div_cancel_left _ hg, h i hi]

theorem Uniform.bits_xor (h : Uniform g x) (hg : 0 < g) (hx : x ≠ 0#w) :
    bits (x ^^^ (BitVec.ofNat w (2 ^ g - 1) <<< x.ctz.toNat)) ⊆ bits x \ {x.ctz.toNat} := by
  have hk := (isLeast_ctz hx).1
  have hkw := lt_of_mem_bits hk
  have hctz := h.ctz_eq hx
  intro i hi
  have hiw := lt_of_mem_bits hi
  have hi' : (x ^^^ (BitVec.ofNat w (2 ^ g - 1) <<< x.ctz.toNat)).getLsbD i = true := hi
  rw [hctz, BitVec.getLsbD_xor, getLsbD_ones_shiftLeft _ _ hiw hg] at hi'
  by_cases hlane : i / g = x.ctz.toNat / g
  · -- the bits of the lane were all set, and are now all clear
    have hset : x.getLsbD i = true := by
      rw [h i hiw, hlane, ← hctz]
      exact hk
    simp [hset, hlane] at hi'
  · rw [decide_eq_false hlane, Bool.xor_false] at hi'
    exact ⟨hi', fun he => hlane (congrArg (· / g) he)⟩

theorem Uniform.lanes_xor (h : Uniform g x) (hg : 0 < g) (hx : x ≠ 0#w) :
    lanes g (x ^^^ (BitVec.ofNat w (2 ^ g - 1) <<< x.ctz.toNat))
      = lanes g x \ {x.ctz.toNat / g} := by
  have hk := (isLeast_ctz hx).1
  have hctz := h.ctz_eq hx
  ext l
  simp only [lanes, Set.mem_ofPred_eq, Set.mem_sdiff, Set.mem_singleton_iff]
  by_cases hlw : g * l < w
  · rw [hctz, BitVec.getLsbD_xor, getLsbD_ones_shiftLeft _ _ hlw hg, Nat.mul_div_cancel_left _ hg,
      Nat.mul_div_cancel_left _ hg]
    by_cases hl : l = x.ctz.toNat / g
    · have hset : x.getLsbD (g * (x.ctz.toNat / g)) = true := by rw [← hctz]; exact hk
      simp [hset, hl]
    · simp [hl]
  · simp [BitVec.getLsbD_of_ge _ _ (Nat.le_of_not_lt hlw)]

end BitScan

import Mathlib.Data.Nat.Bitwise
import Mathlib.Data.List.Induction

/-!
# Patterns of digits

A pattern is a sequence of digits of `g` bits, the most significant first, in
which some digits are left open.  Reading it digit by digit gives two numbers:
the `value`, with zero for an open digit, and the `mask`, with ones for every
digit that is given.

* `and_mask_eq_iff`: a number equals the value under the mask exactly when its
  digits are the given ones.
* `mask_eq_iff`: the mask is full exactly when no digit is open.
-/

namespace DigitPattern

/-- Digits, most significant first; `none` is an open digit. -/
abbrev Pattern := List (Option Nat)

/-- The value read so far, moved up, with one more digit. -/
def value (g : Nat) (p : Pattern) : Nat := p.foldl (fun v o => v * 2 ^ g + o.getD 0) 0

/-- The mask read so far, moved up, with the ones of one more digit. -/
def mask (g : Nat) (p : Pattern) : Nat :=
  p.foldl (fun m o => m * 2 ^ g + if o.isSome then 2 ^ g - 1 else 0) 0

/-- The digits of `x` are the given ones. -/
def Agrees (g : Nat) (p : Pattern) (x : Nat) : Prop :=
  ∀ (i : Nat) (h : i < p.length) (d : Nat), p[i] = some d →
    x / 2 ^ (g * (p.length - 1 - i)) % 2 ^ g = d

/-- Every given digit has at most `g` bits. -/
def Bounded (g : Nat) (p : Pattern) : Prop := ∀ d, some d ∈ p → d < 2 ^ g

variable {g : Nat} {p : Pattern} {o : Option Nat}

theorem value_append : value g (p ++ [o]) = value g p * 2 ^ g + o.getD 0 := by
  simp [value, List.foldl_append]

theorem mask_append :
    mask g (p ++ [o]) = mask g p * 2 ^ g + if o.isSome then 2 ^ g - 1 else 0 := by
  simp [mask, List.foldl_append]

theorem Bounded.init (h : Bounded g (p ++ [o])) : Bounded g p := by
  intro d hd
  exact h d (List.mem_append_left _ hd)

theorem Bounded.getD_lt (h : Bounded g (p ++ [o])) : o.getD 0 < 2 ^ g := by
  cases o with
  | none => exact Nat.two_pow_pos g
  | some d => exact h d (by simp)

theorem lt_two_pow_succ {a b n : Nat} (ha : a < 2 ^ (g * n)) (hb : b < 2 ^ g) :
    a * 2 ^ g + b < 2 ^ (g * (n + 1)) := by
  have hpow : 2 ^ (g * (n + 1)) = 2 ^ (g * n) * 2 ^ g := by rw [Nat.mul_succ, Nat.pow_add]
  have hmul := Nat.mul_le_mul_right (2 ^ g) (Nat.succ_le_of_lt ha)
  rw [Nat.succ_mul] at hmul
  omega

theorem value_lt (h : Bounded g p) : value g p < 2 ^ (g * p.length) := by
  induction p using List.reverseRecOn with
  | nil => simp [value]
  | append_singleton p o ih =>
    rw [value_append, List.length_append]
    exact lt_two_pow_succ (ih h.init) h.getD_lt

theorem mask_lt : mask g p < 2 ^ (g * p.length) := by
  induction p using List.reverseRecOn with
  | nil => simp [mask]
  | append_singleton p o ih =>
    rw [mask_append, List.length_append]
    refine lt_two_pow_succ ih ?_
    have hpos := Nat.two_pow_pos g
    split <;> omega

theorem agrees_append {x : Nat} :
    Agrees g (p ++ [o]) x ↔ Agrees g p (x / 2 ^ g) ∧ ∀ d, o = some d → x % 2 ^ g = d := by
  have hlen : (p ++ [o]).length = p.length + 1 := by simp
  have hdiv : ∀ i < p.length, x / 2 ^ (g * ((p ++ [o]).length - 1 - i))
      = x / 2 ^ g / 2 ^ (g * (p.length - 1 - i)) := by
    intro i hi
    have hsub : (p ++ [o]).length - 1 - i = p.length - 1 - i + 1 := by omega
    rw [hsub, Nat.mul_succ, Nat.add_comm, Nat.pow_add, Nat.div_div_eq_div_mul]
  constructor
  · intro h
    refine ⟨fun i hi d hd => ?_, fun d hd => ?_⟩
    · rw [← hdiv i hi]
      exact h i (by omega) d (by rw [List.getElem_append_left hi]; exact hd)
    · have hlast := h p.length (by omega) d (by simpa using hd)
      have hzero : (p ++ [o]).length - 1 - p.length = 0 := by omega
      rwa [hzero, Nat.mul_zero, Nat.pow_zero, Nat.div_one] at hlast
  · intro h i hi d hd
    obtain ⟨hinit, hlast⟩ := h
    by_cases hip : i < p.length
    · rw [List.getElem_append_left hip] at hd
      rw [hdiv i hip]
      exact hinit i hip d hd
    · have hi' : i = p.length := by omega
      subst hi'
      have hzero : (p ++ [o]).length - 1 - p.length = 0 := by omega
      rw [hzero, Nat.mul_zero, Nat.pow_zero, Nat.div_one]
      exact hlast d (by simpa using hd)

/-- A conjunction of two numbers works on their parts. -/
theorem mul_two_pow_add_and {q m a b : Nat} (ha : a < 2 ^ g) (hb : b < 2 ^ g) :
    (q * 2 ^ g + a) &&& (m * 2 ^ g + b) = (q &&& m) * 2 ^ g + (a &&& b) := by
  have hab : a &&& b < 2 ^ g := Nat.lt_of_le_of_lt Nat.and_le_left ha
  apply Nat.eq_of_testBit_eq
  intro i
  rw [Nat.testBit_and, Nat.mul_comm q, Nat.mul_comm m, Nat.mul_comm (q &&& m),
    Nat.testBit_two_pow_mul_add _ ha, Nat.testBit_two_pow_mul_add _ hb,
    Nat.testBit_two_pow_mul_add _ hab]
  by_cases hi : i < g
  · rw [if_pos hi, if_pos hi, if_pos hi, Nat.testBit_and]
  · rw [if_neg hi, if_neg hi, if_neg hi, Nat.testBit_and]

theorem mul_two_pow_add_inj {a b c d : Nat} (hc : c < 2 ^ g) (hd : d < 2 ^ g) :
    a * 2 ^ g + c = b * 2 ^ g + d ↔ a = b ∧ c = d := by
  constructor
  · intro h
    have hmod := congrArg (· % 2 ^ g) h
    simp only [Nat.mul_add_mod_self_right, Nat.mod_eq_of_lt hc, Nat.mod_eq_of_lt hd] at hmod
    refine ⟨?_, hmod⟩
    rw [hmod] at h
    exact Nat.eq_of_mul_eq_mul_right (Nat.two_pow_pos g) (by omega)
  · intro h
    rw [h.1, h.2]

/-- **A number equals the value under the mask exactly when its digits agree.** -/
theorem and_mask_eq_iff (h : Bounded g p) {x : Nat} (hx : x < 2 ^ (g * p.length)) :
    x &&& mask g p = value g p &&& mask g p ↔ Agrees g p x := by
  induction p using List.reverseRecOn generalizing x with
  | nil => exact ⟨fun _ i hi => absurd hi (Nat.not_lt_zero i), fun _ => by simp [mask]⟩
  | append_singleton p o ih =>
    have hpos := Nat.two_pow_pos g
    have hmod : x % 2 ^ g < 2 ^ g := Nat.mod_lt x hpos
    have hs : (if o.isSome then 2 ^ g - 1 else 0) < 2 ^ g := by split <;> omega
    have hdiv : x / 2 ^ g < 2 ^ (g * p.length) := by
      rw [Nat.div_lt_iff_lt_mul hpos, ← Nat.pow_add, ← Nat.mul_succ]
      simpa using hx
    have hdigit : (x % 2 ^ g &&& if o.isSome then 2 ^ g - 1 else 0)
        = (o.getD 0 &&& if o.isSome then 2 ^ g - 1 else 0) ↔
          ∀ d, o = some d → x % 2 ^ g = d := by
      cases o with
      | none => simp
      | some d =>
        have hd : d < 2 ^ g := h.getD_lt
        simp [Nat.and_two_pow_sub_one_eq_mod, Nat.mod_eq_of_lt hd]
    have hx' : x = x / 2 ^ g * 2 ^ g + x % 2 ^ g := by rw [Nat.mul_comm, Nat.div_add_mod]
    rw [agrees_append, ← ih h.init hdiv, ← hdigit, mask_append, value_append]
    conv_lhs => rw [hx']
    rw [mul_two_pow_add_and hmod hs, mul_two_pow_add_and h.getD_lt hs]
    exact mul_two_pow_add_inj (Nat.lt_of_le_of_lt Nat.and_le_left hmod)
      (Nat.lt_of_le_of_lt Nat.and_le_left h.getD_lt)

/-- **The mask is full exactly when no digit is open.** -/
theorem mask_eq_iff (hg : 0 < g) : mask g p = 2 ^ (g * p.length) - 1 ↔ none ∉ p := by
  induction p using List.reverseRecOn with
  | nil => simp [mask]
  | append_singleton p o ih =>
    have hone : 1 < 2 ^ g := Nat.one_lt_two_pow (by omega)
    have hpos := Nat.two_pow_pos (g * p.length)
    have hsplit : 2 ^ (g * (p ++ [o]).length) - 1
        = (2 ^ (g * p.length) - 1) * 2 ^ g + (2 ^ g - 1) := by
      have hpow : 2 ^ (g * (p ++ [o]).length) = 2 ^ (g * p.length) * 2 ^ g := by
        rw [List.length_append, List.length_singleton, Nat.mul_succ, Nat.pow_add]
      have hle : 2 ^ g ≤ 2 ^ (g * p.length) * 2 ^ g := Nat.le_mul_of_pos_left _ hpos
      rw [hpow, Nat.sub_mul]
      omega
    have hs : (if o.isSome then 2 ^ g - 1 else 0) < 2 ^ g := by split <;> omega
    rw [mask_append, hsplit, mul_two_pow_add_inj hs (by omega), ih, List.mem_append,
      List.mem_singleton]
    cases o with
    | none => simp; omega
    | some d => simp

end DigitPattern

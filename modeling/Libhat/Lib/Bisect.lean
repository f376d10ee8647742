import Mathlib.Order.Defs.LinearOrder
import Mathlib.Order.Basic
import Mathlib.Algebra.Order.Group.Nat

/-!
# Bisection

`bisect below first len` halves a range of `len` indices from `first` on until
it knows where `below` ends.  When `below` holds on an initial segment of the
range, the answer parts the range: `below` holds before it and fails from it on
(`bisect_parts`).  On a strictly increasing sequence it is therefore the index
of the value that was looked for, if there is one (`bisect_eq_of_increasing`).
-/

namespace Bisect

/-- The index at which `below` ends, on the `len` indices from `first` on. -/
def bisect (below : Nat → Bool) (first len : Nat) : Nat :=
  if len = 0 then first
  else if below (first + len / 2) then
    bisect below (first + len / 2 + 1) (len - len / 2 - 1)
  else bisect below first (len / 2)
termination_by len

/-- `below` holds on the indices from `first` on that lie before `r`, and fails
on those from `r` to `last`. -/
structure Parts (below : Nat → Bool) (first last r : Nat) : Prop where
  first_le : first ≤ r
  le_last : r ≤ last
  holds : ∀ i, first ≤ i → i < r → below i = true
  fails : ∀ i, r ≤ i → i < last → below i = false

variable {below : Nat → Bool} {first middle last r : Nat}

theorem Parts.empty (below : Nat → Bool) (first : Nat) : Parts below first first first where
  first_le := le_rfl
  le_last := le_rfl
  holds := fun i h h' => by omega
  fails := fun i h h' => by omega

/-- Going on behind `middle`, up to which `below` holds. -/
theorem Parts.upper (h : Parts below (middle + 1) last r) (hle : first ≤ middle)
    (hlow : ∀ i, first ≤ i → i ≤ middle → below i = true) : Parts below first last r where
  first_le := by
    have hr := h.first_le
    omega
  le_last := h.le_last
  holds := fun i hi hir => by
    by_cases hm : i ≤ middle
    · exact hlow i hi hm
    · exact h.holds i (by omega) hir
  fails := h.fails

/-- Going on before `middle`, from which `below` fails. -/
theorem Parts.lower (h : Parts below first middle r) (hle : middle ≤ last)
    (hhigh : ∀ i, middle ≤ i → i < last → below i = false) : Parts below first last r where
  first_le := h.first_le
  le_last := h.le_last.trans hle
  holds := h.holds
  fails := fun i hi hil => by
    by_cases hm : i < middle
    · exact h.fails i hi hm
    · exact hhigh i (by omega) hil

/-- **Bisection finds the end of `below`**, where `below` holds at every index
that comes before one at which it holds. -/
theorem bisect_parts (below : Nat → Bool) (first len : Nat)
    (hmono : ∀ i j, first ≤ i → i ≤ j → j < first + len → below j = true → below i = true) :
    Parts below first (first + len) (bisect below first len) := by
  fun_induction bisect below first len with
  | case1 first => exact Parts.empty below first
  | case2 first len hlen hmid ih =>
    have hlast : first + len / 2 + 1 + (len - len / 2 - 1) = first + len := by omega
    rw [hlast] at ih
    refine (ih fun i j hi hij hj => ?_).upper (Nat.le_add_right _ _) fun i hi him => ?_
    · exact hmono i j (by omega) hij hj
    · exact hmono i _ hi him (by omega) hmid
  | case3 first len hlen hmid ih =>
    refine (ih fun i j hi hij hj => ?_).lower (by omega) fun i hi hil => ?_
    · exact hmono i j hi hij (by omega)
    · rw [← Bool.not_eq_true]
      intro htrue
      exact hmid (hmono _ i (by omega) hi hil htrue)

variable {α : Type} [LinearOrder α]

/-- **Looking a value up in an increasing sequence.** -/
theorem bisect_eq_of_increasing {f : Nat → α} {n : Nat}
    (hf : ∀ i j, i < j → j < n → f i < f j) {i : Nat} (hi : i < n) :
    bisect (fun j => decide (f j < f i)) 0 n = i := by
  have hparts := bisect_parts (fun j => decide (f j < f i)) 0 n (by
    intro j k _ hjk hk hlt
    rw [Nat.zero_add] at hk
    rw [decide_eq_true_iff] at hlt ⊢
    rcases Nat.eq_or_lt_of_le hjk with rfl | hjk'
    · exact hlt
    · exact (hf j k hjk' hk).trans hlt)
  rw [Nat.zero_add] at hparts
  apply Nat.le_antisymm
  · by_contra hgt
    have hhold := hparts.holds i (Nat.zero_le i) (by omega)
    rw [decide_eq_true_iff] at hhold
    exact lt_irrefl _ hhold
  · by_contra hlt
    have hfail := hparts.fails _ le_rfl (show _ < n by omega)
    rw [decide_eq_false_iff_not] at hfail
    exact hfail (hf _ i (by omega) hi)

end Bisect

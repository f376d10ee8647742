import Libhat.Lib.Visit
import Libhat.Linux.MemoryProtector
import Mathlib.Data.List.Find

/-!
# The list of mapped regions

The lines of `/proc/self/maps` that parse give a list of regions, and what
`iter_mapped_regions` does with a file is what it would do with that list.

* `iterMappedRegions_eq`: the lines that do not parse are passed over.
* `getPageProt_eq`: `get_page_prot` finds the first region with the address.
* `getPageProt_eq_pagesOf`: where the bounds are those of pages, that is the protection of
  the page of the address.
-/

namespace Libhat.Linux

open Visit

/-- A region: its bounds and its protection. -/
abbrev Region := Nat × Nat × BitVec 32

/-- The address lies in the region. -/
def Region.Contains (r : Region) (a : Nat) : Prop := r.1 ≤ a ∧ a < r.2.1

instance (r : Region) (a : Nat) : Decidable (r.Contains a) :=
  inferInstanceAs (Decidable (_ ∧ _))

/-- The regions that a file describes. -/
def mappedRegions (maps : Text) : List Region := (getlines maps).filterMap parseRegion

/-- Regions that are not empty, in the order of their addresses and apart from each other. -/
def Sorted (regions : List Region) : Prop :=
  (∀ r ∈ regions, r.1 < r.2.1) ∧ regions.Pairwise fun r r' => r.2.1 ≤ r'.1

instance (regions : List Region) : Decidable (Sorted regions) :=
  inferInstanceAs (Decidable (_ ∧ _))

/-- `iter_mapped_regions` on a list of regions. -/
def iterRegions {σ : Type} (callback : Nat → Nat → BitVec 32 → σ → σ × Bool) :
    List Region → σ → σ
  | [], s => s
  | (pageBegin, pageEnd, prot) :: regions, s =>
    match callback pageBegin pageEnd prot s with
    | (s', true) => iterRegions callback regions s'
    | (s', false) => s'

/-- **Only the lines that parse matter.** -/
theorem iterMappedRegions_eq {σ : Type} (callback : Nat → Nat → BitVec 32 → σ → σ × Bool)
    (lines : List Text) (s : σ) :
    iterMappedRegions callback lines s = iterRegions callback (lines.filterMap parseRegion) s := by
  induction lines generalizing s with
  | nil => rfl
  | cons line lines ih =>
    cases hline : parseRegion line with
    | none =>
      rw [List.filterMap_cons_none hline]
      simp only [iterMappedRegions, hline]
      exact ih s
    | some r =>
      obtain ⟨pageBegin, pageEnd, prot⟩ := r
      rw [List.filterMap_cons_some hline]
      simp only [iterMappedRegions, hline, iterRegions]
      rcases callback pageBegin pageEnd prot s with ⟨s', goOn⟩
      cases goOn with
      | false => rfl
      | true => exact ih s'

theorem iterRegions_eq_visit {σ : Type} (callback : Nat → Nat → BitVec 32 → σ → σ × Bool)
    (regions : List Region) (s : σ) :
    iterRegions callback regions s =
      (visit (fun r => callback r.1 r.2.1 r.2.2) regions s).1 := by
  induction regions generalizing s with
  | nil => rfl
  | cons r regions ih =>
    obtain ⟨pageBegin, pageEnd, prot⟩ := r
    rw [iterRegions, visit]
    rcases callback pageBegin pageEnd prot s with ⟨s', goOn⟩
    cases goOn with
    | false => rfl
    | true => exact ih s'

/-- **`get_page_prot`** is the protection of the first region with the address. -/
theorem getPageProt_eq (maps : Text) (address : BitVec 64) :
    getPageProt maps address
      = ((mappedRegions maps).find? fun r => r.Contains address.toNat).map fun r => r.2.2 := by
  have hfind := visit_find? (fun r : Region => decide (r.Contains address.toNat))
    (fun r => some r.2.2) (mappedRegions maps) none
  simp only [decide_eq_true_eq] at hfind
  rw [getPageProt, iterMappedRegions_eq, ← mappedRegions, iterRegions_eq_visit]
  refine hfind.trans ?_
  cases (mappedRegions maps).find? fun r => r.Contains address.toNat <;> rfl

/-- The protection of the pages of `n` addresses that regions give. -/
def pagesOf (n : Nat) (regions : List Region) : PageMap := fun page =>
  (regions.find? fun r => r.1 / n ≤ page ∧ page < r.2.1 / n).map fun r => r.2.2

/-- A region of whole pages has an address if it has its page. -/
theorem contains_iff_of_dvd {n : Nat} (hn : 0 < n) {r : Region} (hbegin : n ∣ r.1)
    (hend : n ∣ r.2.1) (a : Nat) :
    r.Contains a ↔ r.1 / n ≤ a / n ∧ a / n < r.2.1 / n := by
  have hhi : a / n < r.2.1 / n ↔ a < r.2.1 := by
    rw [Nat.div_lt_iff_lt_mul hn, Nat.div_mul_cancel hend]
  have hlo : r.1 / n ≤ a / n ↔ r.1 ≤ a := by
    rw [Nat.le_div_iff_mul_le hn, Nat.div_mul_cancel hbegin]
  rw [hlo, hhi]
  rfl

/-- **A file with regions of whole pages** shows the protection of every page. -/
theorem getPageProt_eq_pagesOf {n : Nat} (hn : 0 < n) {maps : Text}
    (hpages : ∀ r ∈ mappedRegions maps, n ∣ r.1 ∧ n ∣ r.2.1) (address : BitVec 64) :
    getPageProt maps address = pagesOf n (mappedRegions maps) (address.toNat / n) := by
  rw [getPageProt_eq, pagesOf]
  congr 1
  refine List.find?_congr fun r hr => ?_
  obtain ⟨hbegin, hend⟩ := hpages r hr
  rw [decide_eq_decide]
  exact contains_iff_of_dvd hn hbegin hend address.toNat

/-- A file with a single page. -/
def onePage : Text := "10000000-10001000 r--p 0".toList

theorem mappedRegions_onePage : mappedRegions onePage = [(0x10000000, 0x10001000, 1#32)] := by
  decide

end Libhat.Linux

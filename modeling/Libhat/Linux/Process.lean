import Libhat.Linux.Regions

/-!
# The protection of a region on Linux

`is_readable`, `is_writable` and `is_executable` ask whether all of a region of memory
has a protection.  `regionHasFlag` goes through the mapped regions with a cursor, which
starts at the begin of the region and moves to the end of every mapped region that
continues it.

* `regionHasFlag_iff`: the answer is whether every address of the region is mapped with
  the flag.
* `libhat_queries_of_wraps`: for a region that wraps around the answer is always yes.
-/

namespace Libhat.Linux

/-- The callback of `regionHasFlag`, with the variables `begin` and `found`. -/
def regionCallback (last : Nat) (flags : BitVec 32) (b e : Nat) (prot : BitVec 32) :
    Nat × Bool → (Nat × Bool) × Bool
  | (first, found) =>
    -- intervals must be contiguous
    if found = true ∧ b ≠ first then ((first, found), false)
    else if found = true ∨ (first ≥ b ∧ first < e) then
      if prot &&& flags = 0 then ((first, true), false)
      else ((e, true), decide (e < last ∧ e ≥ b))
    else ((first, false), decide (first < last ∧ first ≥ b))

/-- `regionHasFlag`, for the region of `size` bytes at `data`; `maps` is the content of
`/proc/self/maps`.  The end of the region is a sum that can wrap around. -/
def regionHasFlag (maps : Text) (data size : BitVec 64) (flags : BitVec 32) : Bool :=
  if size = 0 then false
  else
    let last := (data + size).toNat
    let first := (iterMappedRegions (regionCallback last flags) (getlines maps)
      (data.toNat, false)).1
    decide (first ≥ last)

/-- `is_readable`. -/
def isReadable (maps : Text) (data size : BitVec 64) : Bool :=
  regionHasFlag maps data size protRead

/-- `is_writable`. -/
def isWritable (maps : Text) (data size : BitVec 64) : Bool :=
  regionHasFlag maps data size protWrite

/-- `is_executable`. -/
def isExecutable (maps : Text) (data size : BitVec 64) : Bool :=
  regionHasFlag maps data size protExec

/-- `libhat_is_readable`. -/
def libhatIsReadable (maps : Text) (data size : BitVec 64) : Bool := isReadable maps data size

/-- `libhat_is_writable`. -/
def libhatIsWritable (maps : Text) (data size : BitVec 64) : Bool := isWritable maps data size

/-- `libhat_is_executable`. -/
def libhatIsExecutable (maps : Text) (data size : BitVec 64) : Bool := isExecutable maps data size

/-! ### What the regions cover -/

/-- Every address from `first` up to `last` lies in a region with the flag. -/
def Covered (flags : BitVec 32) (regions : List Region) (first last : Nat) : Prop :=
  ∀ a, first ≤ a → a < last → ∃ r ∈ regions, r.Contains a ∧ r.2.2 &&& flags ≠ 0

section

variable {flags : BitVec 32} {r : Region} {regions : List Region} {first last : Nat}

theorem Sorted.tail (h : Sorted (r :: regions)) : Sorted regions :=
  ⟨fun r' hr' => h.1 r' (List.mem_cons_of_mem r hr'), (List.pairwise_cons.mp h.2).2⟩

/-- The regions after the first one start where it ends, or later. -/
theorem Sorted.le_of_mem (h : Sorted (r :: regions)) {r' : Region} (hr' : r' ∈ regions) :
    r.2.1 ≤ r'.1 :=
  (List.pairwise_cons.mp h.2).1 r' hr'

/-- A region that ends before does not matter. -/
theorem covered_cons_of_le (h : r.2.1 ≤ first) :
    Covered flags (r :: regions) first last ↔ Covered flags regions first last := by
  constructor
  · intro hcov a hfirst hlast
    obtain ⟨r', hmem, hin, hflag⟩ := hcov a hfirst hlast
    rcases List.mem_cons.mp hmem with heq | hrest
    · rw [heq] at hin
      have := hin.2
      omega
    · exact ⟨r', hrest, hin, hflag⟩
  · intro hcov a hfirst hlast
    obtain ⟨r', hmem, hin, hflag⟩ := hcov a hfirst hlast
    exact ⟨r', List.mem_cons_of_mem r hmem, hin, hflag⟩

/-- A region with the flag covers what is in it, and the others have to cover the rest. -/
theorem covered_cons_of_contains (hin : r.Contains first) (hflag : r.2.2 &&& flags ≠ 0) :
    Covered flags (r :: regions) first last ↔ Covered flags (r :: regions) r.2.1 last := by
  constructor
  · intro hcov a hfirst hlast
    exact hcov a (Nat.le_trans (Nat.le_of_lt hin.2) hfirst) hlast
  · intro hcov a hfirst hlast
    by_cases ha : a < r.2.1
    · exact ⟨r, List.mem_cons_self, ⟨Nat.le_trans hin.1 hfirst, ha⟩, hflag⟩
    · exact hcov a (Nat.le_of_not_lt ha) hlast

/-- Nothing is covered if no region with the flag has the first address. -/
theorem not_covered (hlt : first < last)
    (h : ∀ r ∈ regions, r.Contains first → r.2.2 &&& flags = 0) :
    ¬ Covered flags regions first last := by
  intro hcov
  obtain ⟨r, hmem, hin, hflag⟩ := hcov first le_rfl hlt
  exact hflag (h r hmem hin)

theorem not_covered_of_gap (hsorted : Sorted (r :: regions)) (hlt : first < last)
    (hgap : first < r.1) : ¬ Covered flags (r :: regions) first last := by
  refine not_covered hlt fun r' hmem hin => ?_
  have hstart := hin.1
  have hr := hsorted.1 r List.mem_cons_self
  rcases List.mem_cons.mp hmem with heq | hrest
  · rw [heq] at hstart
    omega
  · have := hsorted.le_of_mem hrest
    omega

theorem not_covered_of_flag (hsorted : Sorted (r :: regions)) (hlt : first < last)
    (hin : r.Contains first) (hflag : r.2.2 &&& flags = 0) :
    ¬ Covered flags (r :: regions) first last := by
  refine not_covered hlt fun r' hmem hin' => ?_
  rcases List.mem_cons.mp hmem with heq | hrest
  · rw [heq, hflag]
  · have hle := hsorted.le_of_mem hrest
    have hlo := hin'.1
    have hhi := hin.2
    omega

/-! ### The cursor -/

/-- A region that has the cursor: it lacks the flag, or the cursor moves to its end. -/
theorem regionCallback_of_contains {found : Bool} (hin : r.Contains first)
    (hfound : found = true → first ≤ r.1) :
    regionCallback last flags r.1 r.2.1 r.2.2 (first, found)
      = if r.2.2 &&& flags = 0 then ((first, true), false)
        else ((r.2.1, true), decide (r.2.1 < last)) := by
  obtain ⟨hlo, hhi⟩ := hin
  have hcontiguous : ¬ (found = true ∧ r.1 ≠ first) := by
    intro h
    have := hfound h.1
    omega
  have hend : (r.2.1 < last ∧ r.2.1 ≥ r.1) ↔ r.2.1 < last :=
    and_iff_left (by omega)
  rw [regionCallback, if_neg hcontiguous, if_pos (Or.inr ⟨hlo, hhi⟩)]
  simp only [hend]

/-- A region that does not have the cursor stops the search unless it ends before. -/
theorem regionCallback_of_not_contains {found : Bool} (hin : ¬ r.Contains first)
    (hfound : found = true → first ≤ r.1) (hr : r.1 < r.2.1) (hlt : first < last) :
    regionCallback last flags r.1 r.2.1 r.2.2 (first, found)
      = ((first, found), decide (r.2.1 ≤ first)) := by
  have hout : ¬ (first ≥ r.1 ∧ first < r.2.1) := hin
  cases found with
  | true =>
    have hstart := hfound rfl
    rw [regionCallback, if_pos ⟨rfl, by omega⟩, decide_eq_false (by omega)]
  | false =>
    have hgo : (first < last ∧ first ≥ r.1) ↔ r.2.1 ≤ first := by omega
    rw [regionCallback, if_neg (by simp), if_neg (by simpa using hout)]
    simp only [hgo]

/-- **The cursor reaches the end** if the regions cover what it has still to pass. -/
theorem iterRegions_regionCallback (hsorted : Sorted regions) {found : Bool} (hlt : first < last)
    (hfound : found = true → ∀ r ∈ regions, first ≤ r.1) :
    (iterRegions (regionCallback last flags) regions (first, found)).1 ≥ last ↔
      Covered flags regions first last := by
  induction regions generalizing first found with
  | nil =>
    refine iff_of_false (Nat.not_le_of_lt hlt) (not_covered hlt ?_)
    intro r hmem
    exact absurd hmem List.not_mem_nil
  | cons r regions ih =>
    have hr := hsorted.1 r List.mem_cons_self
    have hnext : found = true → first ≤ r.1 := fun h => hfound h r List.mem_cons_self
    rw [iterRegions]
    by_cases hin : r.Contains first
    · rw [regionCallback_of_contains hin hnext]
      by_cases hflag : r.2.2 &&& flags = 0
      · rw [if_pos hflag]
        exact iff_of_false (Nat.not_le_of_lt hlt) (not_covered_of_flag hsorted hlt hin hflag)
      · rw [if_neg hflag, covered_cons_of_contains hin hflag, covered_cons_of_le le_rfl]
        by_cases hend : r.2.1 < last
        · rw [decide_eq_true hend]
          exact ih hsorted.tail hend fun _ r' hr' => hsorted.le_of_mem hr'
        · rw [decide_eq_false hend]
          refine iff_of_true (Nat.le_of_not_lt hend) fun a hfirst hlast => ?_
          omega
    · rw [regionCallback_of_not_contains hin hnext hr hlt]
      by_cases hbefore : r.2.1 ≤ first
      · rw [decide_eq_true hbefore, covered_cons_of_le hbefore]
        exact ih hsorted.tail hlt fun h r' hr' => hfound h r' (List.mem_cons_of_mem r hr')
      · rw [decide_eq_false hbefore]
        refine iff_of_false (Nat.not_le_of_lt hlt) (not_covered_of_gap hsorted hlt ?_)
        by_contra hgap
        exact hin ⟨Nat.le_of_not_lt hgap, Nat.lt_of_not_le hbefore⟩

end

/-- **Region queries.**  For regions in order and apart, and a region that is not empty and
does not wrap around, the answer is whether every address lies in a mapped region with the
flag. -/
theorem regionHasFlag_iff {maps : Text} (hsorted : Sorted (mappedRegions maps))
    {data size : BitVec 64} (hsize : size ≠ 0) (hwrap : data.toNat + size.toNat < 2 ^ 64)
    (flags : BitVec 32) :
    regionHasFlag maps data size flags = true ↔
      ∀ a, data.toNat ≤ a → a < data.toNat + size.toNat →
        ∃ r ∈ mappedRegions maps, r.Contains a ∧ r.2.2 &&& flags ≠ 0 := by
  have hlast : (data + size).toNat = data.toNat + size.toNat := by
    rw [BitVec.toNat_add, Nat.mod_eq_of_lt hwrap]
  have hpos : 0 < size.toNat := by
    rw [Nat.pos_iff_ne_zero]
    intro hzero
    exact hsize (BitVec.eq_of_toNat_eq hzero)
  rw [regionHasFlag, if_neg hsize, decide_eq_true_iff, hlast, iterMappedRegions_eq]
  exact iterRegions_regionCallback hsorted (by omega) (by simp)

/-- Three pages, of which the first two follow each other. -/
def threePages : Text :=
  "10000000-10001000 r--p 0\n10001000-10002000 rw-p 0\n10003000-10004000 r-xp 0".toList

theorem regionHasFlag_iff_sample :
    Sorted (mappedRegions threePages) ∧
    regionHasFlag threePages 0x10000800#64 0x1000#64 protRead = true := by
  have hsorted : Sorted (mappedRegions threePages) := by decide
  refine ⟨hsorted, (regionHasFlag_iff hsorted (by decide) (by decide) protRead).mpr ?_⟩
  intro a hlo hhi
  have hlo' : 0x10000800 ≤ a := hlo
  have hhi' : a < 0x10001800 := hhi
  by_cases ha : a < 0x10001000
  · exact ⟨(0x10000000, 0x10001000, 1#32), by decide,
      ⟨Nat.le_trans (by decide) hlo', ha⟩, by decide⟩
  · exact ⟨(0x10001000, 0x10002000, 3#32), by decide,
      ⟨Nat.le_of_not_lt ha, Nat.lt_trans hhi' (by decide)⟩, by decide⟩

/-! ### Regions that wrap around -/

/-- With the cursor at or past the end, a region does not take it back, and is the last one. -/
theorem regionCallback_of_le (flags : BitVec 32) {first last : Nat} (hle : last ≤ first)
    (r : Region) :
    ∃ s : Nat × Bool, regionCallback last flags r.1 r.2.1 r.2.2 (first, false) = (s, false) ∧
      last ≤ s.1 := by
  rw [regionCallback, if_neg (by simp)]
  by_cases hin : first ≥ r.1 ∧ first < r.2.1
  · rw [if_pos (Or.inr hin)]
    by_cases hflag : r.2.2 &&& flags = 0
    · rw [if_pos hflag]
      exact ⟨(first, true), rfl, hle⟩
    · have hhi := hin.2
      rw [if_neg hflag, decide_eq_false (by omega)]
      exact ⟨(r.2.1, true), rfl, by show last ≤ r.2.1; omega⟩
  · rw [if_neg (by simpa using hin), decide_eq_false (by omega)]
    exact ⟨(first, false), rfl, hle⟩

theorem iterRegions_of_le {flags : BitVec 32} {first last : Nat} (hle : last ≤ first)
    (regions : List Region) :
    last ≤ (iterRegions (regionCallback last flags) regions (first, false)).1 := by
  cases regions with
  | nil => exact hle
  | cons r regions =>
    obtain ⟨s, hs, hlast⟩ := regionCallback_of_le flags hle r
    rw [iterRegions, hs]
    exact hlast

theorem regionHasFlag_of_wraps (maps : Text) {data size : BitVec 64}
    (hwrap : 2 ^ 64 ≤ data.toNat + size.toNat) (flags : BitVec 32) :
    regionHasFlag maps data size flags = true := by
  have hdata := data.isLt
  have hsize : size ≠ 0 := by
    intro hzero
    have hnat : size.toNat = 0 := by rw [hzero]; rfl
    omega
  have hlast : (data + size).toNat ≤ data.toNat := by
    rw [BitVec.toNat_add, Nat.mod_eq_sub_mod hwrap]
    have := Nat.mod_le (data.toNat + size.toNat - 2 ^ 64) (2 ^ 64)
    omega
  rw [regionHasFlag, if_neg hsize, decide_eq_true_iff, iterMappedRegions_eq]
  exact iterRegions_of_le hlast _

/-- **Regions that wrap around.**  Whatever is mapped, every query for such a region answers
yes. -/
theorem libhat_queries_of_wraps (maps : Text) {data size : BitVec 64}
    (hwrap : 2 ^ 64 ≤ data.toNat + size.toNat) :
    libhatIsReadable maps data size = true ∧ libhatIsWritable maps data size = true ∧
      libhatIsExecutable maps data size = true := by
  refine ⟨?_, ?_, ?_⟩
  · exact regionHasFlag_of_wraps maps hwrap protRead
  · exact regionHasFlag_of_wraps maps hwrap protWrite
  · exact regionHasFlag_of_wraps maps hwrap protExec

theorem libhat_queries_of_wraps_sample :
    libhatIsReadable threePages 0x10000800#64 (-1#64) = true ∧
      libhatIsWritable threePages 0x10000800#64 (-1#64) = true ∧
      libhatIsExecutable threePages 0x10000800#64 (-1#64) = true :=
  libhat_queries_of_wraps threePages (by decide)

/-- A region that wraps around, in a process with a single page that can be read. -/
theorem wrapped_region_is_readable :
    mappedRegions onePage = [(0x10000000, 0x10001000, 1#32)] ∧
    libhatIsReadable onePage 0x10000800#64 0xFFFFFFFFFFFFFFFF#64 = true ∧
    libhatIsWritable onePage 0x10000800#64 0xFFFFFFFFFFFFFFFF#64 = true :=
  ⟨mappedRegions_onePage, by decide, by decide⟩

end Libhat.Linux

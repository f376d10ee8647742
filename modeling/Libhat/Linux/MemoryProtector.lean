import Libhat.Lib.Blocks
import Libhat.Linux.Common

/-!
# The memory protector on Linux

`memory_protector` changes the protection of a region for as long as it lives.  Its
constructor looks up the protection of the page at `address`, and calls `mprotect`
with `address` rounded down to a page and `size` rounded up to whole pages.

The two are rounded apart from each other: the pages that are changed start with
the page of `address`, but are only as many as `size` bytes need, so a region that
reaches one page further is not covered.  `construct_covers_iff` says exactly when
the region is.
-/

namespace Libhat.Linux

open Blocks

/-- The protection of every mapped page, by its number. -/
abbrev PageMap := Nat → Option (BitVec 32)

/-- `mprotect(start, len, prot)`: its result, and the pages after it. -/
abbrev Mprotect := BitVec 64 → BitVec 64 → BitVec 32 → PageMap → Int × PageMap

/-- `fast_align_down`. -/
def fastAlignDown (address alignment : BitVec 64) : BitVec 64 :=
  address &&& ~~~(alignment - 1#64)

/-- `fast_align_up`. -/
def fastAlignUp (address alignment : BitVec 64) : BitVec 64 :=
  (address + alignment - 1#64) &&& ~~~(alignment - 1#64)

/-- `protection`, a set of bits. -/
abbrev Protection := BitVec 8

def Protection.read : Protection := 0b001#8
def Protection.write : Protection := 0b010#8
def Protection.execute : Protection := 0b100#8

/-- `to_system_prot`. -/
def toSystemProt (flags : Protection) : BitVec 32 :=
  (if flags &&& Protection.read ≠ 0 then protRead else 0) |||
    (if flags &&& Protection.write ≠ 0 then protWrite else 0) |||
    (if flags &&& Protection.execute ≠ 0 then protExec else 0)

/-- `memory_protector`. -/
structure MemoryProtector where
  address : BitVec 64
  size : BitVec 64
  oldProtection : BitVec 32
  set : Bool

/-- The constructor of `memory_protector`: the object, and the pages after it.
`pageSize` is that of `get_system`, and `maps` the content of `/proc/self/maps`. -/
def MemoryProtector.construct (pageSize : BitVec 64) (maps : Text) (mprotect : Mprotect)
    (address size : BitVec 64) (flags : Protection) (pages : PageMap) :
    MemoryProtector × PageMap :=
  match getPageProt maps address with
  | none => (⟨address, size, 0, false⟩, pages)
  | some oldProt =>
    let (result, pages') := mprotect (fastAlignDown address pageSize) (fastAlignUp size pageSize)
      (toSystemProt flags) pages
    (⟨address, size, oldProt, 0 == result⟩, pages')

/-! ### Pages -/

/-- `mprotect` with an aligned start, when it succeeds, sets the protection of the pages
that meet `[start, start + len)`, and of no other page. -/
structure Mprotect.SetsPages (mprotect : Mprotect) (pageSize : Nat) : Prop where
  inside : ∀ {start len prot pages}, pageSize ∣ start.toNat →
    (mprotect start len prot pages).1 = 0 → ∀ page, Meets pageSize page start.toNat len.toNat →
    (mprotect start len prot pages).2 page = some prot
  outside : ∀ {start len prot pages}, pageSize ∣ start.toNat →
    (mprotect start len prot pages).1 = 0 → ∀ page, ¬ Meets pageSize page start.toNat len.toNat →
    (mprotect start len prot pages).2 page = pages page

section

variable {k : Nat} {pageSize : BitVec 64}

theorem toNat_fastAlignDown (hk : k < 64) (hps : pageSize.toNat = 2 ^ k) (address : BitVec 64) :
    (fastAlignDown address pageSize).toNat = 2 ^ k * (address.toNat / 2 ^ k) :=
  toNat_and_not hk hps

/-- The sum wraps around for sizes that are within a page of `2 ^ 64`. -/
theorem toNat_fastAlignUp (hk : k < 64) (hps : pageSize.toNat = 2 ^ k) (size : BitVec 64) :
    (fastAlignUp size pageSize).toNat
      = 2 ^ k * ((size.toNat + 2 ^ k - 1) % 2 ^ 64 / 2 ^ k) := by
  have hpos := Nat.two_pow_pos k
  have hlt := pageSize.isLt
  rw [hps] at hlt
  have hsum : (size + pageSize - 1#64).toNat = (size.toNat + 2 ^ k - 1) % 2 ^ 64 := by
    rw [BitVec.toNat_sub, BitVec.toNat_add, hps, BitVec.toNat_ofNat]
    omega
  rw [fastAlignUp, toNat_and_not hk hps, hsum]

/-- **The pages that the constructor changes**: from the page of `address` on, as many
as `size` bytes need. -/
theorem meets_call_iff (hk : k < 64) (hps : pageSize.toNat = 2 ^ k) (address size : BitVec 64)
    (page : Nat) :
    Meets pageSize.toNat page (fastAlignDown address pageSize).toNat
        (fastAlignUp size pageSize).toNat ↔
      address.toNat / 2 ^ k ≤ page ∧
        page < address.toNat / 2 ^ k + (size.toNat + 2 ^ k - 1) % 2 ^ 64 / 2 ^ k := by
  rw [toNat_fastAlignDown hk hps, toNat_fastAlignUp hk hps, hps]
  exact meets_aligned_iff (Nat.two_pow_pos k)

/-- A page of the region that the call does not reach lies past the pages of the call. -/
theorem past_of_not_meets_call (hk : k < 64) (hps : pageSize.toNat = 2 ^ k)
    {address size : BitVec 64} {page : Nat}
    (hmeets : Meets pageSize.toNat page address.toNat size.toNat)
    (hcall : ¬ Meets pageSize.toNat page (fastAlignDown address pageSize).toNat
      (fastAlignUp size pageSize).toNat) :
    address.toNat / 2 ^ k + (size.toNat + 2 ^ k - 1) % 2 ^ 64 / 2 ^ k ≤ page := by
  rw [meets_call_iff hk hps] at hcall
  rw [hps, meets_iff (Nat.two_pow_pos k)] at hmeets
  omega

/-- **The call reaches the whole region** if the offset of the address in its page and
the size together need no more pages than the size does. -/
theorem meets_call_of_fits (hk : k < 64) (hps : pageSize.toNat = 2 ^ k)
    {address size : BitVec 64} {page : Nat} (hwrap : size.toNat + 2 ^ k ≤ 2 ^ 64)
    (hfits : address.toNat % 2 ^ k + size.toNat ≤ 2 ^ k * ((size.toNat + 2 ^ k - 1) / 2 ^ k))
    (hmeets : Meets pageSize.toNat page address.toNat size.toNat) :
    Meets pageSize.toNat page (fastAlignDown address pageSize).toNat
      (fastAlignUp size pageSize).toNat := by
  have hpos := Nat.two_pow_pos k
  rw [meets_call_iff hk hps, Nat.mod_eq_of_lt (by omega)]
  rw [hps, meets_iff hpos] at hmeets
  obtain ⟨hsize, hlo, hhi⟩ := hmeets
  refine ⟨hlo, ?_⟩
  have hlast : address.toNat + size.toNat - 1
      < 2 ^ k * (address.toNat / 2 ^ k + (size.toNat + 2 ^ k - 1) / 2 ^ k) := by
    have hdiv := Nat.div_add_mod address.toNat (2 ^ k)
    rw [Nat.mul_add]
    omega
  rw [Nat.mul_comm] at hlast
  have := (Nat.div_lt_iff_lt_mul hpos).mpr hlast
  omega

/-! ### Coverage -/

/-- **When a region is covered.**  After a constructor that ends with `is_set()`, every
page of the region has the requested protection, if and only if the constructor
does not get as far as a successful call, or the region is empty, or the offset of
`address` in its page does not make the region reach past the pages that `size`
alone needs (and rounding `size` up does not wrap around), or the pages past them
had the protection before. -/
theorem construct_covers_iff (hk : k < 64) (hps : pageSize.toNat = 2 ^ k) {mprotect : Mprotect}
    (hmp : mprotect.SetsPages pageSize.toNat) (maps : Text) (address size : BitVec 64)
    (flags : Protection) (pages : PageMap) :
    ((MemoryProtector.construct pageSize maps mprotect address size flags pages).1.set = true →
      ∀ page, Meets pageSize.toNat page address.toNat size.toNat →
        (MemoryProtector.construct pageSize maps mprotect address size flags pages).2 page
          = some (toSystemProt flags)) ↔
    getPageProt maps address = none ∨
    (mprotect (fastAlignDown address pageSize) (fastAlignUp size pageSize) (toSystemProt flags)
      pages).1 ≠ 0 ∨
    size.toNat = 0 ∨
    (size.toNat + 2 ^ k ≤ 2 ^ 64 ∧
      address.toNat % 2 ^ k + size.toNat ≤ 2 ^ k * ((size.toNat + 2 ^ k - 1) / 2 ^ k)) ∨
    ∀ page, Meets pageSize.toNat page address.toNat size.toNat →
      address.toNat / 2 ^ k + (size.toNat + 2 ^ k - 1) % 2 ^ 64 / 2 ^ k ≤ page →
      pages page = some (toSystemProt flags) := by
  have haligned : pageSize.toNat ∣ (fastAlignDown address pageSize).toNat := by
    rw [toNat_fastAlignDown hk hps, hps]
    exact Nat.dvd_mul_right _ _
  cases hold : getPageProt maps address with
  | none => simp [MemoryProtector.construct, hold]
  | some oldProt =>
    have hconstruct : MemoryProtector.construct pageSize maps mprotect address size flags pages
        = (⟨address, size, oldProt, 0 == (mprotect (fastAlignDown address pageSize)
            (fastAlignUp size pageSize) (toSystemProt flags) pages).1⟩,
          (mprotect (fastAlignDown address pageSize) (fastAlignUp size pageSize)
            (toSystemProt flags) pages).2) := by
      rw [MemoryProtector.construct, hold]
    rw [hconstruct]
    by_cases hok : (mprotect (fastAlignDown address pageSize) (fastAlignUp size pageSize)
        (toSystemProt flags) pages).1 = 0
    · have hinside := hmp.inside haligned hok
      have houtside := hmp.outside haligned hok
      constructor
      · intro hcovers
        -- a page past the call keeps the protection that it had
        refine Or.inr (Or.inr (Or.inr (Or.inr fun page hmeets hpast => ?_)))
        have hcall : ¬ Meets pageSize.toNat page (fastAlignDown address pageSize).toNat
            (fastAlignUp size pageSize).toNat := by
          rw [meets_call_iff hk hps]
          omega
        rw [← houtside page hcall]
        exact hcovers (by rw [hok]; rfl) page hmeets
      · intro hcond _ page hmeets
        by_cases hcall : Meets pageSize.toNat page (fastAlignDown address pageSize).toNat
            (fastAlignUp size pageSize).toNat
        · exact hinside page hcall
        · show (mprotect _ _ _ _).2 page = _
          rw [houtside page hcall]
          rcases hcond with hnone | hfail | hempty | hfits | hpast
          · exact absurd hnone (by simp)
          · exact absurd hok hfail
          · obtain ⟨x, hx, hx', _⟩ := hmeets
            omega
          · exact absurd (meets_call_of_fits hk hps hfits.1 hfits.2 hmeets) hcall
          · exact hpast page hmeets (past_of_not_meets_call hk hps hmeets hcall)
    · refine iff_of_true (fun h => absurd h ?_) (Or.inr (Or.inl hok))
      rw [Bool.not_eq_true, beq_eq_false_iff_ne]
      exact Ne.symm hok

end

/-- An `mprotect` that always succeeds. -/
def setPages (pageSize : Nat) : Mprotect := fun start len prot pages =>
  (0, fun page =>
    if 0 < len.toNat ∧ start.toNat / pageSize ≤ page ∧
        page ≤ (start.toNat + len.toNat - 1) / pageSize then some prot
    else pages page)

theorem setPages_setsPages {n : Nat} (hn : 0 < n) : (setPages n).SetsPages n where
  inside := by
    intro start len prot pages _ _ page hmeets
    exact if_pos ((meets_iff hn).mp hmeets)
  outside := by
    intro start len prot pages _ _ page hmeets
    exact if_neg fun h => hmeets ((meets_iff hn).mpr h)

/-- Two pages with different protections. -/
def mixedPages : Text := "10000000-10001000 rw-p 0\n10001000-10002000 r-xp 0".toList

/-- A region over both of them, whose size leaves room for the offset of its address. -/
theorem construct_covers_iff_sample :
    (MemoryProtector.construct 4096#64 mixedPages (setPages 4096) 0x10000800#64 0x1800#64
        Protection.read (fun page => if page = 0x10000 then some 3 else some 5)).2 0x10000
        = some (toSystemProt Protection.read) ∧
      (MemoryProtector.construct 4096#64 mixedPages (setPages 4096) 0x10000800#64 0x1800#64
        Protection.read (fun page => if page = 0x10000 then some 3 else some 5)).2 0x10001
        = some (toSystemProt Protection.read) := by
  have hsize : (4096#64).toNat = 2 ^ 12 := by decide
  have hcovers := (construct_covers_iff (by decide) hsize (setPages_setsPages (by decide))
    mixedPages 0x10000800#64 0x1800#64 Protection.read
    (fun page => if page = 0x10000 then some 3 else some 5)).mpr
      (Or.inr (Or.inr (Or.inr (Or.inl (by decide))))) rfl
  exact ⟨hcovers 0x10000 ⟨0x10000800, by decide, by decide, by decide⟩,
    hcovers 0x10001 ⟨0x10001000, by decide, by decide, by decide⟩⟩

/-- Two bytes across a page border: the second page is not changed. -/
theorem construct_misses_second_page :
    (setPages 4096).SetsPages 4096 ∧
    (MemoryProtector.construct 4096#64 "10000000-10002000 r--p 0".toList (setPages 4096)
      0x10000FFF#64 2#64 (Protection.read ||| Protection.write) (fun _ => some 1)).1.set = true ∧
    Meets 4096 0x10001 0x10000FFF 2 ∧
    (MemoryProtector.construct 4096#64 "10000000-10002000 r--p 0".toList (setPages 4096)
      0x10000FFF#64 2#64 (Protection.read ||| Protection.write) (fun _ => some 1)).2 0x10001
      = some 1 ∧
    some 1#32 ≠ some (toSystemProt (Protection.read ||| Protection.write)) := by
  refine ⟨setPages_setsPages (by decide), rfl, ⟨0x10001000, by decide, by decide, by decide⟩, rfl,
    by decide⟩

end Libhat.Linux

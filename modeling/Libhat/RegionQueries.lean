import Libhat.Linux.Process
import Libhat.Win32.Process

/-!
# Region queries on two platforms

The same map of memory, described to the Linux code by a list of regions and to the
Windows code by runs of pages, gives the same answers for every region that is not empty
(`queries_agree`).  For the empty region the Linux code has a test of its own.
-/

namespace Libhat

/-- The protections of Windows that are not modified by other bits. -/
inductive PageProtection where
  | noAccess
  | readOnly
  | readWrite
  | writeCopy
  | execute
  | executeRead
  | executeReadWrite
  | executeWriteCopy
  deriving DecidableEq, Repr

namespace PageProtection

/-- The constant of Windows. -/
def value : PageProtection → Win32.DWORD
  | noAccess => Win32.pageNoAccess
  | readOnly => Win32.pageReadOnly
  | readWrite => Win32.pageReadWrite
  | writeCopy => Win32.pageWriteCopy
  | execute => Win32.pageExecute
  | executeRead => Win32.pageExecuteRead
  | executeReadWrite => Win32.pageExecuteReadWrite
  | executeWriteCopy => Win32.pageExecuteWriteCopy

/-- The same permissions on Linux. -/
def prot : PageProtection → BitVec 32
  | noAccess => 0
  | readOnly => Linux.protRead
  | readWrite => Linux.protRead ||| Linux.protWrite
  | writeCopy => Linux.protRead ||| Linux.protWrite
  | execute => Linux.protExec
  | executeRead => Linux.protRead ||| Linux.protExec
  | executeReadWrite => Linux.protRead ||| Linux.protWrite ||| Linux.protExec
  | executeWriteCopy => Linux.protRead ||| Linux.protWrite ||| Linux.protExec

end PageProtection

/-- Which addresses are committed, and how. -/
abbrev CommittedPages := Nat → Option PageProtection

/-- The same map on both platforms: what is mapped on one is committed on the other, with
the same permissions. -/
structure SameMap (regions : List Linux.Region) (committed : CommittedPages) : Prop where
  mapped : ∀ r ∈ regions, ∀ a, r.Contains a → (committed a).map PageProtection.prot = some r.2.2
  committed : ∀ a p, committed a = some p → ∃ r ∈ regions, r.Contains a

section

variable {regions : List Linux.Region} {committed : CommittedPages}

/-- A flag of Linux and flags of Windows that stand for the same permission are found at
the same addresses. -/
theorem SameMap.permits_iff (h : SameMap regions committed) {flag : BitVec 32}
    {flags : Win32.DWORD}
    (hflags : ∀ p : PageProtection, p.prot &&& flag ≠ 0 ↔ p.value &&& flags ≠ 0) (a : Nat) :
    (∃ r ∈ regions, r.Contains a ∧ r.2.2 &&& flag ≠ 0) ↔
      Win32.Permits (fun a => (committed a).map PageProtection.value) flags a := by
  constructor
  · intro hregion
    obtain ⟨r, hmem, hin, hflag⟩ := hregion
    obtain ⟨p, hp, hprot⟩ := Option.map_eq_some_iff.mp (h.mapped r hmem a hin)
    rw [← hprot, hflags] at hflag
    exact ⟨p.value, by simp only [hp, Option.map_some], hflag⟩
  · intro hpermits
    obtain ⟨protect, hprotect, hallowed⟩ := hpermits
    obtain ⟨p, hp, hvalue⟩ := Option.map_eq_some_iff.mp hprotect
    obtain ⟨r, hmem, hin⟩ := h.committed a p hp
    have hprot := h.mapped r hmem a hin
    rw [hp, Option.map_some, Option.some.injEq] at hprot
    rw [← hvalue, ← hflags, hprot] at hallowed
    exact ⟨r, hmem, hin, hallowed⟩

variable {maps : Text} {query : Win32.VirtualQuery} {data size : BitVec 64}

/-- One query that is the same on both platforms. -/
theorem regionHasFlags_eq (hsorted : Linux.Sorted (Linux.mappedRegions maps))
    (hquery : query.Shows fun a => (committed a).map PageProtection.value)
    (hsame : SameMap (Linux.mappedRegions maps) committed) (hsize : size ≠ 0)
    (hwrap : data.toNat + size.toNat < 2 ^ 64) {flag : BitVec 32} {flags : Win32.DWORD}
    (hflags : ∀ p : PageProtection, p.prot &&& flag ≠ 0 ↔ p.value &&& flags ≠ 0) :
    Win32.regionHasFlags query data size flags
      = .ok (Linux.regionHasFlag maps data size flag) := by
  obtain ⟨answer, hanswer, hiff⟩ := Win32.regionHasFlags_ok hquery hwrap flags
  rw [hanswer]
  congr 1
  rw [Bool.eq_iff_iff, hiff, Linux.regionHasFlag_iff hsorted hsize hwrap]
  refine forall_congr' fun a => imp_congr_right fun _ => imp_congr_right fun _ => ?_
  exact (hsame.permits_iff hflags a).symm

/-- **Agreement.**  On the same map, and for a region that does not wrap around, Linux and
Windows give the same answers if the region is not empty; if it is, the answers are no on
Linux and yes on Windows. -/
theorem queries_agree (hsorted : Linux.Sorted (Linux.mappedRegions maps))
    (hquery : query.Shows fun a => (committed a).map PageProtection.value)
    (hsame : SameMap (Linux.mappedRegions maps) committed)
    (hwrap : data.toNat + size.toNat < 2 ^ 64) :
    (size ≠ 0 →
      Win32.isReadable query data size = .ok (Linux.isReadable maps data size) ∧
      Win32.isWritable query data size = .ok (Linux.isWritable maps data size) ∧
      Win32.isExecutable query data size = .ok (Linux.isExecutable maps data size)) ∧
    (size = 0 →
      (Win32.isReadable query data size = .ok true ∧ Linux.isReadable maps data size = false) ∧
      (Win32.isWritable query data size = .ok true ∧ Linux.isWritable maps data size = false) ∧
      (Win32.isExecutable query data size = .ok true ∧
        Linux.isExecutable maps data size = false)) := by
  constructor
  · intro hsize
    refine ⟨?_, ?_, ?_⟩
    · exact regionHasFlags_eq hsorted hquery hsame hsize hwrap (by intro p; cases p <;> decide)
    · exact regionHasFlags_eq hsorted hquery hsame hsize hwrap (by intro p; cases p <;> decide)
    · exact regionHasFlags_eq hsorted hquery hsame hsize hwrap (by intro p; cases p <;> decide)
  · intro hsize
    have hempty : ∀ flags, Win32.regionHasFlags query data size flags = .ok true := by
      intro flags
      obtain ⟨answer, hanswer, hiff⟩ := Win32.regionHasFlags_ok hquery hwrap flags
      have htrue : answer = true := hiff.mpr fun a hlo hhi => by
        rw [hsize] at hhi
        exact absurd hhi (Nat.not_lt.mpr hlo)
      rw [hanswer, htrue]
    have hguard : ∀ flag, Linux.regionHasFlag maps data size flag = false := fun flag =>
      if_pos hsize
    exact ⟨⟨hempty _, hguard _⟩, ⟨hempty _, hguard _⟩, ⟨hempty _, hguard _⟩⟩

end

/-- A page that can be read, and two that can also be written. -/
def twoRuns : Text := "10000000-10001000 r--p 0\n10001000-10003000 rw-p 0".toList

theorem mappedRegions_twoRuns : Linux.mappedRegions twoRuns
    = [(0x10000000, 0x10001000, 1#32), (0x10001000, 0x10003000, 3#32)] := by
  decide

/-- The same pages on Windows. -/
def twoRunsCommitted : CommittedPages := fun a =>
  if 0x10000000 ≤ a ∧ a < 0x10001000 then some .readOnly
  else if 0x10001000 ≤ a ∧ a < 0x10003000 then some .readWrite
  else none

def twoRunsQuery : Win32.VirtualQuery := fun addr =>
  if 0x10000000 ≤ addr.toNat ∧ addr.toNat < 0x10001000 then
    some ⟨0x10000000#64, 0x1000#64, Win32.memCommit, Win32.pageReadOnly⟩
  else if 0x10001000 ≤ addr.toNat ∧ addr.toNat < 0x10003000 then
    some ⟨0x10001000#64, 0x2000#64, Win32.memCommit, Win32.pageReadWrite⟩
  else none

/-- Where an address is. -/
theorem twoRuns_cases (a : Nat) :
    (0x10000000 ≤ a ∧ a < 0x10001000) ∨ (0x10001000 ≤ a ∧ a < 0x10003000) ∨
      ¬ (0x10000000 ≤ a ∧ a < 0x10001000) ∧ ¬ (0x10001000 ≤ a ∧ a < 0x10003000) := by
  omega

theorem twoRuns_sameMap : SameMap (Linux.mappedRegions twoRuns) twoRunsCommitted where
  mapped := by
    rw [mappedRegions_twoRuns]
    intro r hmem a hin
    rcases List.mem_cons.mp hmem with rfl | hmem
    · rw [twoRunsCommitted, if_pos (show 0x10000000 ≤ a ∧ a < 0x10001000 from hin)]
      rfl
    · rw [List.mem_singleton.mp hmem] at hin ⊢
      have hsecond : 0x10001000 ≤ a ∧ a < 0x10003000 := hin
      rw [twoRunsCommitted, if_neg (by omega), if_pos hsecond]
      rfl
  committed := by
    rw [mappedRegions_twoRuns]
    intro a p hp
    rcases twoRuns_cases a with hfirst | hsecond | ⟨hfirst, hsecond⟩
    · exact ⟨_, List.mem_cons_self, hfirst⟩
    · exact ⟨_, List.mem_cons_of_mem _ (List.mem_singleton_self _), hsecond⟩
    · rw [twoRunsCommitted, if_neg hfirst, if_neg hsecond] at hp
      cases hp

/-- The two answers of the query. -/
theorem twoRunsQuery_eq_some {addr : BitVec 64} {mbi : Win32.MemoryBasicInformation}
    (h : twoRunsQuery addr = some mbi) :
    (0x10000000 ≤ addr.toNat ∧ addr.toNat < 0x10001000 ∧
      mbi = ⟨0x10000000#64, 0x1000#64, Win32.memCommit, Win32.pageReadOnly⟩) ∨
    (0x10001000 ≤ addr.toNat ∧ addr.toNat < 0x10003000 ∧
      mbi = ⟨0x10001000#64, 0x2000#64, Win32.memCommit, Win32.pageReadWrite⟩) := by
  rcases twoRuns_cases addr.toNat with hfirst | hsecond | ⟨hfirst, hsecond⟩
  · rw [twoRunsQuery, if_pos hfirst, Option.some.injEq] at h
    exact Or.inl ⟨hfirst.1, hfirst.2, h.symm⟩
  · rw [twoRunsQuery, if_neg (by omega), if_pos hsecond, Option.some.injEq] at h
    exact Or.inr ⟨hsecond.1, hsecond.2, h.symm⟩
  · rw [twoRunsQuery, if_neg hfirst, if_neg hsecond] at h
    cases h

theorem twoRunsQuery_shows :
    twoRunsQuery.Shows fun a => (twoRunsCommitted a).map PageProtection.value where
  contains := by
    intro addr mbi hanswer
    rcases twoRunsQuery_eq_some hanswer with ⟨hlo, hhi, rfl⟩ | ⟨hlo, hhi, rfl⟩
    · exact ⟨hlo, hhi⟩
    · exact ⟨hlo, hhi⟩
  ends := by
    intro addr mbi hanswer
    rcases twoRunsQuery_eq_some hanswer with ⟨_, _, rfl⟩ | ⟨_, _, rfl⟩ <;> decide
  uniform := by
    intro addr mbi hanswer a hin
    rcases twoRunsQuery_eq_some hanswer with ⟨_, _, rfl⟩ | ⟨_, _, rfl⟩
    · have hfirst : 0x10000000 ≤ a ∧ a < 0x10001000 := hin
      simp only [twoRunsCommitted, if_pos hfirst]
      rfl
    · have hsecond : 0x10001000 ≤ a ∧ a < 0x10003000 := hin
      have hfirst : ¬ (0x10000000 ≤ a ∧ a < 0x10001000) := by omega
      simp only [twoRunsCommitted, if_neg hfirst, if_pos hsecond]
      rfl
  fails := by
    intro addr hanswer
    rcases twoRuns_cases addr.toNat with hfirst | hsecond | ⟨hfirst, hsecond⟩
    · rw [twoRunsQuery, if_pos hfirst] at hanswer
      cases hanswer
    · rw [twoRunsQuery, if_neg (by omega), if_pos hsecond] at hanswer
      cases hanswer
    · simp only [twoRunsCommitted, if_neg hfirst, if_neg hsecond, Option.map_none]

/-- A region that begins on the first page and ends on the third. -/
theorem queries_agree_sample :
    Win32.isReadable twoRunsQuery 0x10000800#64 0x2000#64
        = .ok (Linux.isReadable twoRuns 0x10000800#64 0x2000#64) ∧
      Win32.isWritable twoRunsQuery 0x10000800#64 0x2000#64
        = .ok (Linux.isWritable twoRuns 0x10000800#64 0x2000#64) := by
  have hwrap : (0x10000800#64).toNat + (0x2000#64).toNat < 2 ^ 64 := by decide
  have hagree := (queries_agree (by decide) twoRunsQuery_shows twoRuns_sameMap hwrap).1
    (by decide)
  exact ⟨hagree.1, hagree.2.1⟩

/-- The empty region on both platforms. -/
theorem queries_differ_on_empty :
    Linux.Sorted (Linux.mappedRegions twoRuns) ∧
    (twoRunsQuery.Shows fun a => (twoRunsCommitted a).map PageProtection.value) ∧
    SameMap (Linux.mappedRegions twoRuns) twoRunsCommitted ∧
    Win32.isReadable twoRunsQuery 0x10000800#64 0#64 = .ok true ∧
    Linux.isReadable twoRuns 0x10000800#64 0#64 = false :=
  ⟨by decide, twoRunsQuery_shows, twoRuns_sameMap, rfl, rfl⟩

end Libhat

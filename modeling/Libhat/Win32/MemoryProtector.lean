import Libhat.ProtectorRuns
import Libhat.Win32.Process

/-!
# The memory protector on Windows

`VirtualProtect` changes the protection of the pages of a region and reports the one that the
first of them had.

* `construct_queries`: what the region queries answer for a region that is protected.
* `protectors_restore_iff`: the runs after which the pages are as they were.
-/

namespace Libhat.Win32

open Blocks Runs
open Linux (MemoryProtector PageMap Protection)

/-- `VirtualProtect(address, size, newProtect, &oldProtect)`: the old protection and the pages
after it, unless the call fails. -/
abbrev VirtualProtect := BitVec 64 → BitVec 64 → DWORD → PageMap → Option (DWORD × PageMap)

/-- `static_cast<bool>(flags & flag)`. -/
def hasFlag (flags flag : Protection) : Bool := flags &&& flag != 0

/-- `to_system_prot`. -/
def toSystemProt (flags : Protection) : DWORD :=
  let r := hasFlag flags Protection.read
  let w := hasFlag flags Protection.write
  let x := hasFlag flags Protection.execute
  if x && w then pageExecuteReadWrite
  else if x && r then pageExecuteRead
  else if x then pageExecute
  else if w then pageReadWrite
  else if r then pageReadOnly
  else pageNoAccess

/-- The constructor of `memory_protector`. -/
def construct (virtualProtect : VirtualProtect) (address size : BitVec 64) (flags : Protection)
    (pages : PageMap) : MemoryProtector × PageMap :=
  match virtualProtect address size (toSystemProt flags) pages with
  | some (oldProtection, pages') => (⟨address, size, oldProtection, true⟩, pages')
  | none => (⟨address, size, 0, false⟩, pages)

/-- `memory_protector::restore`: whether the call succeeds, the object, in which the protection is
overwritten by the one that the call reports, and the pages. -/
def restore (virtualProtect : VirtualProtect) (o : MemoryProtector) (pages : PageMap) :
    Bool × MemoryProtector × PageMap :=
  match virtualProtect o.address o.size o.oldProtection pages with
  | some (oldProtection, pages') => (true, { o with oldProtection }, pages')
  | none => (false, o, pages)

/-- The memory protectors of Windows. -/
def protectorSystem (virtualProtect : VirtualProtect) : ProtectorSystem where
  construct := construct virtualProtect
  restore o pages :=
    let (ok, _, pages') := restore virtualProtect o pages
    (ok, pages')
  toSystemProt := toSystemProt

/-- The pages with an address of the region. -/
def regionPages (pageSize : Nat) (address size : BitVec 64) : Set Nat :=
  {page | Meets pageSize page address.toNat size.toNat}

/-- A `VirtualProtect` that succeeds sets the protection of every page with an address of the
region, and of no other page, and reports the old one of the first page. -/
structure VirtualProtect.Lawful (virtualProtect : VirtualProtect) (pageSize : Nat) : Prop where
  pages : ∀ {address size prot pages old pages'},
    virtualProtect address size prot pages = some (old, pages') →
    pages' = Guards.write pages (regionPages pageSize address size) (some prot)
  first : ∀ {address size prot pages old pages'},
    virtualProtect address size prot pages = some (old, pages') →
    pages (address.toNat / pageSize) = some old

section

variable {virtualProtect : VirtualProtect} {pageSize : Nat}

theorem protectorSystem_lawful (h : virtualProtect.Lawful pageSize) :
    (protectorSystem virtualProtect).Lawful pageSize (regionPages pageSize) where
  region := by
    intro address size flags pages
    simp only [protectorSystem, construct]
    cases virtualProtect address size (toSystemProt flags) pages <;> exact ⟨rfl, rfl⟩
  fails := by
    intro address size flags pages hset
    simp only [protectorSystem, construct] at hset ⊢
    cases hcall : virtualProtect address size (toSystemProt flags) pages with
    | none => rfl
    | some result => simp [hcall] at hset
  succeeds := by
    intro address size flags pages hset
    simp only [protectorSystem, construct] at hset ⊢
    cases hcall : virtualProtect address size (toSystemProt flags) pages with
    | none => simp [hcall] at hset
    | some result => exact h.pages hcall
  saves := by
    intro address size flags pages hset page _
    simp only [protectorSystem, construct] at hset ⊢
    cases hcall : virtualProtect address size (toSystemProt flags) pages with
    | none => simp [hcall] at hset
    | some result => exact h.first hcall
  restores := by
    intro o pages hok
    simp only [protectorSystem, restore] at hok ⊢
    cases hcall : virtualProtect o.address o.size o.oldProtection pages with
    | none => simp [hcall] at hok
    | some result => exact h.pages hcall

/-! ### Queries of a protected region -/

/-- Flags that a protection has everywhere. -/
theorem regionHasFlags_uniform {query : VirtualQuery} {committed : CommittedMap}
    (hquery : query.Shows committed) {data size : BitVec 64} {prot : DWORD}
    (hsize : 0 < size.toNat) (hwrap : data.toNat + size.toNat < 2 ^ 64)
    (hprot : ∀ a, data.toNat ≤ a → a < data.toNat + size.toNat → committed a = some prot)
    (flags : DWORD) : regionHasFlags query data size flags = .ok (prot &&& flags != 0) := by
  obtain ⟨answer, hanswer, hiff⟩ := regionHasFlags_ok hquery hwrap flags
  rw [hanswer]
  congr 1
  rw [Bool.eq_iff_iff, hiff, bne_iff_ne]
  constructor
  · intro h
    obtain ⟨protect, hprotect, hallowed⟩ := h data.toNat le_rfl (by omega)
    rw [hprot _ le_rfl (by omega), Option.some.injEq] at hprotect
    rwa [hprotect]
  · intro hallowed a hlo hhi
    exact ⟨prot, hprot a hlo hhi, hallowed⟩

/-- **A protected region** that is not empty can be read exactly if reading or writing was asked
for, and can be written and executed exactly if that was asked for. -/
theorem construct_queries (h : virtualProtect.Lawful pageSize) {address size : BitVec 64}
    (flags : Protection) (pages : PageMap)
    (hset : (construct virtualProtect address size flags pages).1.set = true)
    (hsize : 0 < size.toNat) (hwrap : address.toNat + size.toNat < 2 ^ 64) {query : VirtualQuery}
    (hquery : query.Shows
      fun a => (construct virtualProtect address size flags pages).2 (a / pageSize)) :
    isReadable query address size
        = .ok (hasFlag flags Protection.read || hasFlag flags Protection.write) ∧
      isWritable query address size = .ok (hasFlag flags Protection.write) ∧
      isExecutable query address size = .ok (hasFlag flags Protection.execute) := by
  have hpages := (protectorSystem_lawful h).succeeds hset
  have hprot : ∀ a, address.toNat ≤ a → a < address.toNat + size.toNat →
      (construct virtualProtect address size flags pages).2 (a / pageSize)
        = some (toSystemProt flags) := by
    intro a hlo hhi
    refine (congrFun hpages (a / pageSize)).trans (Guards.write_of_mem ?_)
    exact ⟨a, hlo, hhi, rfl⟩
  have hflags := regionHasFlags_uniform hquery hsize hwrap hprot
  rw [isReadable, isWritable, isExecutable, hflags, hflags, hflags, toSystemProt]
  generalize hasFlag flags Protection.read = r
  generalize hasFlag flags Protection.write = w
  generalize hasFlag flags Protection.execute = x
  cases r <;> cases w <;> cases x <;> exact ⟨rfl, rfl, rfl⟩

/-! ### Restoration -/

/-- **When memory protectors restore everything.**  A well-nested run begins and ends without
objects.  Then a page has its first protection whenever no object has it, if and only if every
protector that is the first to have it finds it at the protection of the page of its address. -/
theorem protectors_restore_iff (h : virtualProtect.Lawful pageSize) (pages : PageMap)
    (run : List ProtectorCall)
    (hrun : Steps (protectorSystem virtualProtect).step (protectorSystem virtualProtect).Nested
      ⟨pages, fun _ => none, []⟩ run)
    (hend : ∀ place, (after (protectorSystem virtualProtect).step
      ⟨pages, fun _ => none, []⟩ run).objects place = none)
    (page : Nat) :
    Always (protectorSystem virtualProtect).step
        (fun s =>
          ProtectorSystem.Unreached (regionPages pageSize) page s → s.pages page = pages page)
        ⟨pages, fun _ => none, []⟩ run ↔
      Steps (protectorSystem virtualProtect).step
        ((protectorSystem virtualProtect).FindsSaved pageSize (regionPages pageSize) page)
        ⟨pages, fun _ => none, []⟩ run :=
  (protectorSystem_lawful h).restores_iff pages hrun hend page

end

/-- A `VirtualProtect` that succeeds if the region is not empty and all of its pages are
committed. -/
def setCommitted (n : Nat) : VirtualProtect := fun address size prot pages =>
  let first := address.toNat / n
  let last := (address.toNat + size.toNat - 1) / n
  match pages first with
  | none => none
  | some old =>
    if 0 < size.toNat ∧ ∀ i < last + 1 - first, pages (first + i) ≠ none then
      some (old, fun page =>
        if 0 < size.toNat ∧ first ≤ page ∧ page ≤ last then some prot else pages page)
    else none

theorem setCommitted_eq_some {n : Nat} {address size : BitVec 64} {prot old : DWORD}
    {pages pages' : PageMap} (h : setCommitted n address size prot pages = some (old, pages')) :
    pages (address.toNat / n) = some old ∧ pages' = fun page =>
      if 0 < size.toNat ∧ address.toNat / n ≤ page ∧
          page ≤ (address.toNat + size.toNat - 1) / n then some prot else pages page := by
  simp only [setCommitted] at h
  cases hfirst : pages (address.toNat / n) with
  | none => simp [hfirst] at h
  | some old' =>
    rw [hfirst] at h
    dsimp only at h
    split_ifs at h
    obtain ⟨hold, hpages⟩ := Prod.mk.inj (Option.some.inj h)
    exact ⟨congrArg some hold, hpages.symm⟩

theorem setCommitted_lawful {n : Nat} (hn : 0 < n) : (setCommitted n).Lawful n where
  pages := by
    intro address size prot pages old pages' h
    rw [(setCommitted_eq_some h).2]
    funext page
    by_cases hpage : page ∈ regionPages n address size
    · rw [Guards.write_of_mem hpage]
      exact if_pos ((meets_iff hn).mp hpage)
    · rw [Guards.write_of_notMem hpage]
      exact if_neg fun hmeets => hpage ((meets_iff hn).mpr hmeets)
  first := by
    intro address size prot pages old pages' h
    exact (setCommitted_eq_some h).1

/-- A page that can be read, and one that can also be executed. -/
def twoPages : PageMap := fun page =>
  if page = 0x10 then some pageReadOnly else if page = 0x11 then some pageExecuteRead else none

theorem protectors_restore_iff_sample :
    Always (protectorSystem (setCommitted 4096)).step
        (fun s =>
          ProtectorSystem.Unreached (regionPages 4096) 0x10 s → s.pages 0x10 = twoPages 0x10)
        ⟨twoPages, fun _ => none, []⟩
        [.construct 0 0x10000#64 0x1000#64 Protection.write, .move 0 1, .destroy 0, .destroy 1] ↔
      Steps (protectorSystem (setCommitted 4096)).step
        ((protectorSystem (setCommitted 4096)).FindsSaved 4096 (regionPages 4096) 0x10)
        ⟨twoPages, fun _ => none, []⟩
        [.construct 0 0x10000#64 0x1000#64 Protection.write, .move 0 1, .destroy 0,
          .destroy 1] := by
  refine protectors_restore_iff (setCommitted_lawful (by decide)) twoPages _ ?_ ?_ 0x10
  · refine ⟨rfl, ⟨⟨_, rfl⟩, rfl⟩, ⟨_, rfl, ?_⟩, ⟨_, rfl, fun _ => ⟨rfl, rfl⟩⟩, trivial⟩
    intro hset
    exact absurd hset (by decide)
  · intro place
    rcases place with _ | _ | place <;> rfl

/-- A query of the page that was protected. -/
def writablePageQuery : VirtualQuery := fun addr =>
  if addr.toNat / 4096 = 0x10 then some ⟨0x10000#64, 0x1000#64, memCommit, pageReadWrite⟩ else none

def onePage : PageMap := fun page => if page = 0x10 then some pageReadOnly else none

theorem construct_onePage (a : Nat) :
    (construct (setCommitted 4096) 0x10000#64 0x1000#64 Protection.write onePage).2 (a / 4096)
      = if a / 4096 = 0x10 then some pageReadWrite else none := by
  show (if 0 < 4096 ∧ 16 ≤ a / 4096 ∧ a / 4096 ≤ 16 then some pageReadWrite
    else if a / 4096 = 16 then some pageReadOnly else none) = _
  by_cases ha : a / 4096 = 16
  · rw [if_pos (by omega), if_pos ha]
  · rw [if_neg (by omega), if_neg ha, if_neg ha]

theorem writablePageQuery_shows : writablePageQuery.Shows fun a =>
    (construct (setCommitted 4096) 0x10000#64 0x1000#64 Protection.write onePage).2 (a / 4096) := by
  have hsome : ∀ {addr mbi}, writablePageQuery addr = some mbi → addr.toNat / 4096 = 16 ∧
      mbi = ⟨0x10000#64, 0x1000#64, memCommit, pageReadWrite⟩ := by
    intro addr mbi h
    rw [writablePageQuery, Option.ite_none_right_eq_some] at h
    exact ⟨h.1, (Option.some.inj h.2).symm⟩
  refine ⟨fun h => ?_, fun h => ?_, fun h a ha => ?_, fun h => ?_⟩
  · obtain ⟨hpage, rfl⟩ := hsome h
    show 65536 ≤ _ ∧ _ < 65536 + 4096
    omega
  · obtain ⟨_, rfl⟩ := hsome h
    decide
  · obtain ⟨_, rfl⟩ := hsome h
    obtain ⟨hlo, hhi⟩ := ha
    have hlo' : 65536 ≤ a := hlo
    have hhi' : a < 65536 + 4096 := hhi
    rw [construct_onePage, if_pos (by omega), if_pos rfl]
  · rw [construct_onePage, if_neg]
    intro hpage
    rw [writablePageQuery, if_pos hpage] at h
    exact absurd h (by simp)

theorem construct_queries_sample :
    isReadable writablePageQuery 0x10000#64 0x1000#64 = .ok true ∧
      isWritable writablePageQuery 0x10000#64 0x1000#64 = .ok true ∧
      isExecutable writablePageQuery 0x10000#64 0x1000#64 = .ok false :=
  construct_queries (setCommitted_lawful (n := 4096) (by decide)) Protection.write onePage
    (by decide) (by decide) (by decide) writablePageQuery_shows

end Libhat.Win32

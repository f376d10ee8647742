import Libhat.Mac.Regions
import Libhat.ProtectorRuns

/-!
# The memory protector on macOS

The constructor asks `mach_vm_region` for the protection to restore and then calls
`mach_vm_protect`.  At an address that is not mapped the answer is that of the next region, but
then the call fails, unless the region is empty.

* `vmConstruct_queries`: what the region queries answer for a region that is protected.
* `vmProtectors_restore_iff`: the runs after which the pages are as they were.
-/

namespace Libhat.Mac

open Blocks Runs
open Linux (MemoryProtector PageMap Protection)

/-- `mach_vm_protect(address, size, false, prot)`: the pages after it, unless the call fails. -/
abbrev MachVmProtect := BitVec 64 → BitVec 64 → VmProt → PageMap → Option PageMap

/-- `get_page_prot`. -/
def getPageProt (query : MachVmRegion) (address : BitVec 64) : Option VmProt :=
  (query address).map VmRegion.protection

/-- `to_system_prot`. -/
def toSystemProt (flags : Protection) : VmProt :=
  (if flags &&& Protection.read ≠ 0 then vmProtRead else 0) |||
    (if flags &&& Protection.write ≠ 0 then vmProtWrite else 0) |||
    (if flags &&& Protection.execute ≠ 0 then vmProtExecute else 0)

/-- The constructor of `memory_protector`. -/
def construct (query : MachVmRegion) (machVmProtect : MachVmProtect) (address size : BitVec 64)
    (flags : Protection) (pages : PageMap) : MemoryProtector × PageMap :=
  match getPageProt query address with
  | none => (⟨address, size, 0, false⟩, pages)
  | some oldProt =>
    match machVmProtect address size (toSystemProt flags) pages with
    | some pages' => (⟨address, size, oldProt, true⟩, pages')
    | none => (⟨address, size, oldProt, false⟩, pages)

/-- `memory_protector::restore`: whether the call succeeds, and the pages. -/
def restore (machVmProtect : MachVmProtect) (o : MemoryProtector) (pages : PageMap) :
    Bool × PageMap :=
  match machVmProtect o.address o.size o.oldProtection pages with
  | some pages' => (true, pages')
  | none => (false, pages)

/-- The memory protectors of macOS, when `machVmRegion` are the queries of a task with the
pages. -/
def protectorSystem (machVmRegion : PageMap → MachVmRegion) (machVmProtect : MachVmProtect) :
    ProtectorSystem where
  construct address size flags pages :=
    construct (machVmRegion pages) machVmProtect address size flags pages
  restore := restore machVmProtect
  toSystemProt := toSystemProt

/-- The pages with an address of the region. -/
def regionPages (pageSize : Nat) (address size : BitVec 64) : Set Nat :=
  {page | Meets pageSize page address.toNat size.toNat}

/-- `mach_vm_region` at an address that is mapped reports the protection of its page. -/
def MachVmRegion.Finds (query : MachVmRegion) (pageSize : Nat) (pages : PageMap) : Prop :=
  ∀ {address : BitVec 64} {prot}, pages (address.toNat / pageSize) = some prot →
    getPageProt query address = some prot

/-- A `mach_vm_protect` that succeeds sets the protection of every page with an address of the
region, all of which are mapped, and of no other page. -/
structure MachVmProtect.Lawful (machVmProtect : MachVmProtect) (pageSize : Nat) : Prop where
  pages : ∀ {address size prot pages pages'}, machVmProtect address size prot pages = some pages' →
    pages' = Guards.write pages (regionPages pageSize address size) (some prot)
  mapped : ∀ {address size prot pages pages'}, machVmProtect address size prot pages = some pages' →
    ∀ page ∈ regionPages pageSize address size, ∃ old, pages page = some old

section

variable {machVmRegion : PageMap → MachVmRegion} {machVmProtect : MachVmProtect} {pageSize : Nat}

/-- **A constructor that succeeds** was called where the page of the address, if the region has
one, was mapped with the protection that it keeps. -/
theorem construct_set {query : MachVmRegion} {address size : BitVec 64} {flags : Protection}
    {pages : PageMap}
    (hset : (construct query machVmProtect address size flags pages).1.set = true) :
    getPageProt query address
        = some (construct query machVmProtect address size flags pages).1.oldProtection ∧
      machVmProtect address size (toSystemProt flags) pages
        = some (construct query machVmProtect address size flags pages).2 := by
  simp only [construct] at hset ⊢
  cases hold : getPageProt query address with
  | none => simp [hold] at hset
  | some oldProt =>
    cases hcall : machVmProtect address size (toSystemProt flags) pages with
    | none => simp [hold, hcall] at hset
    | some pages' => exact ⟨rfl, rfl⟩

theorem protectorSystem_lawful (hregion : ∀ pages, (machVmRegion pages).Finds pageSize pages)
    (h : machVmProtect.Lawful pageSize) :
    (protectorSystem machVmRegion machVmProtect).Lawful pageSize (regionPages pageSize) where
  region := by
    intro address size flags pages
    simp only [protectorSystem, construct]
    cases getPageProt (machVmRegion pages) address with
    | none => exact ⟨rfl, rfl⟩
    | some oldProt =>
      cases machVmProtect address size (toSystemProt flags) pages <;> exact ⟨rfl, rfl⟩
  fails := by
    intro address size flags pages hset
    simp only [protectorSystem, construct] at hset ⊢
    cases hold : getPageProt (machVmRegion pages) address with
    | none => rfl
    | some oldProt =>
      cases hcall : machVmProtect address size (toSystemProt flags) pages with
      | none => rfl
      | some pages' => simp [hold, hcall] at hset
  succeeds := by
    intro address size flags pages hset
    exact h.pages (construct_set hset).2
  saves := by
    intro address size flags pages hset page hpage
    obtain ⟨hold, hcall⟩ := construct_set hset
    -- the page of the address is one of the region
    obtain ⟨x, hlo, hhi, _⟩ := hpage
    obtain ⟨old, hmapped⟩ := h.mapped hcall (address.toNat / pageSize)
      ⟨address.toNat, le_rfl, by omega, rfl⟩
    have hfound := hregion pages hmapped
    rw [hold] at hfound
    rw [hmapped, ← hfound]
    rfl
  restores := by
    intro o pages hok
    simp only [protectorSystem, restore] at hok ⊢
    cases hcall : machVmProtect o.address o.size o.oldProtection pages with
    | none => simp [hcall] at hok
    | some pages' => exact h.pages hcall

/-! ### Queries of a protected region -/

/-- Flags that a protection has everywhere. -/
theorem regionHasFlags_uniform {query : MachVmRegion} {mapped : VmMap} (hquery : query.Shows mapped)
    {data size : BitVec 64} {prot : VmProt} (hsize : 0 < size.toNat)
    (hwrap : data.toNat + size.toNat < 2 ^ 64)
    (hprot : ∀ a, data.toNat ≤ a → a < data.toNat + size.toNat → mapped a = some prot)
    (flags : VmProt) : regionHasFlags query data size flags = .ok (prot &&& flags != 0) := by
  obtain ⟨answer, hanswer, hiff⟩ := regionHasFlags_ok hquery hwrap flags
  have hpermits : ∀ a, data.toNat ≤ a → a < data.toNat + size.toNat →
      (NextPermits mapped flags a ↔ prot &&& flags ≠ 0) := by
    intro a hlo hhi
    have hmapped := hprot a hlo hhi
    have hsome : mapped a ≠ none := by simp [hmapped]
    rw [← (and_iff_right hsome : _ ↔ NextPermits mapped flags a), ← permits_iff_nextPermits,
      Permits, hmapped]
    simp
  rw [hanswer]
  congr 1
  rw [Bool.eq_iff_iff, hiff, bne_iff_ne]
  constructor
  · intro h
    exact (hpermits data.toNat le_rfl (by omega)).mp (h data.toNat le_rfl (by omega))
  · intro hallowed a hlo hhi
    exact (hpermits a hlo hhi).mpr hallowed

theorem toSystemProt_eq (flags : Protection) : toSystemProt flags =
    (bif flags &&& Protection.read != 0 then vmProtRead else 0) |||
      (bif flags &&& Protection.write != 0 then vmProtWrite else 0) |||
      (bif flags &&& Protection.execute != 0 then vmProtExecute else 0) := by
  simp only [toSystemProt, cond_eq_ite, bne_iff_ne]

/-- **A protected region** that is not empty can be read, written and executed exactly if that
was asked for. -/
theorem vmConstruct_queries {query query' : MachVmRegion} (h : machVmProtect.Lawful pageSize)
    {address size : BitVec 64} (flags : Protection) (pages : PageMap)
    (hset : (construct query machVmProtect address size flags pages).1.set = true)
    (hsize : 0 < size.toNat) (hwrap : address.toNat + size.toNat < 2 ^ 64)
    (hquery : query'.Shows
      fun a => (construct query machVmProtect address size flags pages).2 (a / pageSize)) :
    isReadable query' address size = .ok (flags &&& Protection.read != 0) ∧
      isWritable query' address size = .ok (flags &&& Protection.write != 0) ∧
      isExecutable query' address size = .ok (flags &&& Protection.execute != 0) := by
  have hpages := h.pages (construct_set hset).2
  have hprot : ∀ a, address.toNat ≤ a → a < address.toNat + size.toNat →
      (construct query machVmProtect address size flags pages).2 (a / pageSize)
        = some (toSystemProt flags) := by
    intro a hlo hhi
    refine (congrFun hpages (a / pageSize)).trans (Guards.write_of_mem ?_)
    exact ⟨a, hlo, hhi, rfl⟩
  have hflags := regionHasFlags_uniform hquery hsize hwrap hprot
  rw [isReadable, isWritable, isExecutable, hflags, hflags, hflags, toSystemProt_eq]
  generalize (flags &&& Protection.read != 0) = r
  generalize (flags &&& Protection.write != 0) = w
  generalize (flags &&& Protection.execute != 0) = x
  cases r <;> cases w <;> cases x <;> exact ⟨rfl, rfl, rfl⟩

/-! ### Restoration -/

/-- **When memory protectors restore everything.**  A well-nested run begins and ends without
objects.  Then a page has its first protection whenever no object has it, if and only if every
protector that is the first to have it finds it at the protection of the page of its address. -/
theorem vmProtectors_restore_iff (hregion : ∀ pages, (machVmRegion pages).Finds pageSize pages)
    (h : machVmProtect.Lawful pageSize) (pages : PageMap) (run : List ProtectorCall)
    (hrun : Steps (protectorSystem machVmRegion machVmProtect).step
      (protectorSystem machVmRegion machVmProtect).Nested ⟨pages, fun _ => none, []⟩ run)
    (hend : ∀ place, (after (protectorSystem machVmRegion machVmProtect).step
      ⟨pages, fun _ => none, []⟩ run).objects place = none)
    (page : Nat) :
    Always (protectorSystem machVmRegion machVmProtect).step
        (fun s =>
          ProtectorSystem.Unreached (regionPages pageSize) page s → s.pages page = pages page)
        ⟨pages, fun _ => none, []⟩ run ↔
      Steps (protectorSystem machVmRegion machVmProtect).step
        ((protectorSystem machVmRegion machVmProtect).FindsSaved pageSize (regionPages pageSize)
          page)
        ⟨pages, fun _ => none, []⟩ run :=
  (protectorSystem_lawful hregion h).restores_iff pages hrun hend page

end

/-- A query that answers with the page of the address. -/
def pageQuery (n : Nat) (pages : PageMap) : MachVmRegion := fun address =>
  (pages (address.toNat / n)).map fun prot =>
    ⟨BitVec.ofNat 64 (address.toNat / n * n), BitVec.ofNat 64 n, prot⟩

theorem pageQuery_finds (n : Nat) (pages : PageMap) : (pageQuery n pages).Finds n pages := by
  intro address prot hprot
  rw [getPageProt, pageQuery, hprot]
  rfl

/-- A `mach_vm_protect` that succeeds if all pages of the region are mapped. -/
def setMapped (n : Nat) : MachVmProtect := fun address size prot pages =>
  let first := address.toNat / n
  let last := (address.toNat + size.toNat - 1) / n
  if 0 < size.toNat then
    if ∀ i < last + 1 - first, pages (first + i) ≠ none then
      some fun page => if first ≤ page ∧ page ≤ last then some prot else pages page
    else none
  else some pages

theorem setMapped_lawful {n : Nat} (hn : 0 < n) : (setMapped n).Lawful n where
  pages := by
    intro address size prot pages pages' h
    funext page
    simp only [setMapped] at h
    split_ifs at h with hsize hmapped
    · rw [← Option.some.inj h]
      by_cases hpage : page ∈ regionPages n address size
      · rw [Guards.write_of_mem hpage]
        exact if_pos ((meets_iff hn).mp hpage).2
      · rw [Guards.write_of_notMem hpage]
        exact if_neg fun hmeets => hpage ((meets_iff hn).mpr ⟨hsize, hmeets⟩)
    · rw [← Option.some.inj h]
      have hpage : page ∉ regionPages n address size := fun hmeets =>
        hsize ((meets_iff hn).mp hmeets).1
      rw [Guards.write_of_notMem hpage]
  mapped := by
    intro address size prot pages pages' h page hpage
    obtain ⟨hsize, hlo, hhi⟩ := (meets_iff hn).mp hpage
    simp only [setMapped, if_pos hsize] at h
    split_ifs at h with hmapped
    have hpage := hmapped (page - address.toNat / n) (by omega)
    rw [Nat.add_sub_of_le hlo] at hpage
    exact Option.ne_none_iff_exists'.mp hpage

/-- A page that can be read, and one that can also be executed. -/
def twoPages : PageMap := fun page =>
  if page = 0x10 then some vmProtRead
  else if page = 0x11 then some (vmProtRead ||| vmProtExecute) else none

theorem vmProtectors_restore_iff_sample :
    Always (protectorSystem (pageQuery 4096) (setMapped 4096)).step
        (fun s =>
          ProtectorSystem.Unreached (regionPages 4096) 0x11 s → s.pages 0x11 = twoPages 0x11)
        ⟨twoPages, fun _ => none, []⟩
        [.construct 0 0x10000#64 0x2000#64 Protection.write, .destroy 0] ↔
      Steps (protectorSystem (pageQuery 4096) (setMapped 4096)).step
        ((protectorSystem (pageQuery 4096) (setMapped 4096)).FindsSaved 4096 (regionPages 4096)
          0x11)
        ⟨twoPages, fun _ => none, []⟩
        [.construct 0 0x10000#64 0x2000#64 Protection.write, .destroy 0] := by
  refine vmProtectors_restore_iff (pageQuery_finds 4096) (setMapped_lawful (by decide)) twoPages _
    ?_ ?_ 0x11
  · exact ⟨rfl, ⟨_, rfl, fun _ => ⟨rfl, rfl⟩⟩, trivial⟩
  · intro place
    rcases place with _ | place <;> rfl

def onePage : PageMap := fun page => if page = 0x10 then some vmProtRead else none

/-- A query of the page that was protected. -/
def writablePageQuery : MachVmRegion := fun addr =>
  if addr.toNat < 0x11000 then some ⟨0x10000#64, 0x1000#64, vmProtWrite⟩ else none

theorem construct_onePage (a : Nat) :
    (construct (pageQuery 4096 onePage) (setMapped 4096) 0x10000#64 0x1000#64 Protection.write
      onePage).2 (a / 4096) = if a / 4096 = 0x10 then some vmProtWrite else none := by
  show (if 16 ≤ a / 4096 ∧ a / 4096 ≤ 16 then some vmProtWrite
    else if a / 4096 = 16 then some vmProtRead else none) = _
  by_cases ha : a / 4096 = 16
  · rw [if_pos (by omega), if_pos ha]
  · rw [if_neg (by omega), if_neg ha, if_neg ha]

theorem writablePageQuery_shows : writablePageQuery.Shows fun a =>
    (construct (pageQuery 4096 onePage) (setMapped 4096) 0x10000#64 0x1000#64 Protection.write
      onePage).2 (a / 4096) := by
  have hsome : ∀ {addr info}, writablePageQuery addr = some info → addr.toNat < 0x11000 ∧
      info = ⟨0x10000#64, 0x1000#64, vmProtWrite⟩ := by
    intro addr info h
    rw [writablePageQuery, Option.ite_none_right_eq_some] at h
    exact ⟨h.1, (Option.some.inj h.2).symm⟩
  refine ⟨fun h => ?_, fun h => ?_, fun h => ?_, fun h a ha => ?_, fun h a hlo hhi => ?_,
    fun h a hlo => ?_⟩
  · obtain ⟨hlt, rfl⟩ := hsome h
    exact hlt
  · obtain ⟨_, rfl⟩ := hsome h
    decide
  · obtain ⟨_, rfl⟩ := hsome h
    decide
  · obtain ⟨_, rfl⟩ := hsome h
    have hlo : 0x10000 ≤ a := ha.1
    have hhi : a < 0x10000 + 0x1000 := ha.2
    rw [construct_onePage, if_pos (by omega)]
  · obtain ⟨_, rfl⟩ := hsome h
    have hhi' : a < 0x10000 := hhi
    rw [construct_onePage, if_neg (by omega)]
  · rw [construct_onePage, if_neg]
    intro hpage
    rw [writablePageQuery, if_pos (by omega)] at h
    exact absurd h (by simp)

theorem vmConstruct_queries_sample :
    isReadable writablePageQuery 0x10000#64 0x1000#64 = .ok false ∧
      isWritable writablePageQuery 0x10000#64 0x1000#64 = .ok true ∧
      isExecutable writablePageQuery 0x10000#64 0x1000#64 = .ok false :=
  vmConstruct_queries (setMapped_lawful (n := 4096) (by decide)) Protection.write onePage
    (by decide) (by decide) (by decide) writablePageQuery_shows

end Libhat.Mac

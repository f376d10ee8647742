import Libhat.Lib.Loop
import Libhat.Memory
import Mathlib.Algebra.Group.Nat.Defs

/-!
# The protection of a region on Windows

`regionHasFlags` asks `VirtualQuery` for the run of pages at a cursor, which starts at
the begin of the region and moves to the end of the run.

* `regionHasFlags_ok`: the loop ends, and the answer is whether every address of the
  region is committed with one of the flags.
-/

namespace Libhat.Win32

/-- `DWORD`. -/
abbrev DWORD := BitVec 32

def memCommit : DWORD := 0x1000#32

def pageNoAccess : DWORD := 0x01#32
def pageReadOnly : DWORD := 0x02#32
def pageReadWrite : DWORD := 0x04#32
def pageWriteCopy : DWORD := 0x08#32
def pageExecute : DWORD := 0x10#32
def pageExecuteRead : DWORD := 0x20#32
def pageExecuteReadWrite : DWORD := 0x40#32
def pageExecuteWriteCopy : DWORD := 0x80#32

/-- `MEMORY_BASIC_INFORMATION`, a run of pages with the same attributes. -/
structure MemoryBasicInformation where
  baseAddress : BitVec 64
  regionSize : BitVec 64
  state : DWORD
  protect : DWORD

/-- `VirtualQuery`, which can fail. -/
abbrev VirtualQuery := BitVec 64 → Option MemoryBasicInformation

/-- One pass of the loop of `regionHasFlags`. -/
def regionHasFlagsStep (query : VirtualQuery) (last : BitVec 64) (flags : DWORD)
    (addr : BitVec 64) : Exec (Loop.Step (BitVec 64) Bool) :=
  if addr < last then
    match query addr with
    | none => .ok (.done false)
    | some mbi =>
      if mbi.state ≠ memCommit then .ok (.done false)
      else if mbi.protect &&& flags = 0 then .ok (.done false)
      else .ok (.next (mbi.baseAddress + mbi.regionSize))
  else .ok (.done true)

/-- `regionHasFlags`, for the region of `size` bytes at `data`. -/
def regionHasFlags (query : VirtualQuery) (data size : BitVec 64) (flags : DWORD) : Exec Bool :=
  Loop.run .budget (regionHasFlagsStep query (data + size) flags) (size.toNat + 1) data

/-- `is_readable`. -/
def isReadable (query : VirtualQuery) (data size : BitVec 64) : Exec Bool :=
  regionHasFlags query data size (pageExecuteRead ||| pageExecuteReadWrite |||
    pageExecuteWriteCopy ||| pageReadOnly ||| pageReadWrite ||| pageWriteCopy)

/-- `is_writable`. -/
def isWritable (query : VirtualQuery) (data size : BitVec 64) : Exec Bool :=
  regionHasFlags query data size (pageExecuteReadWrite ||| pageExecuteWriteCopy |||
    pageReadWrite ||| pageWriteCopy)

/-- `is_executable`. -/
def isExecutable (query : VirtualQuery) (data size : BitVec 64) : Exec Bool :=
  regionHasFlags query data size (pageExecute ||| pageExecuteRead ||| pageExecuteReadWrite |||
    pageExecuteWriteCopy)

/-- The protection of every committed address. -/
abbrev CommittedMap := Nat → Option DWORD

/-- The addresses of a run. -/
def MemoryBasicInformation.Contains (mbi : MemoryBasicInformation) (a : Nat) : Prop :=
  mbi.baseAddress.toNat ≤ a ∧ a < mbi.baseAddress.toNat + mbi.regionSize.toNat

instance (mbi : MemoryBasicInformation) (a : Nat) : Decidable (mbi.Contains a) :=
  inferInstanceAs (Decidable (_ ∧ _))

/-- `VirtualQuery` answers with a run of pages that has the address, and all of whose pages
are committed with the same protection, or none is; it fails for no committed address. -/
structure VirtualQuery.Shows (query : VirtualQuery) (committed : CommittedMap) : Prop where
  contains : ∀ {addr mbi}, query addr = some mbi → mbi.Contains addr.toNat
  ends : ∀ {addr mbi}, query addr = some mbi →
    mbi.baseAddress.toNat + mbi.regionSize.toNat < 2 ^ 64
  uniform : ∀ {addr mbi}, query addr = some mbi → ∀ a, mbi.Contains a →
    committed a = if mbi.state = memCommit then some mbi.protect else none
  fails : ∀ {addr}, query addr = none → committed addr.toNat = none

/-- The address is committed with one of the flags. -/
def Permits (committed : CommittedMap) (flags : DWORD) (a : Nat) : Prop :=
  ∃ protect, committed a = some protect ∧ protect &&& flags ≠ 0

section

variable {query : VirtualQuery} {committed : CommittedMap}
  {data size : BitVec 64}

/-- **One pass**: the cursor is at the end, or at an address without the flags, or passes
over a run of addresses with them. -/
theorem regionHasFlagsStep_passes (hquery : query.Shows committed) (flags : DWORD)
    (last addr : BitVec 64) :
    Loop.Passes (regionHasFlagsStep query last flags) BitVec.toNat (Permits committed flags)
      last.toNat addr := by
  unfold Loop.Passes
  rw [regionHasFlagsStep]
  by_cases hlt : addr < last
  · rw [if_pos hlt]
    have hlt' : addr.toNat < last.toNat := BitVec.lt_def.mp hlt
    cases hanswer : query addr with
    | none =>
      refine Or.inr (Or.inl ⟨hlt', ?_, rfl⟩)
      intro hpermits
      obtain ⟨protect, hprotect, _⟩ := hpermits
      rw [hquery.fails hanswer] at hprotect
      exact absurd hprotect (by simp)
    | some mbi =>
      have hcontains := hquery.contains hanswer
      have huniform := hquery.uniform hanswer
      by_cases hstate : mbi.state = memCommit
      · by_cases hflags : mbi.protect &&& flags = 0
        · refine Or.inr (Or.inl ⟨hlt', ?_, ?_⟩)
          · intro hpermits
            obtain ⟨protect, hprotect, hallowed⟩ := hpermits
            rw [huniform _ hcontains, if_pos hstate, Option.some.injEq] at hprotect
            exact hallowed (hprotect ▸ hflags)
          · show (if _ then _ else _) = _
            rw [if_neg (not_not_intro hstate), if_pos hflags]
        · have hend : (mbi.baseAddress + mbi.regionSize).toNat
              = mbi.baseAddress.toNat + mbi.regionSize.toNat := by
            rw [BitVec.toNat_add, Nat.mod_eq_of_lt (hquery.ends hanswer)]
          refine Or.inr (Or.inr ⟨hlt', mbi.baseAddress + mbi.regionSize, ?_, ?_, ?_⟩)
          · rw [hend]
            exact hcontains.2
          · intro a hlo hhi
            rw [hend] at hhi
            have hin : mbi.Contains a := ⟨Nat.le_trans hcontains.1 hlo, hhi⟩
            exact ⟨mbi.protect, by rw [huniform a hin, if_pos hstate], hflags⟩
          · show (if _ then _ else _) = _
            rw [if_neg (not_not_intro hstate), if_neg hflags]
      · refine Or.inr (Or.inl ⟨hlt', ?_, if_pos hstate⟩)
        intro hpermits
        obtain ⟨protect, hprotect, _⟩ := hpermits
        rw [huniform _ hcontains, if_neg hstate] at hprotect
        exact absurd hprotect (by simp)
  · exact Or.inl ⟨Nat.le_of_not_lt fun h => hlt (BitVec.lt_def.mpr h), by rw [if_neg hlt]⟩

/-- **Region queries.**  The loop ends, and for a region that does not wrap around the
answer is whether every address is committed with one of the flags. -/
theorem regionHasFlags_ok (hquery : query.Shows committed)
    (hwrap : data.toNat + size.toNat < 2 ^ 64) (flags : DWORD) :
    ∃ answer, regionHasFlags query data size flags = .ok answer ∧
      (answer = true ↔
        ∀ a, data.toNat ≤ a → a < data.toNat + size.toNat → Permits committed flags a) := by
  have hlast : (data + size).toNat = data.toNat + size.toNat := by
    rw [BitVec.toNat_add, Nat.mod_eq_of_lt hwrap]
  have hrun : ∃ answer, regionHasFlags query data size flags = .ok answer ∧
      (answer = true ↔
        ∀ a, data.toNat ≤ a → a < (data + size).toNat → Permits committed flags a) :=
    Loop.run_cursor (regionHasFlagsStep_passes hquery flags (data + size)) (by omega)
  rwa [hlast] at hrun

end

end Libhat.Win32

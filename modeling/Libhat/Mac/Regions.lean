import Libhat.Lib.Loop
import Libhat.Memory
import Mathlib.Algebra.Group.Nat.Defs

/-!
# The protection of a region on macOS

`regionHasFlags` asks `mach_vm_region` for the region at a cursor, which moves to the end of
the answer.  At an address that is not mapped the answer is the next region above it, and the
loop does not look at where it starts.

* `regionHasFlags_ok`: the answer is whether at every address of the region the next mapped
  address has the flag.
* `regionHasFlags_iff`: that is whether every address is mapped with the flag, except for a
  region that has a hole and whose mapped addresses, with the next one above it, have the
  flag.
-/

namespace Libhat.Mac

/-- `vm_prot_t`, a set of bits. -/
abbrev VmProt := BitVec 32

def vmProtRead : VmProt := 1#32
def vmProtWrite : VmProt := 2#32
def vmProtExecute : VmProt := 4#32

/-- What `mach_vm_region` reports: the address that it moves to, and the size and protection
of the region. -/
structure VmRegion where
  address : BitVec 64
  size : BitVec 64
  protection : VmProt

/-- `mach_vm_region`, which can fail. -/
abbrev MachVmRegion := BitVec 64 → Option VmRegion

/-- One pass of the loop of `regionHasFlags`. -/
def regionHasFlagsStep (query : MachVmRegion) (last : BitVec 64) (flags : VmProt)
    (addr : BitVec 64) : Exec (Loop.Step (BitVec 64) Bool) :=
  if addr < last then
    match query addr with
    | none => .ok (.done false)
    | some info =>
      if info.protection &&& flags = 0 then .ok (.done false)
      else .ok (.next (info.address + info.size))
  else .ok (.done true)

/-- `regionHasFlags`, for the region of `size` bytes at `data`. -/
def regionHasFlags (query : MachVmRegion) (data size : BitVec 64) (flags : VmProt) : Exec Bool :=
  Loop.run .budget (regionHasFlagsStep query (data + size) flags) (size.toNat + 1) data

/-- `is_readable`. -/
def isReadable (query : MachVmRegion) (data size : BitVec 64) : Exec Bool :=
  regionHasFlags query data size vmProtRead

/-- `is_writable`. -/
def isWritable (query : MachVmRegion) (data size : BitVec 64) : Exec Bool :=
  regionHasFlags query data size vmProtWrite

/-- `is_executable`. -/
def isExecutable (query : MachVmRegion) (data size : BitVec 64) : Exec Bool :=
  regionHasFlags query data size vmProtExecute

/-! ### The map of memory -/

/-- The protection of every mapped address. -/
abbrev VmMap := Nat → Option VmProt

/-- The addresses of a region. -/
def VmRegion.Contains (info : VmRegion) (a : Nat) : Prop :=
  info.address.toNat ≤ a ∧ a < info.address.toNat + info.size.toNat

instance (info : VmRegion) (a : Nat) : Decidable (info.Contains a) :=
  inferInstanceAs (Decidable (_ ∧ _))

/-- `mach_vm_region` answers with a mapped region that has the address, or with the next one
above it if the address is not mapped; it fails if there is none. -/
structure MachVmRegion.Shows (query : MachVmRegion) (mapped : VmMap) : Prop where
  above : ∀ {addr info}, query addr = some info →
    addr.toNat < info.address.toNat + info.size.toNat
  ends : ∀ {addr info}, query addr = some info →
    info.address.toNat + info.size.toNat < 2 ^ 64
  nonempty : ∀ {addr info}, query addr = some info → 0 < info.size.toNat
  uniform : ∀ {addr info}, query addr = some info → ∀ a, info.Contains a →
    mapped a = some info.protection
  next : ∀ {addr info}, query addr = some info → ∀ a, addr.toNat ≤ a →
    a < info.address.toNat → mapped a = none
  fails : ∀ {addr}, query addr = none → ∀ a, addr.toNat ≤ a → mapped a = none

/-- The address is mapped with one of the flags. -/
def Permits (mapped : VmMap) (flags : VmProt) (a : Nat) : Prop :=
  ∃ protection, mapped a = some protection ∧ protection &&& flags ≠ 0

/-- There is a mapped address from `a` on, and the first one has one of the flags. -/
def NextPermits (mapped : VmMap) (flags : VmProt) (a : Nat) : Prop :=
  ∃ b, a ≤ b ∧ Permits mapped flags b ∧ ∀ c, a ≤ c → c < b → mapped c = none

section

variable {query : MachVmRegion} {mapped : VmMap} {flags : VmProt} {data size : BitVec 64}

/-- At a mapped address the next mapped address is the address itself. -/
theorem permits_iff_nextPermits {a : Nat} :
    Permits mapped flags a ↔ mapped a ≠ none ∧ NextPermits mapped flags a := by
  constructor
  · intro hpermits
    refine ⟨?_, a, le_rfl, hpermits, fun c hlo hhi => absurd hhi (Nat.not_lt.mpr hlo)⟩
    obtain ⟨protection, hprotection, _⟩ := hpermits
    rw [hprotection]
    exact Option.some_ne_none protection
  · intro h
    obtain ⟨hmapped, b, hle, hpermits, hnone⟩ := h
    rcases Nat.lt_or_eq_of_le hle with hlt | heq
    · exact absurd (hnone a le_rfl hlt) hmapped
    · rw [heq]
      exact hpermits

/-- The addresses up to the end of the region that is reported see its protection. -/
theorem MachVmRegion.Shows.nextPermits_iff (hquery : query.Shows mapped) {addr : BitVec 64}
    {info : VmRegion} (hanswer : query addr = some info) {a : Nat} (hlo : addr.toNat ≤ a)
    (hhi : a < info.address.toNat + info.size.toNat) :
    NextPermits mapped flags a ↔ info.protection &&& flags ≠ 0 := by
  have huniform := hquery.uniform hanswer
  have hsize := hquery.nonempty hanswer
  -- the first mapped address from `a` on is the later one of `a` and the region's start
  have hfirst : info.Contains (max a info.address.toNat) := ⟨by omega, by omega⟩
  have hhole : ∀ c, a ≤ c → c < max a info.address.toNat → mapped c = none := by
    intro c hac hc
    exact hquery.next hanswer c (by omega) (by omega)
  constructor
  · intro h
    obtain ⟨b, hab, hpermits, hnone⟩ := h
    obtain ⟨protection, hprotection, hflag⟩ := hpermits
    have hb : b = max a info.address.toNat := by
      rcases Nat.lt_trichotomy b (max a info.address.toNat) with hlt | heq | hgt
      · rw [hhole b hab hlt] at hprotection
        exact absurd hprotection (by simp)
      · exact heq
      · have hmapped := huniform _ hfirst
        rw [hnone _ (by omega) hgt] at hmapped
        exact absurd hmapped (by simp)
    rw [hb, huniform _ hfirst, Option.some.injEq] at hprotection
    rw [hprotection]
    exact hflag
  · intro hflag
    exact ⟨_, by omega, ⟨info.protection, huniform _ hfirst, hflag⟩, hhole⟩

/-- **One pass** of the loop. -/
theorem regionHasFlagsStep_passes (hquery : query.Shows mapped) (flags : VmProt)
    (last addr : BitVec 64) :
    Loop.Passes (regionHasFlagsStep query last flags) BitVec.toNat (NextPermits mapped flags)
      last.toNat addr := by
  unfold Loop.Passes
  rw [regionHasFlagsStep]
  by_cases hlt : addr < last
  · rw [if_pos hlt]
    have hlt' : addr.toNat < last.toNat := BitVec.lt_def.mp hlt
    cases hanswer : query addr with
    | none =>
      refine Or.inr (Or.inl ⟨hlt', ?_, rfl⟩)
      intro hpermits
      obtain ⟨b, hle, ⟨protection, hprotection, _⟩, _⟩ := hpermits
      rw [hquery.fails hanswer b hle] at hprotection
      exact absurd hprotection (by simp)
    | some info =>
      have habove := hquery.above hanswer
      by_cases hflags : info.protection &&& flags = 0
      · refine Or.inr (Or.inl ⟨hlt', ?_, if_pos hflags⟩)
        rw [hquery.nextPermits_iff hanswer le_rfl habove]
        exact not_not_intro hflags
      · have hend : (info.address + info.size).toNat
            = info.address.toNat + info.size.toNat := by
          rw [BitVec.toNat_add, Nat.mod_eq_of_lt (hquery.ends hanswer)]
        refine Or.inr (Or.inr ⟨hlt', info.address + info.size, ?_, ?_, if_neg hflags⟩)
        · rw [hend]
          exact habove
        · intro a hlo hhi
          rw [hend] at hhi
          exact (hquery.nextPermits_iff hanswer hlo hhi).mpr hflags
  · exact Or.inl ⟨Nat.le_of_not_lt fun h => hlt (BitVec.lt_def.mpr h), by rw [if_neg hlt]⟩

/-- **What the loop finds out.**  It ends, and for a region that does not wrap around the
answer is whether every address sees the flag at the next mapped address. -/
theorem regionHasFlags_ok (hquery : query.Shows mapped)
    (hwrap : data.toNat + size.toNat < 2 ^ 64) (flags : VmProt) :
    ∃ answer, regionHasFlags query data size flags = .ok answer ∧
      (answer = true ↔
        ∀ a, data.toNat ≤ a → a < data.toNat + size.toNat → NextPermits mapped flags a) := by
  have hlast : (data + size).toNat = data.toNat + size.toNat := by
    rw [BitVec.toNat_add, Nat.mod_eq_of_lt hwrap]
  have hrun : ∃ answer, regionHasFlags query data size flags = .ok answer ∧
      (answer = true ↔
        ∀ a, data.toNat ≤ a → a < (data + size).toNat → NextPermits mapped flags a) :=
    Loop.run_cursor (regionHasFlagsStep_passes hquery flags (data + size)) (by omega)
  rwa [hlast] at hrun

/-- **Region queries.**  The answer is whether every address of the region is mapped with the
flag, if and only if every address of it is mapped, or there is one from which the next mapped
address lacks the flag or does not exist. -/
theorem regionHasFlags_iff (hquery : query.Shows mapped)
    (hwrap : data.toNat + size.toNat < 2 ^ 64) (flags : VmProt) :
    ∃ answer, regionHasFlags query data size flags = .ok answer ∧
      ((answer = true ↔
          ∀ a, data.toNat ≤ a → a < data.toNat + size.toNat → Permits mapped flags a) ↔
        (∀ a, data.toNat ≤ a → a < data.toNat + size.toNat → mapped a ≠ none) ∨
          ∃ a, data.toNat ≤ a ∧ a < data.toNat + size.toNat ∧ ¬ NextPermits mapped flags a) := by
  obtain ⟨answer, hanswer, hiff⟩ := regionHasFlags_ok hquery hwrap flags
  refine ⟨answer, hanswer, ?_⟩
  rw [hiff]
  by_cases hnext : ∀ a, data.toNat ≤ a → a < data.toNat + size.toNat → NextPermits mapped flags a
  · rw [iff_true_left hnext, or_iff_left (by simpa using hnext)]
    constructor
    · intro hall a hlo hhi
      exact (permits_iff_nextPermits.mp (hall a hlo hhi)).1
    · intro hmapped a hlo hhi
      exact permits_iff_nextPermits.mpr ⟨hmapped a hlo hhi, hnext a hlo hhi⟩
  · refine iff_of_true (iff_of_false hnext ?_) (Or.inr (by simpa using hnext))
    intro hall
    exact hnext fun a hlo hhi => (permits_iff_nextPermits.mp (hall a hlo hhi)).2

end

/-- Two pages that can be read, and a hole of one page between them. -/
def holeQuery : MachVmRegion := fun addr =>
  if addr.toNat < 0x2000 then some ⟨0x1000#64, 0x1000#64, vmProtRead⟩
  else if addr.toNat < 0x4000 then some ⟨0x3000#64, 0x1000#64, vmProtRead⟩
  else none

def holeMap : VmMap := fun a =>
  if 0x1000 ≤ a ∧ a < 0x2000 ∨ 0x3000 ≤ a ∧ a < 0x4000 then some vmProtRead else none

theorem holeQuery_eq_some {addr : BitVec 64} {info : VmRegion} (h : holeQuery addr = some info) :
    (addr.toNat < 0x2000 ∧ info = ⟨0x1000#64, 0x1000#64, vmProtRead⟩) ∨
      (0x2000 ≤ addr.toNat ∧ addr.toNat < 0x4000 ∧
        info = ⟨0x3000#64, 0x1000#64, vmProtRead⟩) := by
  rw [holeQuery] at h
  by_cases hlow : addr.toNat < 0x2000
  · rw [if_pos hlow] at h
    exact Or.inl ⟨hlow, (Option.some.inj h).symm⟩
  · rw [if_neg hlow, Option.ite_none_right_eq_some] at h
    exact Or.inr ⟨Nat.le_of_not_lt hlow, h.1, (Option.some.inj h.2).symm⟩

theorem holeQuery_shows : holeQuery.Shows holeMap where
  above := by
    intro addr info hanswer
    rcases holeQuery_eq_some hanswer with ⟨hlow, rfl⟩ | ⟨_, hhigh, rfl⟩
    · exact hlow
    · exact hhigh
  ends := by
    intro addr info hanswer
    rcases holeQuery_eq_some hanswer with ⟨_, rfl⟩ | ⟨_, _, rfl⟩ <;> decide
  nonempty := by
    intro addr info hanswer
    rcases holeQuery_eq_some hanswer with ⟨_, rfl⟩ | ⟨_, _, rfl⟩ <;> decide
  uniform := by
    intro addr info hanswer a hin
    rcases holeQuery_eq_some hanswer with ⟨_, rfl⟩ | ⟨_, _, rfl⟩
    · exact if_pos (Or.inl hin)
    · exact if_pos (Or.inr hin)
  next := by
    intro addr info hanswer a hlo hhi
    rcases holeQuery_eq_some hanswer with ⟨_, rfl⟩ | ⟨hhigh, _, rfl⟩
    · have hbelow : a < 0x1000 := hhi
      exact if_neg (by omega)
    · have hbelow : a < 0x3000 := hhi
      exact if_neg (by omega)
  fails := by
    intro addr hanswer a hle
    have hout : ¬ addr.toNat < 0x4000 := by
      intro hlt
      rw [holeQuery, if_pos hlt] at hanswer
      by_cases hlow : addr.toNat < 0x2000
      · rw [if_pos hlow] at hanswer
        exact absurd hanswer (by simp)
      · rw [if_neg hlow] at hanswer
        exact absurd hanswer (by simp)
    exact if_neg (by omega)

theorem regionHasFlags_iff_sample :
    ∃ answer, regionHasFlags holeQuery 0x1800#64 0x400#64 vmProtRead = .ok answer ∧
      ((answer = true ↔ ∀ a, (0x1800#64).toNat ≤ a → a < (0x1800#64).toNat + (0x400#64).toNat →
          Permits holeMap vmProtRead a) ↔
        (∀ a, (0x1800#64).toNat ≤ a → a < (0x1800#64).toNat + (0x400#64).toNat →
          holeMap a ≠ none) ∨
          ∃ a, (0x1800#64).toNat ≤ a ∧ a < (0x1800#64).toNat + (0x400#64).toNat ∧
            ¬ NextPermits holeMap vmProtRead a) :=
  regionHasFlags_iff holeQuery_shows (by decide) vmProtRead

/-- A region with a hole in it is reported to be readable. -/
theorem hole_is_readable :
    holeQuery.Shows holeMap ∧ isReadable holeQuery 0x1800#64 0x2000#64 = .ok true ∧
    holeMap 0x2800 = none :=
  ⟨holeQuery_shows, rfl, rfl⟩

end Libhat.Mac

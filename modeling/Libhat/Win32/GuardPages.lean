import Libhat.Lib.Blocks
import Libhat.RegionQueries

/-!
# Guard pages

On Windows the protection of a page is a base protection, to which bits like `PAGE_GUARD` may
be added; an access to a guard page raises an exception.

* `isAccessible_iff`: the queries tell what can be accessed, except for a region in which
  every page has a base protection for the access and some of them are guard pages.
-/

namespace Libhat.Win32

open Blocks

def pageGuard : DWORD := 0x100#32

inductive Access where
  | read
  | write
  | execute
  deriving DecidableEq

/-- The accesses that a base protection allows. -/
def allows : PageProtection → Access → Bool
  | .noAccess, _ => false
  | .readOnly, access => access = .read
  | .readWrite, access => access ≠ .execute
  | .writeCopy, access => access ≠ .execute
  | .execute, access => access = .execute
  | .executeRead, access => access ≠ .write
  | .executeReadWrite, _ => true
  | .executeWriteCopy, _ => true

/-- The attributes of a committed page. -/
structure PageAttributes where
  base : PageProtection
  modifiers : DWORD
  /-- the low byte is that of the base protection -/
  modifiers_and : modifiers &&& 0xFF#32 = 0

namespace PageAttributes

/-- The value of `Protect`. -/
def protect (attributes : PageAttributes) : DWORD := attributes.base.value ||| attributes.modifiers

/-- The page is a guard page. -/
def Guarded (attributes : PageAttributes) : Prop := attributes.modifiers &&& pageGuard ≠ 0

end PageAttributes

/-- The committed pages and their attributes. -/
abbrev PageAttributesMap := Nat → Option PageAttributes

/-- The page is committed with a base protection for the access. -/
def Allowed (pages : PageAttributesMap) (access : Access) (page : Nat) : Prop :=
  ∃ attributes, pages page = some attributes ∧ allows attributes.base access = true

/-- The page is a guard page. -/
def GuardPage (pages : PageAttributesMap) (page : Nat) : Prop :=
  ∃ attributes, pages page = some attributes ∧ attributes.Guarded

/-- The page can be accessed without an exception. -/
def Accessible (pages : PageAttributesMap) (access : Access) (page : Nat) : Prop :=
  Allowed pages access page ∧ ¬ GuardPage pages page

/-- The query for an access. -/
def isAccessible (access : Access) (query : VirtualQuery) (data size : BitVec 64) : Exec Bool :=
  match access with
  | .read => isReadable query data size
  | .write => isWritable query data size
  | .execute => isExecutable query data size

/-- The flags of the query. -/
def accessFlags : Access → DWORD
  | .read => pageExecuteRead ||| pageExecuteReadWrite ||| pageExecuteWriteCopy ||| pageReadOnly |||
    pageReadWrite ||| pageWriteCopy
  | .write => pageExecuteReadWrite ||| pageExecuteWriteCopy ||| pageReadWrite ||| pageWriteCopy
  | .execute => pageExecute ||| pageExecuteRead ||| pageExecuteReadWrite ||| pageExecuteWriteCopy

theorem isAccessible_eq (access : Access) (query : VirtualQuery) (data size : BitVec 64) :
    isAccessible access query data size = regionHasFlags query data size (accessFlags access) := by
  cases access <;> rfl

/-- The flags see the base protection only. -/
theorem protect_and_accessFlags (attributes : PageAttributes) (access : Access) :
    attributes.protect &&& accessFlags access ≠ 0 ↔ allows attributes.base access = true := by
  have hlow : accessFlags access = 0xFF#32 &&& accessFlags access := by cases access <;> decide
  have hmodifiers : attributes.modifiers &&& accessFlags access = 0 := by
    rw [hlow, ← BitVec.and_assoc, attributes.modifiers_and]
    exact BitVec.zero_and
  have hsplit : attributes.protect &&& accessFlags access
      = attributes.base.value &&& accessFlags access := by
    rw [PageAttributes.protect, BitVec.and_or_distrib_right, hmodifiers]
    exact BitVec.or_zero
  rw [hsplit]
  cases attributes.base <;> cases access <;> decide

section

variable {query : VirtualQuery} {pages : PageAttributesMap} {n : Nat} {data size : BitVec 64}

/-- **What the query finds out**: whether every page has a base protection for the access. -/
theorem isAccessible_ok
    (hquery : query.Shows fun a => (pages (a / n)).map PageAttributes.protect)
    (hwrap : data.toNat + size.toNat < 2 ^ 64) (access : Access) :
    ∃ answer, isAccessible access query data size = .ok answer ∧
      (answer = true ↔ ∀ page, Meets n page data.toNat size.toNat → Allowed pages access page) := by
  obtain ⟨answer, hanswer, hiff⟩ := regionHasFlags_ok hquery hwrap (accessFlags access)
  refine ⟨answer, (isAccessible_eq access query data size).trans hanswer, hiff.trans ?_⟩
  rw [forall_meets]
  refine forall_congr' fun a => imp_congr_right fun _ => imp_congr_right fun _ => ?_
  constructor
  · intro hpermits
    obtain ⟨protect, hprotect, hflags⟩ := hpermits
    obtain ⟨attributes, hpage, rfl⟩ := Option.map_eq_some_iff.mp hprotect
    exact ⟨attributes, hpage, (protect_and_accessFlags attributes access).mp hflags⟩
  · intro hallowed
    obtain ⟨attributes, hpage, hbase⟩ := hallowed
    exact ⟨attributes.protect, by simp only [hpage, Option.map_some],
      (protect_and_accessFlags attributes access).mpr hbase⟩

/-- **Region queries.**  The answer is whether every page of the region is committed and can be
accessed without an exception, if and only if none of the pages is a guard page, or one of
them has no base protection for the access. -/
theorem isAccessible_iff
    (hquery : query.Shows fun a => (pages (a / n)).map PageAttributes.protect)
    (hwrap : data.toNat + size.toNat < 2 ^ 64) (access : Access) :
    ∃ answer, isAccessible access query data size = .ok answer ∧
      ((answer = true ↔
          ∀ page, Meets n page data.toNat size.toNat → Accessible pages access page) ↔
        (∀ page, Meets n page data.toNat size.toNat → ¬ GuardPage pages page) ∨
          ∃ page, Meets n page data.toNat size.toNat ∧ ¬ Allowed pages access page) := by
  obtain ⟨answer, hanswer, hiff⟩ := isAccessible_ok hquery hwrap access
  refine ⟨answer, hanswer, ?_⟩
  rw [hiff]
  by_cases hallowed : ∀ page, Meets n page data.toNat size.toNat → Allowed pages access page
  · rw [iff_true_left hallowed, or_iff_left (by simpa using hallowed)]
    refine forall_congr' fun page => forall_congr' fun hpage => ?_
    exact and_iff_right (hallowed page hpage)
  · refine iff_of_true (iff_of_false hallowed ?_) (Or.inr (by simpa using hallowed))
    intro hall
    exact hallowed fun page hpage => (hall page hpage).1

end

/-- One page that can be read and written, and is a guard page. -/
def guardedPage : PageAttributes := ⟨.readWrite, pageGuard, by decide⟩

def guardedPages : PageAttributesMap := fun page =>
  if page = 0x10000 then some guardedPage else none

def guardedQuery : VirtualQuery := fun addr =>
  if addr.toNat / 0x1000 = 0x10000 then
    some ⟨0x10000000#64, 0x1000#64, memCommit, guardedPage.protect⟩
  else none

theorem guardedQuery_eq_some {addr : BitVec 64} {mbi : MemoryBasicInformation}
    (h : guardedQuery addr = some mbi) : addr.toNat / 0x1000 = 0x10000 ∧
      mbi = ⟨0x10000000#64, 0x1000#64, memCommit, guardedPage.protect⟩ := by
  rw [guardedQuery, Option.ite_none_right_eq_some, Option.some.injEq] at h
  exact ⟨h.1, h.2.symm⟩

theorem guardedQuery_shows :
    guardedQuery.Shows fun a => (guardedPages (a / 0x1000)).map PageAttributes.protect where
  contains := by
    intro addr mbi hanswer
    obtain ⟨hpage, rfl⟩ := guardedQuery_eq_some hanswer
    show 0x10000000 ≤ addr.toNat ∧ addr.toNat < 0x10000000 + 0x1000
    omega
  ends := by
    intro addr mbi hanswer
    obtain ⟨_, rfl⟩ := guardedQuery_eq_some hanswer
    decide
  uniform := by
    intro addr mbi hanswer a hin
    obtain ⟨_, rfl⟩ := guardedQuery_eq_some hanswer
    have hbounds : 0x10000000 ≤ a ∧ a < 0x10000000 + 0x1000 := hin
    have hpage : a / 0x1000 = 0x10000 := by omega
    simp only [guardedPages, if_pos hpage]
    rfl
  fails := by
    intro addr hanswer
    have hout : ¬ addr.toNat / 0x1000 = 0x10000 := by
      intro hpage
      rw [guardedQuery, if_pos hpage] at hanswer
      exact absurd hanswer (by simp)
    simp only [guardedPages, if_neg hout, Option.map_none]

theorem isAccessible_iff_sample :
    ∃ answer, isAccessible .execute guardedQuery 0x10000000#64 8#64 = .ok answer ∧
      ((answer = true ↔ ∀ page, Meets 0x1000 page (0x10000000#64).toNat (8#64).toNat →
          Accessible guardedPages .execute page) ↔
        (∀ page, Meets 0x1000 page (0x10000000#64).toNat (8#64).toNat →
          ¬ GuardPage guardedPages page) ∨
          ∃ page, Meets 0x1000 page (0x10000000#64).toNat (8#64).toNat ∧
            ¬ Allowed guardedPages .execute page) :=
  isAccessible_iff guardedQuery_shows (by decide) .execute

/-- A guard page is reported to be readable. -/
theorem guardedPage_is_readable :
    (guardedQuery.Shows fun a => (guardedPages (a / 0x1000)).map PageAttributes.protect) ∧
    isReadable guardedQuery 0x10000000#64 8#64 = .ok true ∧
    Meets 0x1000 0x10000 (0x10000000#64).toNat (8#64).toNat ∧ GuardPage guardedPages 0x10000 :=
  ⟨guardedQuery_shows, rfl, ⟨0x10000000, by decide, by decide, by decide⟩,
    guardedPage, rfl, by unfold PageAttributes.Guarded; decide⟩

end Libhat.Win32

import Libhat.Lib.Runs
import Libhat.Linux.MemoryProtector
import Libhat.Linux.Regions
import Mathlib.Logic.Function.Basic

/-!
# The lifetime of memory protectors on Linux

A `memory_protector` keeps one word of the old protection, that of the page at
`address`, and its destructor writes it to every page that the constructor wrote to.
Moving hands the duty to restore over to the new object.

* `run_restores`: after a well-nested run a page is back at its first protection, if
  the constructors whose calls were the first to reach it found it at the word that they kept.
* `failed_lifetime`: what a constructor leaves behind whose call fails.
-/

namespace Libhat.Linux

open Blocks Runs

/-- The call of `mprotect` that the constructor and `restore` make. -/
def protect (pageSize : BitVec 64) (mprotect : Mprotect) (address size : BitVec 64)
    (prot : BitVec 32) (pages : PageMap) : Int × PageMap :=
  mprotect (fastAlignDown address pageSize) (fastAlignUp size pageSize) prot pages

/-- `memory_protector::restore`: the result of `mprotect`, which is not looked at, and
the pages after it. -/
def MemoryProtector.restore (pageSize : BitVec 64) (mprotect : Mprotect) (o : MemoryProtector)
    (pages : PageMap) : Int × PageMap :=
  protect pageSize mprotect o.address o.size o.oldProtection pages

/-- `~memory_protector`. -/
def MemoryProtector.destroy (pageSize : BitVec 64) (mprotect : Mprotect) (o : MemoryProtector)
    (pages : PageMap) : PageMap :=
  if o.set then (o.restore pageSize mprotect pages).2 else pages

/-- The move constructor: the new object, and what it leaves of the other one. -/
def MemoryProtector.move (o : MemoryProtector) : MemoryProtector × MemoryProtector :=
  (o, { o with set := false })

/-- The pages that the calls for a region reach. -/
def Reaches (pageSize address size : BitVec 64) (page : Nat) : Prop :=
  Meets pageSize.toNat page (fastAlignDown address pageSize).toNat
    (fastAlignUp size pageSize).toNat

/-- `/proc/self/maps` shows the protection of every address. -/
def Describes (pageSize : BitVec 64) (maps : Text) (pages : PageMap) : Prop :=
  ∀ address : BitVec 64, getPageProt maps address = pages (address.toNat / pageSize.toNat)

/-! ### Runs -/

/-- The pages, the objects by their places, and the places of the objects that hold a
protection, the latest first. -/
structure ProtectorState where
  pages : PageMap
  objects : Nat → Option MemoryProtector
  holding : List Nat

/-- What can happen to memory protectors. -/
inductive ProtectorEvent where
  | construct (place : Nat) (maps : Text) (address size : BitVec 64) (flags : Protection)
  | move (source target : Nat)
  | destroy (place : Nat)

/-- One event. -/
def protectorStep (pageSize : BitVec 64) (mprotect : Mprotect) (s : ProtectorState) :
    ProtectorEvent → ProtectorState
  | .construct place maps address size flags =>
    let (o, pages) := MemoryProtector.construct pageSize maps mprotect address size flags s.pages
    { pages
      objects := Function.update s.objects place (some o)
      holding := if o.set then place :: s.holding else s.holding }
  | .move source target =>
    match s.objects source with
    | none => s
    | some o =>
      { s with
        objects := Function.update (Function.update s.objects source (some o.move.2)) target
          (some o.move.1)
        holding := s.holding.map fun place => if place = source then target else place }
  | .destroy place =>
    match s.objects place with
    | none => s
    | some o =>
      { pages := o.destroy pageSize mprotect s.pages
        objects := Function.update s.objects place none
        holding := s.holding.erase place }

/-- **Well-nested events.**  An object that holds a protection is destroyed when it is the
latest one that does; the file of mappings is right, and calls of `mprotect` succeed. -/
def Nested (pageSize : BitVec 64) (mprotect : Mprotect) (s : ProtectorState) :
    ProtectorEvent → Prop
  | .construct place maps address size flags =>
    s.objects place = none ∧ Describes pageSize maps s.pages ∧
      (getPageProt maps address ≠ none →
        (protect pageSize mprotect address size (toSystemProt flags) s.pages).1 = 0)
  | .move source target => (∃ o, s.objects source = some o) ∧ s.objects target = none
  | .destroy place => ∃ o, s.objects place = some o ∧
      (o.set = true → s.holding.head? = some place ∧
        (o.restore pageSize mprotect s.pages).1 = 0)

/-- An object that holds a protection has written to the page. -/
def Reached (pageSize : BitVec 64) (objects : Nat → Option MemoryProtector) (places : List Nat)
    (page : Nat) : Prop :=
  ∃ place ∈ places, ∃ o, objects place = some o ∧ Reaches pageSize o.address o.size page

/-- A constructor that makes a call, the first one to reach the page, finds it at the protection
of the page of its address, which is the one that it keeps. -/
def FindsSaved (pageSize : BitVec 64) (page : Nat) (s : ProtectorState) : ProtectorEvent → Prop
  | .construct _ maps address size _ =>
    getPageProt maps address ≠ none → Reaches pageSize address size page →
      ¬ Reached pageSize s.objects s.holding page →
        s.pages page = s.pages (address.toNat / pageSize.toNat)
  | _ => True

/-! ### One call -/

section

variable {k : Nat} {pageSize : BitVec 64} {mprotect : Mprotect}

theorem dvd_fastAlignDown (hk : k < 64) (hps : pageSize.toNat = 2 ^ k) (address : BitVec 64) :
    pageSize.toNat ∣ (fastAlignDown address pageSize).toNat := by
  rw [toNat_fastAlignDown hk hps, hps]
  exact Nat.dvd_mul_right _ _

theorem construct_of_none {maps : Text} {address : BitVec 64}
    (h : getPageProt maps address = none) (size : BitVec 64) (flags : Protection)
    (pages : PageMap) :
    MemoryProtector.construct pageSize maps mprotect address size flags pages
      = (⟨address, size, 0, false⟩, pages) := by
  rw [MemoryProtector.construct, h]

theorem construct_of_some {maps : Text} {address : BitVec 64} {oldProt : BitVec 32}
    (h : getPageProt maps address = some oldProt) (size : BitVec 64) (flags : Protection)
    (pages : PageMap) :
    MemoryProtector.construct pageSize maps mprotect address size flags pages
      = (⟨address, size, oldProt,
            0 == (protect pageSize mprotect address size (toSystemProt flags) pages).1⟩,
          (protect pageSize mprotect address size (toSystemProt flags) pages).2) := by
  rw [MemoryProtector.construct, h]
  rfl

open Classical in
/-- **A call that succeeds** gives the protection to the pages it reaches. -/
theorem protect_of_success (hk : k < 64) (hps : pageSize.toNat = 2 ^ k)
    (hmp : mprotect.SetsPages pageSize.toNat) {address size : BitVec 64} {prot : BitVec 32}
    {pages : PageMap} (h : (protect pageSize mprotect address size prot pages).1 = 0) (page : Nat) :
    (protect pageSize mprotect address size prot pages).2 page
      = if Reaches pageSize address size page then some prot else pages page := by
  have haligned := dvd_fastAlignDown hk hps address
  by_cases hreach : Reaches pageSize address size page
  · rw [if_pos hreach]
    exact hmp.inside haligned h page hreach
  · rw [if_neg hreach]
    exact hmp.outside haligned h page hreach

end

/-! ### Undoing what is held -/

open Classical in
/-- The protection of a page after the objects at `places` have restored it in turn. -/
noncomputable def settled (pageSize : BitVec 64) (objects : Nat → Option MemoryProtector)
    (page : Nat) : List Nat → Option (BitVec 32) → Option (BitVec 32)
  | [], prot => prot
  | place :: places, prot =>
    settled pageSize objects page places <|
      match objects place with
      | none => prot
      | some o => if Reaches pageSize o.address o.size page then some o.oldProtection else prot

/-- What holds in a well-nested run that began with the protection `first` on the page. -/
structure Restorable (pageSize : BitVec 64) (page : Nat) (first : Option (BitVec 32))
    (s : ProtectorState) : Prop where
  nodup : s.holding.Nodup
  /-- the places in `holding` are those of the objects that hold a protection -/
  holding_iff : ∀ place, place ∈ s.holding ↔ ∃ o, s.objects place = some o ∧ o.set = true
  settled_eq : settled pageSize s.objects page s.holding (s.pages page) = first

section

variable {k : Nat} {pageSize : BitVec 64} {mprotect : Mprotect} {page : Nat}
  {first : Option (BitVec 32)}

/-- Objects at other places do not matter. -/
theorem settled_congr {objects objects' : Nat → Option MemoryProtector} {places : List Nat}
    (h : ∀ place ∈ places, objects' place = objects place) (prot : Option (BitVec 32)) :
    settled pageSize objects' page places prot = settled pageSize objects page places prot := by
  induction places generalizing prot with
  | nil => rfl
  | cons place places ih =>
    rw [settled, settled, h place List.mem_cons_self]
    exact ih (fun p hp => h p (List.mem_cons_of_mem place hp)) _

/-- Where an object has written to the page, undoing forgets what the page has now. -/
theorem settled_of_reached {objects : Nat → Option MemoryProtector} {places : List Nat}
    (h : Reached pageSize objects places page) (prot prot' : Option (BitVec 32)) :
    settled pageSize objects page places prot = settled pageSize objects page places prot' := by
  induction places generalizing prot prot' with
  | nil =>
    obtain ⟨place, hmem, _⟩ := h
    exact absurd hmem List.not_mem_nil
  | cons place places ih =>
    rw [settled, settled]
    by_cases hrest : Reached pageSize objects places page
    · exact ih hrest _ _
    · obtain ⟨q, hmem, o, ho, hreach⟩ := h
      rcases List.mem_cons.mp hmem with hq | hq
      · subst hq
        simp only [ho, if_pos hreach]
      · exact absurd ⟨q, hq, o, ho, hreach⟩ hrest

/-- A move renames a place. -/
theorem settled_move {objects : Nat → Option MemoryProtector} {o : MemoryProtector}
    {source target : Nat} {places : List Nat} (hsource : objects source = some o)
    (htarget : target ∉ places) (prot : Option (BitVec 32)) :
    settled pageSize (Function.update (Function.update objects source (some o.move.2)) target
        (some o.move.1)) page
        (places.map fun place => if place = source then target else place) prot
      = settled pageSize objects page places prot := by
  induction places generalizing prot with
  | nil => rfl
  | cons place places ih =>
    have hne : place ≠ target := fun heq => htarget (heq ▸ List.mem_cons_self)
    have hrest := ih fun h => htarget (List.mem_cons_of_mem place h)
    rw [List.map_cons, settled, settled]
    by_cases hplace : place = source
    · rw [if_pos hplace, Function.update_self, hplace, hsource]
      exact hrest _
    · rw [if_neg hplace, Function.update_of_ne hne, Function.update_of_ne hplace]
      exact hrest _

/-- Changing an object that holds nothing, before and after, keeps the undoing. -/
theorem Restorable.update {s : ProtectorState} (h : Restorable pageSize page first s)
    {place : Nat} {o : Option MemoryProtector} (hplace : place ∉ s.holding)
    (ho : ∀ o', o = some o' → o'.set = false) :
    Restorable pageSize page first
      { s with objects := Function.update s.objects place o } where
  nodup := h.nodup
  holding_iff := by
    intro q
    show q ∈ s.holding ↔ ∃ o', Function.update s.objects place o q = some o' ∧ o'.set = true
    by_cases hq : q = place
    · subst hq
      rw [Function.update_self]
      constructor
      · intro hmem
        exact absurd hmem hplace
      · intro hset
        obtain ⟨o', ho', hset⟩ := hset
        rw [ho o' ho'] at hset
        exact absurd hset (by simp)
    · rw [Function.update_of_ne hq]
      exact h.holding_iff q
  settled_eq := by
    refine Eq.trans (settled_congr ?_ _) h.settled_eq
    intro q hq
    have hne : q ≠ place := fun heq => hplace (heq ▸ hq)
    exact Function.update_of_ne hne _ _

/-- A place without an object holds nothing. -/
theorem Restorable.notMem_holding {s : ProtectorState} (h : Restorable pageSize page first s)
    {place : Nat} (hnone : s.objects place = none) : place ∉ s.holding := by
  intro hmem
  obtain ⟨o, ho, _⟩ := (h.holding_iff place).mp hmem
  rw [hnone] at ho
  exact absurd ho (by simp)

/-- **A constructor** adds one word to what can be undone. -/
theorem Restorable.construct {s : ProtectorState} (hk : k < 64) (hps : pageSize.toNat = 2 ^ k)
    (hmp : mprotect.SetsPages pageSize.toNat) (h : Restorable pageSize page first s) {place : Nat}
    {maps : Text} {address size : BitVec 64} {flags : Protection}
    (hnested : Nested pageSize mprotect s (.construct place maps address size flags))
    (hfinds : FindsSaved pageSize page s (.construct place maps address size flags)) :
    Restorable pageSize page first
      (protectorStep pageSize mprotect s (.construct place maps address size flags)) := by
  obtain ⟨hfree, hmaps, hcall⟩ := hnested
  have hplace := h.notMem_holding hfree
  cases hold : getPageProt maps address with
  | none =>
    simp only [protectorStep, construct_of_none hold, Bool.false_eq_true, if_false]
    exact h.update hplace (by simp)
  | some oldProt =>
    have hzero := hcall (by simp [hold])
    simp only [protectorStep, construct_of_some hold, hzero, beq_self_eq_true, if_true]
    have hother : ∀ q ∈ s.holding, q ≠ place := fun q hq heq => hplace (heq ▸ hq)
    refine ⟨List.nodup_cons.mpr ⟨hplace, h.nodup⟩, ?_, ?_⟩
    · intro q
      by_cases hq : q = place
      · subst hq
        simp
      · simp only [List.mem_cons, Function.update_of_ne hq, ← h.holding_iff q]
        exact or_iff_right hq
    · simp only [settled, Function.update_self]
      refine Eq.trans (settled_congr (fun q hq => Function.update_of_ne (hother q hq) _ _) _) ?_
      rw [← h.settled_eq]
      by_cases hreached : Reached pageSize s.objects s.holding page
      · exact settled_of_reached hreached _ _
      · congr 1
        simp only [protect_of_success hk hps hmp hzero]
        by_cases hreach : Reaches pageSize address size page
        · have hcalls : getPageProt maps address ≠ none := by simp [hold]
          rw [if_pos hreach, hfinds hcalls hreach hreached, ← hmaps address, hold]
        · rw [if_neg hreach, if_neg hreach]

/-- What is in a list after one of its elements has been renamed. -/
theorem mem_rename {l : List Nat} {source target q : Nat} :
    q ∈ l.map (fun p => if p = source then target else p) ↔
      (q = target ∧ source ∈ l) ∨ (q ≠ source ∧ q ∈ l) := by
  rw [List.mem_map]
  constructor
  · intro hq
    obtain ⟨p, hp, hpq⟩ := hq
    by_cases hps : p = source
    · rw [if_pos hps] at hpq
      exact Or.inl ⟨hpq.symm, hps ▸ hp⟩
    · rw [if_neg hps] at hpq
      exact Or.inr ⟨hpq ▸ hps, hpq ▸ hp⟩
  · intro hq
    rcases hq with ⟨hq, hs⟩ | ⟨hq, hs⟩
    · exact ⟨source, hs, by rw [if_pos rfl, hq]⟩
    · exact ⟨q, hs, if_neg hq⟩

/-- A new name keeps the elements apart. -/
theorem nodup_rename {l : List Nat} (h : l.Nodup) {source target : Nat} (hfree : target ∉ l) :
    (l.map fun p => if p = source then target else p).Nodup := by
  refine h.map_on ?_
  intro p hp q hq hpq
  have hpt : p ≠ target := fun heq => hfree (heq ▸ hp)
  have hqt : q ≠ target := fun heq => hfree (heq ▸ hq)
  by_cases hps : p = source
  · by_cases hqs : q = source
    · rw [hps, hqs]
    · rw [if_pos hps, if_neg hqs] at hpq
      exact absurd hpq.symm hqt
  · by_cases hqs : q = source
    · rw [if_neg hps, if_pos hqs] at hpq
      exact absurd hpq hpt
    · rwa [if_neg hps, if_neg hqs] at hpq

/-- **A move** changes nothing of what can be undone. -/
theorem Restorable.move {s : ProtectorState} (h : Restorable pageSize page first s)
    {source target : Nat} (hnested : Nested pageSize mprotect s (.move source target)) :
    Restorable pageSize page first (protectorStep pageSize mprotect s (.move source target)) := by
  obtain ⟨⟨o, hsource⟩, htarget⟩ := hnested
  have hfree := h.notMem_holding htarget
  simp only [protectorStep, hsource]
  refine ⟨nodup_rename h.nodup hfree, ?_, ?_⟩
  · intro q
    refine mem_rename.trans ?_
    by_cases hqt : q = target
    · subst hqt
      simp [h.holding_iff, hsource, htarget, MemoryProtector.move]
    · by_cases hqs : q = source
      · subst hqs
        simp [MemoryProtector.move, hqt]
      · simp [← h.holding_iff q, hqt, hqs]
  · rw [settled_move hsource hfree]
    exact h.settled_eq

/-- **A destructor** undoes the latest word, or has nothing to undo. -/
theorem Restorable.destroy {s : ProtectorState} (hk : k < 64) (hps : pageSize.toNat = 2 ^ k)
    (hmp : mprotect.SetsPages pageSize.toNat) (h : Restorable pageSize page first s) {place : Nat}
    (hnested : Nested pageSize mprotect s (.destroy place)) :
    Restorable pageSize page first (protectorStep pageSize mprotect s (.destroy place)) := by
  obtain ⟨o, ho, hlast⟩ := hnested
  simp only [protectorStep, ho, MemoryProtector.destroy]
  cases hset : o.set with
  | false =>
    have hplace : place ∉ s.holding := by
      intro hmem
      obtain ⟨o', ho', hset'⟩ := (h.holding_iff place).mp hmem
      rw [ho] at ho'
      rw [← Option.some.inj ho', hset] at hset'
      exact absurd hset' (by simp)
    rw [List.erase_of_not_mem hplace, if_neg (by simp)]
    exact h.update hplace (by simp)
  | true =>
    obtain ⟨hhead, hcall⟩ := hlast hset
    obtain ⟨rest, hrest⟩ : ∃ rest, s.holding = place :: rest :=
      List.head?_eq_some_iff.mp hhead
    have hnodup := h.nodup
    rw [hrest, List.nodup_cons] at hnodup
    have hother : ∀ q ∈ rest, q ≠ place := fun q hq heq => hnodup.1 (heq ▸ hq)
    rw [hrest, List.erase_cons_head, if_pos rfl]
    refine ⟨hnodup.2, ?_, ?_⟩
    · intro q
      by_cases hq : q = place
      · subst hq
        simp [hnodup.1]
      · simp only [Function.update_of_ne hq, ← h.holding_iff q, hrest, List.mem_cons]
        exact (or_iff_right hq).symm
    · refine Eq.trans (settled_congr (fun q hq => Function.update_of_ne (hother q hq) _ _) _) ?_
      have hsettled := h.settled_eq
      rw [hrest, settled, ho] at hsettled
      rw [← hsettled]
      congr 1
      exact protect_of_success hk hps hmp hcall page

theorem Restorable.step {s : ProtectorState} {e : ProtectorEvent} (hk : k < 64)
    (hps : pageSize.toNat = 2 ^ k) (hmp : mprotect.SetsPages pageSize.toNat)
    (h : Restorable pageSize page first s) (hnested : Nested pageSize mprotect s e)
    (hfinds : FindsSaved pageSize page s e) :
    Restorable pageSize page first (protectorStep pageSize mprotect s e) := by
  cases e with
  | construct place maps address size flags => exact h.construct hk hps hmp hnested hfinds
  | move source target => exact h.move hnested
  | destroy place => exact h.destroy hk hps hmp hnested

/-- **Restoration.**  After a well-nested run that begins without objects and ends with the
last destruction, a page has the protection that it had at first, if every constructor
whose call was the first to reach it found it at the protection of the page of its address. -/
theorem run_restores (hk : k < 64) (hps : pageSize.toNat = 2 ^ k)
    (hmp : mprotect.SetsPages pageSize.toNat) (pages : PageMap) (run : List ProtectorEvent)
    (hrun : Steps (protectorStep pageSize mprotect) (Nested pageSize mprotect)
      ⟨pages, fun _ => none, []⟩ run)
    (hend : ∀ place,
      (after (protectorStep pageSize mprotect) ⟨pages, fun _ => none, []⟩ run).objects place = none)
    (page : Nat)
    (hfinds : Steps (protectorStep pageSize mprotect) (FindsSaved pageSize page)
      ⟨pages, fun _ => none, []⟩ run) :
    (after (protectorStep pageSize mprotect) ⟨pages, fun _ => none, []⟩ run).pages page
      = pages page := by
  have hstart : Restorable pageSize page (pages page) ⟨pages, fun _ => none, []⟩ :=
    ⟨List.nodup_nil, by simp, rfl⟩
  have hfinal := after_of_steps (I := Restorable pageSize page (pages page))
    (fun s e hs he => hs.step hk hps hmp he.1 he.2) hstart (hrun.and hfinds)
  have hnone : (after (protectorStep pageSize mprotect) ⟨pages, fun _ => none, []⟩ run).holding
      = [] := by
    apply List.eq_nil_iff_forall_not_mem.mpr
    intro place hmem
    obtain ⟨o, ho, _⟩ := (hfinal.holding_iff place).mp hmem
    rw [hend place] at ho
    exact absurd ho (by simp)
  have hsettled := hfinal.settled_eq
  rw [hnone] at hsettled
  exact hsettled

end

/-- Two pages that can be read, and one that can also be executed. -/
def nestedPages : Text := "10000000-10002000 r--p 0\n10002000-10003000 r-xp 0".toList

/-- The first two of them made writable. -/
def nestedPagesWritable : Text := "10000000-10002000 rw-p 0\n10002000-10003000 r-xp 0".toList

theorem describes_nestedPages :
    Describes 4096#64 nestedPages (pagesOf 4096 (mappedRegions nestedPages)) := fun address =>
  getPageProt_eq_pagesOf (by decide) (by decide) address

/-- A protector for pages the first of which is not mapped, one for the first two pages, and in
its lifetime one for the last two.  The second one is moved. -/
def movedRun : List ProtectorEvent :=
  [.construct 0 nestedPages 0x0FFFF000#64 0x2000#64 (Protection.read ||| Protection.write),
    .construct 1 nestedPages 0x10000000#64 0x2000#64 (Protection.read ||| Protection.write),
    .construct 2 nestedPagesWritable 0x10001000#64 0x2000#64 Protection.read,
    .move 1 3, .destroy 1, .destroy 2, .destroy 3, .destroy 0]

/-- The file that shows the pages with the first two of them made writable. -/
theorem describes_nestedPagesWritable :
    Describes 4096#64 nestedPagesWritable
      (setPages 4096 0x10000000#64 0x2000#64 3#32
        (pagesOf 4096 (mappedRegions nestedPages))).2 := by
  intro address
  have hregions : mappedRegions nestedPages
      = [(0x10000000, 0x10002000, 1#32), (0x10002000, 0x10003000, 5#32)] := by decide
  have hwritable : mappedRegions nestedPagesWritable
      = [(0x10000000, 0x10002000, 3#32), (0x10002000, 0x10003000, 5#32)] := by decide
  rw [getPageProt_eq_pagesOf (n := 4096) (by decide) (by decide), hregions, hwritable]
  show pagesOf 4096 _ (address.toNat / 4096) = (setPages 4096 _ _ _ _).2 (address.toNat / 4096)
  generalize address.toNat / 4096 = page
  simp only [setPages, pagesOf, List.find?_cons, List.find?_nil]
  by_cases hfirst : 0x10000000 / 4096 ≤ page ∧ page < 0x10002000 / 4096
  all_goals
    simp only [hfirst]
    simp
    omega

theorem run_restores_sample :
    (after (protectorStep 4096#64 (setPages 4096))
        ⟨pagesOf 4096 (mappedRegions nestedPages), fun _ => none, []⟩ movedRun).pages 0x10001
      = pagesOf 4096 (mappedRegions nestedPages) 0x10001 := by
  refine run_restores (k := 12) (by decide) (by decide) (setPages_setsPages (by decide)) _ movedRun
    ?_ ?_ 0x10001 ?_
  · refine ⟨⟨rfl, describes_nestedPages, fun _ => rfl⟩, ⟨rfl, describes_nestedPages, fun _ => rfl⟩,
      ⟨rfl, describes_nestedPagesWritable, fun _ => rfl⟩, ⟨⟨_, rfl⟩, rfl⟩, ⟨_, rfl, ?_⟩,
      ⟨_, rfl, fun _ => ⟨rfl, rfl⟩⟩, ⟨_, rfl, fun _ => ⟨rfl, rfl⟩⟩, ⟨_, rfl, ?_⟩, trivial⟩
    · exact fun hset => absurd hset (by decide)
    · exact fun hset => absurd hset (by decide)
  · intro place
    rcases place with _ | _ | _ | _ | place <;> rfl
  · refine ⟨fun hcalls => absurd ?_ hcalls, fun _ _ _ => ?_, fun _ _ hfirst => ?_, trivial,
      trivial, trivial, trivial, trivial, trivial⟩
    · decide
    · decide
    · refine absurd ⟨1, List.mem_cons_self, _, rfl, ?_⟩ hfirst
      exact ⟨0x10001000, by decide, by decide, by decide⟩

/-- A page that can be read, and one that can also be executed. -/
def twoPages : Text := "10000000-10001000 r--p 0\n10001000-10002000 r-xp 0".toList

theorem describes_twoPages :
    Describes 4096#64 twoPages (pagesOf 4096 (mappedRegions twoPages)) := fun address =>
  getPageProt_eq_pagesOf (by decide) (by decide) address

/-- Both pages made writable. -/
def bothRun : List ProtectorEvent :=
  [.construct 0 twoPages 0x10000000#64 0x2000#64 (Protection.read ||| Protection.write),
    .destroy 0]

/-- The second page of a region gets the protection of the first one. -/
theorem run_mixes_protections :
    (setPages 4096).SetsPages (4096#64).toNat ∧
    Steps (protectorStep 4096#64 (setPages 4096)) (Nested 4096#64 (setPages 4096))
      ⟨pagesOf 4096 (mappedRegions twoPages), fun _ => none, []⟩ bothRun ∧
    (∀ place, (after (protectorStep 4096#64 (setPages 4096))
      ⟨pagesOf 4096 (mappedRegions twoPages), fun _ => none, []⟩ bothRun).objects place = none) ∧
    (after (protectorStep 4096#64 (setPages 4096))
      ⟨pagesOf 4096 (mappedRegions twoPages), fun _ => none, []⟩ bothRun).pages 0x10001 = some 1 ∧
    pagesOf 4096 (mappedRegions twoPages) 0x10001 = some 5 := by
  refine ⟨setPages_setsPages (by decide), ⟨⟨rfl, describes_twoPages, fun _ => rfl⟩,
    ⟨_, rfl, fun _ => ⟨rfl, rfl⟩⟩, trivial⟩, ?_, by decide, by decide⟩
  intro place
  rcases place with _ | place <;> rfl

/-! ### Calls that fail -/

/-- A page of a range that does not wrap around such that it and the pages of the range before it
are mapped. -/
def MappedPrefix (pageSize start len : Nat) (pages : PageMap) (page : Nat) : Prop :=
  start + len < 2 ^ 64 ∧ Meets pageSize page start len ∧
    ∀ q ≤ page, Meets pageSize q start len → pages q ≠ none

open Classical in
/-- `mprotect` with an aligned start goes through the pages of the range in ascending order
and fails at the first one that is not mapped; the pages before it stay changed.  It refuses a
range that wraps around, and nothing else makes it fail. -/
structure Mprotect.Ascending (mprotect : Mprotect) (pageSize : Nat) : Prop where
  result : ∀ {start len prot pages}, pageSize ∣ start.toNat →
    ((mprotect start len prot pages).1 = 0 ↔ start.toNat + len.toNat < 2 ^ 64 ∧
      ∀ page, Meets pageSize page start.toNat len.toNat → pages page ≠ none)
  effect : ∀ {start len prot pages}, pageSize ∣ start.toNat → ∀ page,
    (mprotect start len prot pages).2 page
      = if MappedPrefix pageSize start.toNat len.toNat pages page then some prot else pages page

section

variable {k : Nat} {pageSize : BitVec 64} {mprotect : Mprotect} {maps : Text} {pages : PageMap}

open Classical in
/-- **What a constructor that fails leaves behind.**  If the object does not hold a
protection, then after its destruction the pages of the call before the first one that is
not mapped have the requested protection, if its range does not wrap around, and all others have
what they had before. -/
theorem failed_lifetime (hk : k < 64) (hps : pageSize.toNat = 2 ^ k)
    (hmp : mprotect.Ascending pageSize.toNat) (hmaps : Describes pageSize maps pages)
    (address size : BitVec 64) (flags : Protection)
    (hset : (MemoryProtector.construct pageSize maps mprotect address size flags pages).1.set
      = false) (page : Nat) :
    (MemoryProtector.construct pageSize maps mprotect address size flags pages).1.destroy pageSize
        mprotect (MemoryProtector.construct pageSize maps mprotect address size flags pages).2 page
      = if MappedPrefix pageSize.toNat (fastAlignDown address pageSize).toNat
          (fastAlignUp size pageSize).toNat pages page then some (toSystemProt flags)
        else pages page := by
  rw [MemoryProtector.destroy, hset, if_neg (by simp)]
  cases hold : getPageProt maps address with
  | none =>
    -- the page of the address is the first one of the range
    rw [construct_of_none hold, if_neg]
    intro hreach
    obtain ⟨_, hmeets, hmapped⟩ := hreach
    have hrange := (meets_call_iff hk hps address size page).mp hmeets
    refine hmapped (address.toNat / 2 ^ k) hrange.1 ?_ ?_
    · rw [meets_call_iff hk hps]
      omega
    · rw [← hps, ← hmaps address, hold]
  | some oldProt =>
    rw [construct_of_some hold]
    exact hmp.effect (dvd_fastAlignDown hk hps address) page

end

/-- An `mprotect` that stops at the first page that is not mapped. -/
def ascendingMprotect (n : Nat) : Mprotect := fun start len prot pages =>
  let first := start.toNat / n
  let last := (start.toNat + len.toNat - 1) / n
  (if 2 ^ 64 ≤ start.toNat + len.toNat ∨
      0 < len.toNat ∧ ∃ i < last + 1 - first, pages (first + i) = none then -1 else 0,
    fun page =>
      if start.toNat + len.toNat < 2 ^ 64 ∧ 0 < len.toNat ∧ first ≤ page ∧ page ≤ last ∧
          ∀ i < page + 1 - first, pages (first + i) ≠ none then some prot
      else pages page)

/-- The pages of a range up to one of them, counted from the first. -/
theorem forall_meets_iff {n a len page : Nat} (hn : 0 < n) (hlen : 0 < len)
    (hlast : page ≤ (a + len - 1) / n) (P : Nat → Prop) :
    (∀ q ≤ page, Meets n q a len → P q) ↔ ∀ i < page + 1 - a / n, P (a / n + i) := by
  constructor
  · intro h i hi
    refine h (a / n + i) (by omega) ((meets_iff hn).mpr ?_)
    omega
  · intro h q hq hmeets
    obtain ⟨_, hlo, _⟩ := (meets_iff hn).mp hmeets
    have hi := h (q - a / n) (by omega)
    rwa [Nat.add_sub_cancel' hlo] at hi

theorem ascendingMprotect_ascending {n : Nat} (hn : 0 < n) : (ascendingMprotect n).Ascending n where
  result := by
    intro start len prot pages _
    by_cases hlen : 0 < len.toNat
    · have hall := forall_meets_iff hn hlen le_rfl (a := start.toNat) (pages · ≠ none)
      have hbound : (∀ page, Meets n page start.toNat len.toNat → pages page ≠ none) ↔
          ∀ q ≤ (start.toNat + len.toNat - 1) / n, Meets n q start.toNat len.toNat →
            pages q ≠ none :=
        ⟨fun h q _ => h q, fun h q hq => h q ((meets_iff hn).mp hq).2.2 hq⟩
      rw [hbound, hall, ascendingMprotect]
      simp [hlen]
    · rw [ascendingMprotect]
      simp [hlen, meets_iff hn]
  effect := by
    intro start len prot pages _ page
    have hreach : MappedPrefix n start.toNat len.toNat pages page ↔
        start.toNat + len.toNat < 2 ^ 64 ∧ 0 < len.toNat ∧ start.toNat / n ≤ page ∧
          page ≤ (start.toNat + len.toNat - 1) / n ∧
          ∀ i < page + 1 - start.toNat / n, pages (start.toNat / n + i) ≠ none := by
      rw [MappedPrefix, meets_iff hn, and_assoc, and_assoc]
      refine and_congr_right fun _ => and_congr_right fun hlen => and_congr_right fun _ =>
        and_congr_right fun hlast => ?_
      exact forall_meets_iff hn hlen hlast (pages · ≠ none)
    simp only [hreach, ascendingMprotect]

theorem describes_onePage :
    Describes 4096#64 onePage (pagesOf 4096 (mappedRegions onePage)) := fun address =>
  getPageProt_eq_pagesOf (by decide) (by decide) address

theorem failed_lifetime_sample :
    (MemoryProtector.construct 4096#64 onePage (ascendingMprotect 4096) 0x10000000#64 0x2000#64
        Protection.write (pagesOf 4096 (mappedRegions onePage))).1.destroy 4096#64
        (ascendingMprotect 4096)
        (MemoryProtector.construct 4096#64 onePage (ascendingMprotect 4096) 0x10000000#64 0x2000#64
          Protection.write (pagesOf 4096 (mappedRegions onePage))).2 0x10001
      = none := by
  refine (failed_lifetime (k := 12) (by decide) (by decide)
    (ascendingMprotect_ascending (n := 4096) (by decide)) describes_onePage 0x10000000#64 0x2000#64
    Protection.write (by decide) 0x10001).trans ?_
  rw [if_neg]
  · decide
  · intro hreach
    refine absurd (hreach.2.2 0x10001 le_rfl ?_) (by decide)
    exact ⟨0x10001000, by decide, by decide, by decide⟩

/-- The first page of a region whose second page is not mapped stays changed. -/
theorem failed_construct_changes_page :
    (ascendingMprotect 4096).Ascending (4096#64).toNat ∧
    Describes 4096#64 onePage (pagesOf 4096 (mappedRegions onePage)) ∧
    (MemoryProtector.construct 4096#64 onePage (ascendingMprotect 4096) 0x10000000#64 0x2000#64
      Protection.write (pagesOf 4096 (mappedRegions onePage))).1.set = false ∧
    (MemoryProtector.construct 4096#64 onePage (ascendingMprotect 4096) 0x10000000#64 0x2000#64
        Protection.write (pagesOf 4096 (mappedRegions onePage))).1.destroy 4096#64
        (ascendingMprotect 4096)
        (MemoryProtector.construct 4096#64 onePage (ascendingMprotect 4096) 0x10000000#64 0x2000#64
          Protection.write (pagesOf 4096 (mappedRegions onePage))).2 0x10000
      = some 2 ∧
    pagesOf 4096 (mappedRegions onePage) 0x10000 = some 1 :=
  ⟨ascendingMprotect_ascending (by decide), describes_onePage, by decide, by decide, by decide⟩

end Libhat.Linux

import Libhat.Lib.Guards
import Libhat.Lib.Refinement
import Libhat.Linux.ProtectorLifetime

/-!
# Runs of memory protectors

The destructor and the move constructor of `memory_protector` are the same on every operating
system; the constructor and `restore` are not.  A `ProtectorSystem` is what an operating system
has of its own, and is `Lawful` when a call changes the protection of all pages of a region or,
if it fails, of no page.

* `ProtectorSystem.Lawful.restores_iff`: in a well-nested run a page has its first protection
  whenever no protector has it, if and only if every protector that is the first to have it finds
  it at the protection of the page of its address.
-/

namespace Libhat

open Linux (MemoryProtector PageMap Protection ProtectorState)
open Runs

/-- The part of `memory_protector` that an operating system has of its own: the constructor,
`restore` with whether its call succeeds, and `to_system_prot`. -/
structure ProtectorSystem where
  construct : BitVec 64 → BitVec 64 → Protection → PageMap → MemoryProtector × PageMap
  restore : MemoryProtector → PageMap → Bool × PageMap
  toSystemProt : Protection → BitVec 32

/-- What can happen to memory protectors, by their places. -/
inductive ProtectorCall where
  | construct (place : Nat) (address size : BitVec 64) (flags : Protection)
  | move (source target : Nat)
  | destroy (place : Nat)

namespace ProtectorSystem

/-- `~memory_protector`. -/
def destroy (sys : ProtectorSystem) (o : MemoryProtector) (pages : PageMap) : PageMap :=
  if o.set then (sys.restore o pages).2 else pages

/-- One call. -/
def step (sys : ProtectorSystem) (s : ProtectorState) : ProtectorCall → ProtectorState
  | .construct place address size flags =>
    let (o, pages) := sys.construct address size flags s.pages
    { pages
      objects := Function.update s.objects place (some o)
      holding := if o.set then place :: s.holding else s.holding }
  | .move source target =>
    match s.objects source with
    | none => s
    | some o =>
      { s with
        objects := Function.update (Function.update s.objects source (some o.move.2)) target
          (some o.move.1)
        holding := s.holding.map fun place => if place = source then target else place }
  | .destroy place =>
    match s.objects place with
    | none => s
    | some o =>
      { pages := sys.destroy o s.pages
        objects := Function.update s.objects place none
        holding := s.holding.erase place }

/-- **Well-nested calls.**  An object that holds a protection is destroyed when it is the latest
one that does, and its call of `restore` succeeds. -/
def Nested (sys : ProtectorSystem) (s : ProtectorState) : ProtectorCall → Prop
  | .construct place _ _ _ => s.objects place = none
  | .move source target => (∃ o, s.objects source = some o) ∧ s.objects target = none
  | .destroy place => ∃ o, s.objects place = some o ∧
      (o.set = true → s.holding.head? = some place ∧ (sys.restore o s.pages).1 = true)

/-- What the calls of the system do; `reaches` are the pages of a call for a region. -/
structure Lawful (sys : ProtectorSystem) (pageSize : Nat)
    (reaches : BitVec 64 → BitVec 64 → Set Nat) : Prop where
  region : ∀ {address size flags pages},
    (sys.construct address size flags pages).1.address = address ∧
    (sys.construct address size flags pages).1.size = size
  fails : ∀ {address size flags pages}, (sys.construct address size flags pages).1.set = false →
    (sys.construct address size flags pages).2 = pages
  succeeds : ∀ {address size flags pages}, (sys.construct address size flags pages).1.set = true →
    (sys.construct address size flags pages).2
      = Guards.write pages (reaches address size) (some (sys.toSystemProt flags))
  saves : ∀ {address size flags pages}, (sys.construct address size flags pages).1.set = true →
    ∀ page ∈ reaches address size, pages (address.toNat / pageSize)
      = some (sys.construct address size flags pages).1.oldProtection
  restores : ∀ {o pages}, (sys.restore o pages).1 = true → (sys.restore o pages).2
    = Guards.write pages (reaches o.address o.size) (some o.oldProtection)

/-- No object that holds a protection has the page. -/
def Unreached (reaches : BitVec 64 → BitVec 64 → Set Nat) (page : Nat) (s : ProtectorState) :
    Prop :=
  ∀ place ∈ s.holding, ∀ o, s.objects place = some o → page ∉ reaches o.address o.size

/-- A protector that is the first to have the page finds it at the protection of the page of its
address. -/
def FindsSaved (sys : ProtectorSystem) (pageSize : Nat) (reaches : BitVec 64 → BitVec 64 → Set Nat)
    (page : Nat) (s : ProtectorState) : ProtectorCall → Prop
  | .construct _ address size flags =>
    (sys.construct address size flags s.pages).1.set = true → page ∈ reaches address size →
      Unreached reaches page s → s.pages page = s.pages (address.toNat / pageSize)
  | _ => True

/-! ### Protectors are guards -/

/-- The guard that an object is. -/
def guardOf (reaches : BitVec 64 → BitVec 64 → Set Nat) (o : MemoryProtector) :
    Guards.Guard Nat (Option (BitVec 32)) :=
  ⟨reaches o.address o.size, some o.oldProtection⟩

/-- The guards of the objects that hold a protection. -/
def view (reaches : BitVec 64 → BitVec 64 → Set Nat) (s : ProtectorState) :
    Guards.State Nat (Option (BitVec 32)) :=
  ⟨s.pages, s.holding.filterMap fun place => (s.objects place).map (guardOf reaches)⟩

/-- What a call amounts to. -/
def points (sys : ProtectorSystem) (reaches : BitVec 64 → BitVec 64 → Set Nat)
    (s : ProtectorState) : ProtectorCall → List (Guards.Event Nat (Option (BitVec 32)))
  | .construct _ address size flags =>
    let o := (sys.construct address size flags s.pages).1
    if o.set then
      [.push (reaches address size) (some (sys.toSystemProt flags)) (some o.oldProtection)]
    else []
  | .move _ _ => []
  | .destroy place =>
    match s.objects place with
    | none => []
    | some o => if o.set then [.pop] else []

/-- The places in `holding` are those of the objects that hold a protection. -/
structure Held (s : ProtectorState) : Prop where
  nodup : s.holding.Nodup
  holding_iff : ∀ place, place ∈ s.holding ↔ ∃ o, s.objects place = some o ∧ o.set = true

section

variable {sys : ProtectorSystem} {pageSize : Nat} {reaches : BitVec 64 → BitVec 64 → Set Nat}
  {s : ProtectorState} {page : Nat}

theorem Held.notMem (h : Held s) {place : Nat} (hnone : s.objects place = none) :
    place ∉ s.holding := by
  intro hmem
  obtain ⟨o, ho, _⟩ := (h.holding_iff place).mp hmem
  rw [hnone] at ho
  exact absurd ho (by simp)

/-- Changing the object at a place that holds nothing, before and after. -/
theorem Held.update (h : Held s) {place : Nat} {o : Option MemoryProtector} {pages : PageMap}
    (hplace : place ∉ s.holding) (ho : ∀ o', o = some o' → o'.set = false) :
    Held { pages, objects := Function.update s.objects place o, holding := s.holding } where
  nodup := h.nodup
  holding_iff q := by
    by_cases hq : q = place
    · subst hq
      refine iff_of_false hplace ?_
      rintro ⟨o', ho', hset⟩
      have hself : o = some o' := by rwa [← Function.update_self q o s.objects]
      rw [ho o' hself] at hset
      exact absurd hset (by simp)
    · simp only [Function.update_of_ne hq]
      exact h.holding_iff q

/-- The guards do not depend on an object at another place. -/
theorem view_stack_congr {objects objects' : Nat → Option MemoryProtector} {places : List Nat}
    (h : ∀ place ∈ places, objects' place = objects place) :
    (places.filterMap fun place => (objects' place).map (guardOf reaches))
      = places.filterMap fun place => (objects place).map (guardOf reaches) :=
  List.filterMap_congr fun place hplace => by rw [h place hplace]

theorem update_other {objects : Nat → Option MemoryProtector} {places : List Nat} {place : Nat}
    (h : place ∉ places) (o : Option MemoryProtector) :
    ∀ q ∈ places, Function.update objects place o q = objects q := by
  intro q hq
  refine Function.update_of_ne ?_ _ _
  rintro rfl
  exact h hq

theorem unreached_iff : Unreached reaches page s ↔ Guards.Quiet page (view reaches s).stack := by
  constructor
  · intro h guard hguard
    obtain ⟨place, hplace, hmap⟩ := List.mem_filterMap.mp hguard
    obtain ⟨o, ho, rfl⟩ := Option.map_eq_some_iff.mp hmap
    exact h place hplace o ho
  · intro h place hplace o ho
    refine h (guardOf reaches o) (List.mem_filterMap.mpr ⟨place, hplace, ?_⟩)
    rw [ho]
    rfl

theorem points_length_le (sys : ProtectorSystem) (reaches : BitVec 64 → BitVec 64 → Set Nat)
    (s : ProtectorState) (call : ProtectorCall) : (sys.points reaches s call).length ≤ 1 := by
  cases call with
  | construct place address size flags =>
    simp only [points]
    split_ifs <;> simp
  | move source target => simp [points]
  | destroy place =>
    simp only [points]
    cases s.objects place with
    | none => simp
    | some o =>
      dsimp only
      split_ifs <;> simp

/-- **A constructor** opens a guard, or does nothing. -/
theorem construct_step (hsys : sys.Lawful pageSize reaches) (h : Held s) {place : Nat}
    {address size : BitVec 64} {flags : Protection}
    (hnested : sys.Nested s (.construct place address size flags)) :
    Held (sys.step s (.construct place address size flags)) ∧
      view reaches (sys.step s (.construct place address size flags))
        = after Guards.step (view reaches s)
            (sys.points reaches s (.construct place address size flags)) := by
  have hplace := h.notMem hnested
  simp only [step, points, view]
  cases hset : (sys.construct address size flags s.pages).1.set with
  | false =>
    simp only [Bool.false_eq_true, if_false]
    refine ⟨h.update hplace fun o ho => ?_, ?_⟩
    · rwa [← Option.some.inj ho]
    · rw [view_stack_congr (update_other hplace _), hsys.fails hset]
      rfl
  | true =>
    simp only [if_true]
    refine ⟨⟨List.nodup_cons.mpr ⟨hplace, h.nodup⟩, fun q => ?_⟩, ?_⟩
    · by_cases hq : q = place
      · subst hq
        simp [hset]
      · simp only [List.mem_cons, Function.update_of_ne hq, ← h.holding_iff q]
        exact or_iff_right hq
    · rw [List.filterMap_cons, Function.update_self, view_stack_congr (update_other hplace _),
        hsys.succeeds hset]
      simp only [Option.map_some, guardOf, hsys.region.1, hsys.region.2]
      rfl

/-- **A move** changes no guard. -/
theorem move_step (h : Held s) {source target : Nat}
    (hnested : sys.Nested s (.move source target)) :
    Held (sys.step s (.move source target)) ∧
      view reaches (sys.step s (.move source target)) = view reaches s := by
  obtain ⟨⟨o, hsource⟩, htarget⟩ := hnested
  have hfree := h.notMem htarget
  have hts : target ≠ source := by
    rintro rfl
    rw [htarget] at hsource
    exact absurd hsource (by simp)
  simp only [step, hsource, view]
  refine ⟨⟨Linux.nodup_rename h.nodup hfree, fun q => Linux.mem_rename.trans ?_⟩, ?_⟩
  · by_cases hqt : q = target
    · subst hqt
      simp [h.holding_iff, hsource, htarget, MemoryProtector.move]
    · by_cases hqs : q = source
      · subst hqs
        simp [MemoryProtector.move, hqt]
      · simp [← h.holding_iff q, hqt, hqs]
  · congr 1
    rw [List.filterMap_map]
    refine List.filterMap_congr fun q hq => ?_
    have hqt : q ≠ target := fun heq => hfree (heq ▸ hq)
    by_cases hqs : q = source
    · simp [Function.comp, hqs, hsource, MemoryProtector.move]
    · simp [Function.comp, hqs, hqt]

/-- **A destructor** closes the latest guard, or does nothing. -/
theorem destroy_step (hsys : sys.Lawful pageSize reaches) (h : Held s) {place : Nat}
    (hnested : sys.Nested s (.destroy place)) :
    Held (sys.step s (.destroy place)) ∧
      view reaches (sys.step s (.destroy place))
        = after Guards.step (view reaches s) (sys.points reaches s (.destroy place)) := by
  obtain ⟨o, ho, hlast⟩ := hnested
  simp only [step, points, view, ho, destroy]
  cases hset : o.set with
  | false =>
    have hplace : place ∉ s.holding := by
      intro hmem
      obtain ⟨o', ho', hset'⟩ := (h.holding_iff place).mp hmem
      rw [ho] at ho'
      rw [← Option.some.inj ho', hset] at hset'
      exact absurd hset' (by simp)
    rw [List.erase_of_not_mem hplace]
    simp only [Bool.false_eq_true, if_false]
    refine ⟨h.update hplace (by simp), ?_⟩
    rw [view_stack_congr (update_other hplace none)]
    rfl
  | true =>
    obtain ⟨hhead, hcall⟩ := hlast hset
    obtain ⟨rest, hrest⟩ : ∃ rest, s.holding = place :: rest := List.head?_eq_some_iff.mp hhead
    have hnodup := h.nodup
    rw [hrest, List.nodup_cons] at hnodup
    rw [hrest, List.erase_cons_head]
    simp only [if_true]
    refine ⟨⟨hnodup.2, fun q => ?_⟩, ?_⟩
    · by_cases hq : q = place
      · subst hq
        simp [hnodup.1]
      · simp only [Function.update_of_ne hq, ← h.holding_iff q, hrest, List.mem_cons]
        exact (or_iff_right hq).symm
    · rw [List.filterMap_cons, ho, hsys.restores hcall,
        view_stack_congr (update_other hnodup.1 none)]
      rfl

/-- **One call** amounts to at most one event of the guards. -/
theorem step_view (hsys : sys.Lawful pageSize reaches) (h : Held s) {call : ProtectorCall}
    (hnested : sys.Nested s call) :
    Held (sys.step s call) ∧ view reaches (sys.step s call)
      = after Guards.step (view reaches s) (sys.points reaches s call) := by
  cases call with
  | construct place address size flags => exact construct_step hsys h hnested
  | move source target => exact move_step h hnested
  | destroy place => exact destroy_step hsys h hnested

theorem findsSaved_iff (hsys : sys.Lawful pageSize reaches) {call : ProtectorCall}
    (hnested : sys.Nested s call) :
    sys.FindsSaved pageSize reaches page s call ↔
      ∀ e ∈ sys.points reaches s call, Guards.FindsSaved page (view reaches s) e := by
  cases call with
  | move source target => simp [FindsSaved, points]
  | destroy place =>
    obtain ⟨o, ho, _⟩ := hnested
    simp only [FindsSaved, points, ho]
    split_ifs <;> simp [Guards.FindsSaved]
  | construct place address size flags =>
    simp only [FindsSaved, points]
    cases hset : (sys.construct address size flags s.pages).1.set with
    | false => simp
    | true =>
      simp only [if_true, List.mem_singleton, forall_eq, Guards.FindsSaved, forall_const]
      refine forall_congr' fun hpage => ?_
      rw [unreached_iff, hsys.saves hset page hpage]
      exact imp_congr_right fun _ => eq_comm

/-- **Restoration, exactly.**  A well-nested run begins and ends without objects.  Then a page has
its first protection whenever no object has it, if and only if every protector that is the first
to have it finds it at the protection of the page of its address. -/
theorem Lawful.restores_iff (hsys : sys.Lawful pageSize reaches) (pages : PageMap)
    {run : List ProtectorCall} (hrun : Steps sys.step sys.Nested ⟨pages, fun _ => none, []⟩ run)
    (hend : ∀ place, (after sys.step ⟨pages, fun _ => none, []⟩ run).objects place = none)
    (page : Nat) :
    Always sys.step (fun s => Unreached reaches page s → s.pages page = pages page)
        ⟨pages, fun _ => none, []⟩ run ↔
      Steps sys.step (sys.FindsSaved pageSize reaches page) ⟨pages, fun _ => none, []⟩ run := by
  have hheld : Held ⟨pages, fun _ => none, []⟩ := ⟨List.nodup_nil, by simp⟩
  have hstep := fun s call (h : Held s) (hv : sys.Nested s call) => (step_view hsys h hv).1
  have hview := fun s call (h : Held s) (hv : sys.Nested s call) => (step_view hsys h hv).2
  have hfinal : (after Guards.step (view reaches ⟨pages, fun _ => none, []⟩)
      (trace sys.step (sys.points reaches) ⟨pages, fun _ => none, []⟩ run)).stack = [] := by
    rw [← after_trace hstep hview hheld hrun]
    have hlast := after_of_steps hstep hheld hrun
    refine List.filterMap_eq_nil_iff.mpr fun place _ => ?_
    rw [hend place]
    rfl
  have hspec := Guards.restored_iff (x := page) (v := pages page) rfl hfinal
  rw [steps_trace_iff hstep hview (points_length_le sys reaches)
    (fun s call _ hv => findsSaved_iff hsys hv) hheld hrun, ← hspec,
    ← always_trace_iff hstep hview (points_length_le sys reaches) hheld hrun]
  refine iff_of_eq (congrArg (fun P => Always sys.step P _ run) (funext fun s => ?_))
  rw [unreached_iff]
  rfl

end

end ProtectorSystem

end Libhat

import Libhat.Lib.Runs
import Mathlib.Data.List.Count
import Mathlib.Data.List.Perm.Basic
import Mathlib.Logic.Function.Basic

/-!
# Counted references that are held through shared values

A resource has a number of references.  Values hold at most one reference each, and are
shared by owners, which are made and dropped one by one; the last owner of a value gives its
reference back.  Others take and give back references too.

* `Sound.step`: a step keeps every count at what it was at first, one more for each living
  value that holds a reference and for each one that others hold.
* `always_accounted`: so the resource behind an owner is never given up, and after the last
  owner nothing is left of what the owners did.
* `always_values`: what holds of every value that a search makes holds of all living values.
-/

namespace RefCount

open Runs

variable {κ ν α : Type} [DecidableEq κ]

/-- One reference more. -/
def acquire (counts : κ → Nat) (k : κ) : κ → Nat := Function.update counts k (counts k + 1)

/-- One reference less. -/
def release (counts : κ → Nat) (k : κ) : κ → Nat := Function.update counts k (counts k - 1)

/-- The reference of a value, if it holds one, is taken. -/
def acquireSome (counts : κ → Nat) : Option κ → κ → Nat
  | none => counts
  | some k => acquire counts k

/-- The reference of a value, if it holds one, is given back. -/
def releaseSome (counts : κ → Nat) : Option κ → κ → Nat
  | none => counts
  | some k => release counts k

theorem acquire_apply (counts : κ → Nat) (k q : κ) :
    acquire counts k q = counts q + if q = k then 1 else 0 := by
  by_cases h : q = k
  · subst h
    rw [acquire, Function.update_self, if_pos rfl]
  · rw [acquire, Function.update_of_ne h, if_neg h, Nat.add_zero]

/-- What is taken was there, or is now. -/
theorem acquire_ne_zero_iff {counts : κ → Nat} {k : κ} (h : counts k ≠ 0) (q : κ) :
    acquire counts k q ≠ 0 ↔ counts q ≠ 0 := by
  rw [acquire_apply]
  by_cases hq : q = k
  · rw [hq]
    exact iff_of_true (by omega) h
  · rw [if_neg hq, Nat.add_zero]

theorem release_apply (counts : κ → Nat) (k q : κ) :
    release counts k q = counts q - if q = k then 1 else 0 := by
  by_cases h : q = k
  · subst h
    rw [release, Function.update_self, if_pos rfl]
  · rw [release, Function.update_of_ne h, if_neg h, Nat.sub_zero]

/-- **What is taken and given back at once** leaves the counts as they are. -/
theorem release_acquire (counts : κ → Nat) (k : κ) : release (acquire counts k) k = counts := by
  funext q
  rw [release_apply, acquire_apply, Nat.add_sub_cancel]

/-- The counts are those at the beginning, and one for each reference that is held. -/
def Balanced (base counts : κ → Nat) (held : List κ) : Prop :=
  ∀ k, counts k = base k + held.count k

section

variable {base counts : κ → Nat} {held held' : List κ} {k : κ}

theorem Balanced.perm (h : Balanced base counts held) (hp : held.Perm held') :
    Balanced base counts held' := by
  intro q
  rw [h q, hp.count_eq]

theorem Balanced.acquire (h : Balanced base counts held) (k : κ) :
    Balanced base (acquire counts k) (k :: held) := by
  intro q
  rw [acquire_apply, h q, List.count_cons, Nat.add_assoc]
  simp only [beq_iff_eq, eq_comm (a := q)]

theorem Balanced.release (h : Balanced base counts (k :: held)) :
    Balanced base (release counts k) held := by
  intro q
  rw [release_apply, h q, List.count_cons]
  by_cases hq : q = k
  · subst hq
    rw [if_pos (beq_self_eq_true q), if_pos rfl]
    omega
  · rw [if_neg (by simpa using Ne.symm hq), if_neg hq]
    rfl

theorem Balanced.acquireSome (h : Balanced base counts held) (o : Option κ) :
    Balanced base (acquireSome counts o) (o.toList ++ held) := by
  cases o with
  | none => exact h
  | some k => exact h.acquire k

theorem Balanced.releaseSome {o : Option κ} (h : Balanced base counts (o.toList ++ held)) :
    Balanced base (releaseSome counts o) held := by
  cases o with
  | none => exact h
  | some k => exact Balanced.release h

end

/-! ### Shared values -/

/-- The counts, the living values by their numbers, the number of the value behind each
owner, and the references of others. -/
structure Shared (κ ν : Type) where
  counts : κ → Nat
  values : List (Nat × ν)
  next : Nat
  owners : List Nat
  others : List κ

/-- What can happen to shared values: a search may make a value with its first owner. -/
inductive Event (κ α : Type) where
  | find (a : α)
  | copy (owner : Nat)
  | drop (owner : Nat)
  | acquire (k : κ)
  | release (k : κ)

/-- A search: the value that it makes, if any, and the counts after it. -/
abbrev Search (κ ν α : Type) := α → (κ → Nat) → Option ν × (κ → Nat)

/-- **A lawful search** takes the reference of the value that it makes, and no other one. -/
def Search.Lawful (search : Search κ ν α) (reference : ν → Option κ) : Prop :=
  ∀ a counts, (search a counts).2 = acquireSome counts ((search a counts).1.bind reference)

namespace Shared

/-- The references that living values hold. -/
def held (reference : ν → Option κ) (s : Shared κ ν) : List κ :=
  s.values.flatMap fun p => (reference p.2).toList

/-- A new value, with one owner. -/
def create (s : Shared κ ν) (counts : κ → Nat) (v : ν) : Shared κ ν :=
  { s with
    counts
    values := (s.next, v) :: s.values
    next := s.next + 1
    owners := s.owners ++ [s.next] }

/-- The value with this number is destroyed. -/
def destroy (reference : ν → Option κ) (s : Shared κ ν) (i : Nat) : Shared κ ν :=
  match s.values.find? (·.1 = i) with
  | none => s
  | some p =>
    { s with
      counts := releaseSome s.counts (reference p.2)
      values := s.values.eraseP (·.1 = i) }

/-- One event.  An owner that there is not, and a reference that others do not have, name
nothing. -/
def step (search : Search κ ν α) (reference : ν → Option κ) (s : Shared κ ν) :
    Event κ α → Shared κ ν
  | .find a =>
    match search a s.counts with
    | (none, counts) => { s with counts }
    | (some v, counts) => s.create counts v
  | .copy owner =>
    match s.owners[owner]? with
    | none => s
    | some i => { s with owners := s.owners ++ [i] }
  | .drop owner =>
    match s.owners[owner]? with
    | none => s
    | some i =>
      let s := { s with owners := s.owners.eraseIdx owner }
      -- the last owner destroys the value
      if i ∈ s.owners then s else s.destroy reference i
  | .acquire k => { s with counts := RefCount.acquire s.counts k, others := k :: s.others }
  | .release k =>
    if k ∈ s.others then
      { s with counts := RefCount.release s.counts k, others := s.others.erase k }
    else s

/-- Nothing is owned yet. -/
def start (counts : κ → Nat) : Shared κ ν := ⟨counts, [], 0, [], []⟩

/-- What holds of every state of a run that began with the counts `base`. -/
structure Sound (base : κ → Nat) (reference : ν → Option κ) (s : Shared κ ν) : Prop where
  balanced : Balanced base s.counts (s.held reference ++ s.others)
  /-- the numbers of the living values are those that owners have -/
  owned_iff : ∀ i, i ∈ s.values.map Prod.fst ↔ i ∈ s.owners
  nodup : (s.values.map Prod.fst).Nodup
  lt_next : ∀ i ∈ s.owners, i < s.next

theorem sound_start (counts : κ → Nat) (reference : ν → Option κ) :
    (start counts : Shared κ ν).Sound counts reference where
  balanced _ := rfl
  owned_iff _ := Iff.rfl
  nodup := List.nodup_nil
  lt_next _ h := absurd h List.not_mem_nil

variable {base : κ → Nat} {reference : ν → Option κ} {search : Search κ ν α} {s : Shared κ ν}

theorem Sound.create (h : s.Sound base reference) (v : ν) :
    (s.create (acquireSome s.counts (reference v)) v).Sound base reference where
  balanced := by
    show Balanced base (acquireSome s.counts (reference v))
      (((reference v).toList ++ s.held reference) ++ s.others)
    rw [List.append_assoc]
    exact h.balanced.acquireSome (reference v)
  owned_iff i := by
    show i ∈ s.next :: s.values.map Prod.fst ↔ i ∈ s.owners ++ [s.next]
    rw [List.mem_cons, List.mem_append, List.mem_singleton, h.owned_iff, or_comm]
  nodup := by
    show (s.next :: s.values.map Prod.fst).Nodup
    refine List.nodup_cons.mpr ⟨fun hmem => ?_, h.nodup⟩
    exact Nat.lt_irrefl _ (h.lt_next _ ((h.owned_iff _).mp hmem))
  lt_next i hi := by
    have hi' : i ∈ s.owners ++ [s.next] := hi
    show i < s.next + 1
    rcases List.mem_append.mp hi' with hold | hnew
    · exact Nat.lt_succ_of_lt (h.lt_next i hold)
    · rw [List.mem_singleton.mp hnew]
      exact Nat.lt_succ_self _

/-- One owner, and the others. -/
theorem perm_eraseIdx {owners : List Nat} {owner i : Nat} (h : owners[owner]? = some i) :
    owners.Perm (i :: owners.eraseIdx owner) := by
  obtain ⟨hlt, rfl⟩ := List.getElem?_eq_some_iff.mp h
  exact (List.getElem_cons_eraseIdx_perm hlt).symm

/-- One value, and the others. -/
theorem perm_eraseP {values : List (Nat × ν)} {p : Nat × ν} {i : Nat}
    (hfind : values.find? (·.1 = i) = some p) :
    values.Perm (p :: values.eraseP (·.1 = i)) := by
  induction values with
  | nil => exact absurd hfind (by simp)
  | cons q rest ih =>
    by_cases hq : q.1 = i
    · rw [List.find?_cons_of_pos (by simpa using hq)] at hfind
      rw [List.eraseP_cons_of_pos (by simpa using hq), Option.some.inj hfind]
    · rw [List.find?_cons_of_neg (by simpa using hq)] at hfind
      rw [List.eraseP_cons_of_neg (by simpa using hq)]
      exact ((ih hfind).cons q).trans (List.Perm.swap _ _ _)

/-- **The last owner** of a value gives its reference back. -/
theorem Sound.destroy (h : s.Sound base reference) {owners : List Nat} {i : Nat}
    (howners : ∀ j, j ∈ owners ↔ j ∈ s.owners ∧ j ≠ i) (hi : i ∈ s.owners) :
    ({ s with owners } : Shared κ ν).destroy reference i |>.Sound base reference := by
  obtain ⟨p, hfind⟩ : ∃ p, s.values.find? (·.1 = i) = some p := by
    obtain ⟨p, hp, hpi⟩ := List.mem_map.mp ((h.owned_iff i).mpr hi)
    rw [← Option.isSome_iff_exists, List.find?_isSome]
    exact ⟨p, hp, by simpa using hpi⟩
  have hpi : p.1 = i := by simpa using List.find?_some hfind
  have hperm := perm_eraseP hfind
  have hnumbers : (s.values.map Prod.fst).Perm (i :: (s.values.eraseP (·.1 = i)).map Prod.fst) := by
    rw [← hpi] at hperm ⊢
    exact hperm.map Prod.fst
  have hnodup := hnumbers.nodup_iff.mp h.nodup
  rw [List.nodup_cons] at hnodup
  rw [Shared.destroy, hfind]
  refine ⟨?_, fun j => ?_, hnodup.2, fun j hj => h.lt_next j ((howners j).mp hj).1⟩
  · refine Balanced.releaseSome (h.balanced.perm ?_)
    rw [← List.append_assoc]
    exact (hperm.flatMap_right _).append_right s.others
  · show j ∈ (s.values.eraseP (·.1 = i)).map Prod.fst ↔ j ∈ owners
    rw [howners, ← h.owned_iff, hnumbers.mem_iff, List.mem_cons]
    constructor
    · intro hj
      exact ⟨Or.inr hj, fun heq => hnodup.1 (heq ▸ hj)⟩
    · intro hj
      exact hj.1.resolve_left hj.2

/-- **One event.** -/
theorem Sound.step (hsearch : search.Lawful reference) (h : s.Sound base reference)
    (e : Event κ α) : (s.step search reference e).Sound base reference := by
  cases e with
  | find a =>
    rw [Shared.step]
    have hcounts := hsearch a s.counts
    rcases hresult : search a s.counts with ⟨result, counts⟩
    rw [hresult] at hcounts
    cases result with
    | none =>
      obtain rfl : counts = s.counts := hcounts
      exact h
    | some v =>
      obtain rfl : counts = acquireSome s.counts (reference v) := hcounts
      exact h.create v
  | copy owner =>
    rw [Shared.step]
    cases howner : s.owners[owner]? with
    | none => exact h
    | some i =>
      have hi : i ∈ s.owners := List.mem_of_getElem? howner
      have hmem : ∀ j, j ∈ s.owners ++ [i] ↔ j ∈ s.owners := by
        intro j
        rw [List.mem_append, List.mem_singleton]
        exact or_iff_left_of_imp fun heq => heq ▸ hi
      exact ⟨h.balanced, fun j => (h.owned_iff j).trans (hmem j).symm, h.nodup,
        fun j hj => h.lt_next j ((hmem j).mp hj)⟩
  | drop owner =>
    rw [Shared.step]
    cases howner : s.owners[owner]? with
    | none => exact h
    | some i =>
      have hi : i ∈ s.owners := List.mem_of_getElem? howner
      have hperm := perm_eraseIdx howner
      dsimp only
      by_cases hlast : i ∈ s.owners.eraseIdx owner
      · have hmem : ∀ j, j ∈ s.owners.eraseIdx owner ↔ j ∈ s.owners := by
          intro j
          rw [hperm.mem_iff, List.mem_cons]
          exact (or_iff_right_of_imp fun heq => heq ▸ hlast).symm
        rw [if_pos hlast]
        exact ⟨h.balanced, fun j => (h.owned_iff j).trans (hmem j).symm, h.nodup,
          fun j hj => h.lt_next j ((hmem j).mp hj)⟩
      · rw [if_neg hlast]
        refine h.destroy (fun j => ?_) hi
        rw [hperm.mem_iff, List.mem_cons]
        constructor
        · intro hj
          exact ⟨Or.inr hj, fun heq => hlast (heq ▸ hj)⟩
        · intro hj
          exact hj.1.resolve_left hj.2
  | acquire k =>
    refine ⟨?_, h.owned_iff, h.nodup, h.lt_next⟩
    exact (h.balanced.acquire k).perm List.perm_middle.symm
  | release k =>
    rw [Shared.step]
    by_cases hk : k ∈ s.others
    · rw [if_pos hk]
      refine ⟨?_, h.owned_iff, h.nodup, h.lt_next⟩
      have hperm : (s.held reference ++ s.others).Perm
          (k :: (s.held reference ++ s.others.erase k)) :=
        ((List.perm_cons_erase hk).append_left _).trans List.perm_middle
      exact Balanced.release (h.balanced.perm hperm)
    · rw [if_neg hk]
      exact h

/-- What the counts say in every state of a run that began with the counts `base`. -/
structure Accounted (base : κ → Nat) (reference : ν → Option κ) (s : Shared κ ν) : Prop where
  /-- there is one reference more for each living value that holds one, and for each of others -/
  counts_eq : ∀ k, s.counts k =
    base k + s.values.countP (fun p => reference p.2 == some k) + s.others.count k
  /-- every owner has a living value, and what that refers to is not given up -/
  living : ∀ i ∈ s.owners, ∃ v, (i, v) ∈ s.values ∧ ∀ k, reference v = some k → s.counts k ≠ 0
  /-- without owners, nothing is left of what they did -/
  released : s.owners = [] → ∀ k, s.counts k = base k + s.others.count k

theorem count_held (k : κ) : ∀ values : List (Nat × ν),
    (values.flatMap fun p => (reference p.2).toList).count k
      = values.countP fun p => reference p.2 == some k := by
  intro values
  induction values with
  | nil => rfl
  | cons p rest ih =>
    rw [List.flatMap_cons, List.count_append, List.countP_cons, ih, Nat.add_comm]
    congr 1
    cases reference p.2 with
    | none => rfl
    | some q => simp [List.count_singleton]

theorem Sound.accounted (h : s.Sound base reference) : s.Accounted base reference := by
  have hcounts : ∀ k, s.counts k =
      base k + s.values.countP (fun p => reference p.2 == some k) + s.others.count k := by
    intro k
    rw [h.balanced k, List.count_append, Nat.add_assoc, held, count_held]
  refine ⟨hcounts, fun i hi => ?_, fun howners k => ?_⟩
  · obtain ⟨p, hp, rfl⟩ := List.mem_map.mp ((h.owned_iff i).mpr hi)
    refine ⟨p.2, hp, fun k hk => ?_⟩
    have hpos : 0 < s.values.countP fun p => reference p.2 == some k :=
      List.countP_pos_iff.mpr ⟨p, hp, by simp [hk]⟩
    have := hcounts k
    omega
  · have hvalues : s.values = [] := by
      apply List.map_eq_nil_iff.mp
      apply List.eq_nil_iff_forall_not_mem.mpr
      intro i hi
      have howned := (h.owned_iff i).mp hi
      rw [howners] at howned
      exact List.not_mem_nil howned
    rw [hcounts k, hvalues]
    rfl

/-- **Whole runs.** -/
theorem always_accounted (hsearch : search.Lawful reference) (counts : κ → Nat)
    (run : List (Event κ α)) :
    Always (step search reference) (Accounted counts reference) (start counts) run :=
  Always.imp (fun _ h => h.accounted)
    (always_of_steps (fun _ e h _ => h.step hsearch e) (sound_start counts reference)
      (steps_true _ run))

/-- **One event** makes no value but those of the search. -/
theorem step_values {P : ν → Prop} (hsearch : ∀ a counts v, (search a counts).1 = some v → P v)
    (h : ∀ p ∈ s.values, P p.2) (e : Event κ α) :
    ∀ p ∈ (s.step search reference e).values, P p.2 := by
  cases e with
  | find a =>
    intro p hp
    rw [Shared.step] at hp
    rcases hresult : search a s.counts with ⟨result, counts⟩
    rw [hresult] at hp
    cases result with
    | none => exact h p hp
    | some v =>
      rcases List.mem_cons.mp hp with rfl | hold
      · exact hsearch a s.counts v (by rw [hresult])
      · exact h p hold
  | copy owner =>
    rw [Shared.step]
    cases s.owners[owner]? <;> exact h
  | drop owner =>
    intro p hp
    rw [Shared.step] at hp
    cases howner : s.owners[owner]? with
    | none =>
      rw [howner] at hp
      exact h p hp
    | some i =>
      rw [howner] at hp
      dsimp only at hp
      by_cases hlast : i ∈ s.owners.eraseIdx owner
      · rw [if_pos hlast] at hp
        exact h p hp
      · rw [if_neg hlast, Shared.destroy] at hp
        cases hfind : s.values.find? (·.1 = i) with
        | none =>
          rw [hfind] at hp
          exact h p hp
        | some q =>
          rw [hfind] at hp
          exact h p (List.mem_of_mem_eraseP hp)
  | acquire k => exact h
  | release k =>
    rw [Shared.step]
    by_cases hk : k ∈ s.others
    · rw [if_pos hk]
      exact h
    · rw [if_neg hk]
      exact h

/-- **What holds of every value that a search makes** holds of all living values. -/
theorem always_values {P : ν → Prop} (hsearch : ∀ a counts v, (search a counts).1 = some v → P v)
    (counts : κ → Nat) (run : List (Event κ α)) :
    Always (step search reference) (fun s => ∀ p ∈ s.values, P p.2) (start counts) run :=
  always_of_steps (fun _ e h _ => step_values hsearch h e) (fun _ h => absurd h List.not_mem_nil)
    (steps_true _ run)

end Shared

end RefCount

import Mathlib.Order.Lattice
import Mathlib.Data.List.Basic

/-!
# Maps in the order of their keys

An ordered map is a list of entries whose keys increase.  `emplace` adds an entry
unless its key is there, so of several entries for a key the first one stays.

* `find_emplace`: what a lookup finds after an `emplace`.
* `find_emplaceAll`: after many, the first entry for the key.
* `mem_entries_iff`: the entries are what lookups find.
* `emplaceAll_emplaceAll_of_prefix`: entries that are added again.
* `find?_entries`: a search through the entries finds the least key.
-/

/-- A finite map, its entries in the order of their keys. -/
structure OrderedMap (κ υ : Type) [LinearOrder κ] where
  entries : List (κ × υ)
  sorted : entries.Pairwise fun p q => p.1 < q.1

namespace OrderedMap

variable {κ υ : Type} [LinearOrder κ]

/-- The entries with one for `k` in its place, if there is none yet. -/
def insertNew (k : κ) (v : υ) : List (κ × υ) → List (κ × υ)
  | [] => [(k, v)]
  | p :: rest =>
    if k < p.1 then (k, v) :: p :: rest
    else if k = p.1 then p :: rest
    else p :: insertNew k v rest

theorem mem_insertNew {k : κ} {v : υ} {p : κ × υ} {l : List (κ × υ)}
    (h : p ∈ insertNew k v l) : p = (k, v) ∨ p ∈ l := by
  induction l with
  | nil => exact Or.inl (List.mem_singleton.mp h)
  | cons q rest ih =>
    rw [insertNew] at h
    split at h
    · exact List.mem_cons.mp h
    · split at h
      · exact Or.inr h
      · rcases List.mem_cons.mp h with heq | hrest
        · exact Or.inr (heq ▸ List.mem_cons_self)
        · rcases ih hrest with hnew | hold
          · exact Or.inl hnew
          · exact Or.inr (List.mem_cons_of_mem q hold)

theorem sorted_insertNew (k : κ) (v : υ) {l : List (κ × υ)}
    (h : l.Pairwise fun p q => p.1 < q.1) :
    (insertNew k v l).Pairwise fun p q => p.1 < q.1 := by
  induction l with
  | nil => exact List.pairwise_singleton _ _
  | cons q rest ih =>
    obtain ⟨hhead, hrest⟩ := List.pairwise_cons.mp h
    rw [insertNew]
    split
    · rename_i hlt
      refine List.pairwise_cons.mpr ⟨fun p hp => ?_, h⟩
      rcases List.mem_cons.mp hp with rfl | hp
      · exact hlt
      · exact hlt.trans (hhead p hp)
    · rename_i hge
      split
      · exact h
      · rename_i hne
        refine List.pairwise_cons.mpr ⟨fun p hp => ?_, ih hrest⟩
        rcases mem_insertNew hp with rfl | hp
        · exact lt_of_le_of_ne (le_of_not_gt hge) (Ne.symm hne)
        · exact hhead p hp

def empty : OrderedMap κ υ := ⟨[], List.Pairwise.nil⟩

def emplace (m : OrderedMap κ υ) (k : κ) (v : υ) : OrderedMap κ υ :=
  ⟨insertNew k v m.entries, sorted_insertNew k v m.sorted⟩

/-- One `emplace` after the other. -/
def emplaceAll (m : OrderedMap κ υ) (l : List (κ × υ)) : OrderedMap κ υ :=
  l.foldl (fun m p => m.emplace p.1 p.2) m

theorem emplaceAll_append (m : OrderedMap κ υ) (l l' : List (κ × υ)) :
    m.emplaceAll (l ++ l') = (m.emplaceAll l).emplaceAll l' := List.foldl_append

/-- The value of the first entry for `k`. -/
def lookup (k : κ) (l : List (κ × υ)) : Option υ := (l.find? fun p => p.1 = k).map Prod.snd

def find (m : OrderedMap κ υ) (k : κ) : Option υ := lookup k m.entries

theorem lookup_cons_self (v : υ) {k : κ} {l : List (κ × υ)} : lookup k ((k, v) :: l) = some v := by
  rw [lookup, List.find?_cons_of_pos (by simp)]
  rfl

theorem lookup_cons_of_ne {p : κ × υ} {k : κ} {l : List (κ × υ)} (h : p.1 ≠ k) :
    lookup k (p :: l) = lookup k l := by
  rw [lookup, List.find?_cons_of_neg (by simpa using h), ← lookup]

theorem lookup_eq_none {k : κ} {l : List (κ × υ)} (h : ∀ p ∈ l, p.1 ≠ k) : lookup k l = none := by
  rw [lookup, List.find?_eq_none.mpr (by simpa using h)]
  rfl

theorem lookup_insertNew (k k' : κ) (v : υ) {l : List (κ × υ)}
    (h : l.Pairwise fun p q => p.1 < q.1) :
    lookup k' (insertNew k v l) =
      if k = k' then some ((lookup k l).getD v) else lookup k' l := by
  induction l with
  | nil =>
    by_cases hk : k = k'
    · rw [if_pos hk, insertNew, ← hk, lookup_cons_self]
      rfl
    · rw [if_neg hk, insertNew, lookup_cons_of_ne hk]
  | cons p rest ih =>
    obtain ⟨hhead, hrest⟩ := List.pairwise_cons.mp h
    rw [insertNew]
    by_cases hlt : k < p.1
    · have hnone : lookup k (p :: rest) = none := by
        apply lookup_eq_none
        intro q hq
        rcases List.mem_cons.mp hq with rfl | hq
        · exact hlt.ne'
        · exact (hlt.trans (hhead q hq)).ne'
      rw [if_pos hlt, hnone]
      by_cases hk : k = k'
      · rw [if_pos hk, ← hk, lookup_cons_self]
        rfl
      · rw [if_neg hk, lookup_cons_of_ne hk]
    · rw [if_neg hlt]
      by_cases heq : k = p.1
      · obtain ⟨k₀, v₀⟩ := p
        have hk₀ : k = k₀ := heq
        subst hk₀
        rw [if_pos rfl]
        by_cases hk : k = k'
        · rw [if_pos hk, ← hk, lookup_cons_self]
          rfl
        · rw [if_neg hk]
      · rw [if_neg heq, lookup_cons_of_ne (Ne.symm heq)]
        by_cases hp : p.1 = k'
        · obtain ⟨k₀, v₀⟩ := p
          have hk₀ : k₀ = k' := hp
          subst hk₀
          rw [if_neg heq, lookup_cons_self, lookup_cons_self]
        · rw [lookup_cons_of_ne hp, lookup_cons_of_ne hp]
          exact ih hrest

/-- **What a lookup finds after an `emplace`**: an entry that was there stays. -/
theorem find_emplace (m : OrderedMap κ υ) (k k' : κ) (v : υ) :
    (m.emplace k v).find k' = if k = k' then some ((m.find k).getD v) else m.find k' :=
  lookup_insertNew k k' v m.sorted

/-- **The first entry for a key stays.** -/
theorem find_emplaceAll (m : OrderedMap κ υ) (l : List (κ × υ)) (k : κ) :
    (m.emplaceAll l).find k = (m.find k).or (lookup k l) := by
  induction l generalizing m with
  | nil =>
    show m.find k = (m.find k).or none
    rw [Option.or_none]
  | cons p l ih =>
    show ((m.emplace p.1 p.2).emplaceAll l).find k = _
    rw [ih, find_emplace]
    by_cases hp : p.1 = k
    · obtain ⟨k₀, v₀⟩ := p
      have hk₀ : k₀ = k := hp
      subst hk₀
      rw [if_pos rfl, lookup_cons_self]
      cases m.find k₀ <;> rfl
    · rw [if_neg hp, lookup_cons_of_ne hp]

/-- **The entries are what lookups find.** -/
theorem mem_entries_iff {m : OrderedMap κ υ} {k : κ} {v : υ} :
    (k, v) ∈ m.entries ↔ m.find k = some v := by
  obtain ⟨l, hsorted⟩ := m
  show (k, v) ∈ l ↔ lookup k l = some v
  induction l with
  | nil => exact ⟨fun h => absurd h List.not_mem_nil, fun h => by cases h⟩
  | cons p rest ih =>
    obtain ⟨hhead, hrest⟩ := List.pairwise_cons.mp hsorted
    rw [List.mem_cons]
    by_cases hp : p.1 = k
    · obtain ⟨k₀, v₀⟩ := p
      have hk₀ : k₀ = k := hp
      subst hk₀
      rw [lookup_cons_self]
      constructor
      · intro h
        rcases h with heq | hmem
        · rw [(Prod.mk.inj heq).2]
        · exact absurd (hhead _ hmem) (lt_irrefl _)
      · intro h
        rw [Option.some.inj h]
        exact Or.inl rfl
    · rw [lookup_cons_of_ne hp, ← ih hrest]
      refine or_iff_right fun heq => hp ?_
      rw [← heq]

theorem insertNew_of_lookup {k : κ} (v : υ) {l : List (κ × υ)}
    (hsorted : l.Pairwise fun p q => p.1 < q.1) (h : (lookup k l).isSome) :
    insertNew k v l = l := by
  induction l with
  | nil => cases h
  | cons p rest ih =>
    obtain ⟨hhead, hrest⟩ := List.pairwise_cons.mp hsorted
    rw [insertNew]
    by_cases hp : k = p.1
    · rw [if_neg (by rw [hp]; exact lt_irrefl _), if_pos hp]
    · rw [lookup_cons_of_ne (Ne.symm hp)] at h
      have hlt : ¬ k < p.1 := by
        intro hlt
        rw [lookup_eq_none fun q hq => (hlt.trans (hhead q hq)).ne'] at h
        cases h
      rw [if_neg hlt, if_neg hp, ih hrest h]

/-- An `emplace` of a key that is there does nothing. -/
theorem emplaceAll_of_find {m : OrderedMap κ υ} {l : List (κ × υ)}
    (h : ∀ p ∈ l, (m.find p.1).isSome) : m.emplaceAll l = m := by
  induction l with
  | nil => rfl
  | cons p l ih =>
    have hsame : m.emplace p.1 p.2 = m := by
      obtain ⟨entries, sorted⟩ := m
      have hentries := insertNew_of_lookup p.2 sorted (h p List.mem_cons_self)
      simp only [emplace, hentries]
    show (m.emplace p.1 p.2).emplaceAll l = m
    rw [hsame]
    exact ih fun q hq => h q (List.mem_cons_of_mem p hq)

theorem find_emplaceAll_of_mem (m : OrderedMap κ υ) {l : List (κ × υ)} {p : κ × υ} (hp : p ∈ l) :
    ((m.emplaceAll l).find p.1).isSome := by
  rw [find_emplaceAll, Option.isSome_or, Bool.or_eq_true]
  refine Or.inr ?_
  rw [lookup, Option.isSome_map, List.find?_isSome]
  exact ⟨p, hp, by simp⟩

/-- **Starting again**: the entries of a part of the list do not matter. -/
theorem emplaceAll_emplaceAll_of_subset (m : OrderedMap κ υ) {l l' : List (κ × υ)} (h : l' ⊆ l) :
    (m.emplaceAll l).emplaceAll l' = m.emplaceAll l :=
  emplaceAll_of_find fun _ hp => find_emplaceAll_of_mem m (h hp)

theorem emplaceAll_emplaceAll_of_prefix (m : OrderedMap κ υ) {l l' : List (κ × υ)} (h : l <+: l') :
    (m.emplaceAll l).emplaceAll l' = m.emplaceAll l' := by
  obtain ⟨rest, rfl⟩ := h
  rw [emplaceAll_append, emplaceAll_emplaceAll_of_subset m (List.Subset.refl l),
    ← emplaceAll_append]

/-- A search through the entries finds the one with the least key. -/
theorem find?_entries {m : OrderedMap κ υ} {P : κ × υ → Bool} {p : κ × υ}
    (h : m.entries.find? P = some p) :
    (p ∈ m.entries ∧ P p = true) ∧ ∀ q ∈ m.entries, P q = true → p.1 ≤ q.1 := by
  obtain ⟨hP, before, behind, hentries, hbefore⟩ := List.find?_eq_some_iff_append.mp h
  refine ⟨⟨List.mem_of_find?_eq_some h, hP⟩, fun q hq hPq => ?_⟩
  have hsorted := m.sorted
  rw [hentries] at hq hsorted
  rcases List.mem_append.mp hq with hq | hq
  · have hnot := hbefore q hq
    rw [hPq] at hnot
    cases hnot
  · rcases List.mem_cons.mp hq with rfl | hq
    · exact le_rfl
    · have hbehind := (List.pairwise_append.mp hsorted).2.1
      exact ((List.pairwise_cons.mp hbehind).1 q hq).le

end OrderedMap

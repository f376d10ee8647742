import Libhat.Lib.Loop
import Mathlib.Order.Bounds.Basic
import Mathlib.Data.List.Sort
import Mathlib.Data.Set.Card

/-!
# The first hit and all hits of a search

A search over an ordered type is specified by the set of its hits.  `IsFirst S r`
says that the optional answer `r` is the least element of `S`, or `none` when
there is none; `Enumerates S l` says that `l` lists `S` in increasing order.

* `IsFirst.orElse`: a search cut into two parts, the first of which lies below
  the second, may try the parts one after the other.
* `run_isFirst`: a loop that only ever drops non-hits finds the first hit.
* `IsFirstBest.insert`: a search for the best hit keeps the one it has until a
  better one comes.
* `Enumerates.above`: without its head, the list has the hits above the first one.
-/

namespace FirstHit

variable {α : Type} [LinearOrder α]

/-- `r` is the least element of `S`, if `S` has an element at all. -/
def IsFirst (S : Set α) : Option α → Prop
  | some p => IsLeast S p
  | none => S = ∅

@[simp] theorem isFirst_some {S : Set α} {p : α} : IsFirst S (some p) ↔ IsLeast S p := Iff.rfl

@[simp] theorem isFirst_none {S : Set α} : IsFirst S none ↔ S = ∅ := Iff.rfl

theorem IsFirst.unique {S : Set α} {r r' : Option α} (h : IsFirst S r) (h' : IsFirst S r') :
    r = r' := by
  cases r with
  | none =>
    cases r' with
    | none => rfl
    | some p => exact absurd h'.1 (by rw [isFirst_none.mp h]; simp)
  | some p =>
    cases r' with
    | none => exact absurd h.1 (by rw [isFirst_none.mp h']; simp)
    | some q => rw [IsLeast.unique (isFirst_some.mp h) h']

theorem IsFirst.eq_none_iff {S : Set α} {r : Option α} (h : IsFirst S r) :
    r = none ↔ S = ∅ := by
  constructor
  · rintro rfl
    exact h
  · rintro rfl
    exact h.unique rfl

/-- **Searching two parts in turn.**  Every hit of the first part lies at or
below every hit of the second, so a hit of the first part is the answer. -/
theorem IsFirst.orElse {S T : Set α} {r r' : Option α} (h : IsFirst S r)
    (h' : r = none → IsFirst T r') (hle : ∀ s ∈ S, ∀ t ∈ T, s ≤ t) :
    IsFirst (S ∪ T) (r <|> r') := by
  cases r with
  | none =>
    rw [isFirst_none.mp h, Set.empty_union]
    exact h' rfl
  | some p =>
    refine ⟨Or.inl h.1, ?_⟩
    intro q hq'
    rcases hq' with hq | hq
    · exact h.2 hq
    · exact hle p h.1 q hq

/-- **A search that counts from a base** has the same first hit. -/
theorem IsFirst.sub {S : Set Nat} {r : Option Nat} (h : IsFirst S r) {base : Nat}
    (hbase : ∀ p ∈ S, base ≤ p) : IsFirst {i | base + i ∈ S} (r.map (· - base)) := by
  cases r with
  | none =>
    rw [isFirst_none.mp h]
    rfl
  | some p =>
    obtain ⟨hp, hleast⟩ := isFirst_some.mp h
    have hadd : base + (p - base) = p := Nat.add_sub_of_le (hbase p hp)
    refine ⟨?_, fun i hi => ?_⟩
    · rw [Set.mem_ofPred_eq, hadd]
      exact hp
    · have hle := hleast hi
      show p - base ≤ i
      omega

/-- **A search loop finds the first hit.**  `hits s` are the hits still ahead in
state `s`; a pass either stops with the first of them or drops none. -/
theorem run_isFirst {σ ε : Type} {spent : ε} {body : σ → Except ε (Loop.Step σ (Option α))}
    {I : σ → Prop} (hits : σ → Set α) (measure : σ → Nat)
    (hstep : ∀ s, I s → (∃ r, body s = .ok (.done r) ∧ IsFirst (hits s) r) ∨
      ∃ s', body s = .ok (.next s') ∧ I s' ∧ hits s' = hits s ∧ measure s' < measure s)
    {budget : Nat} {s : σ} (hs : I s) (hm : measure s < budget) :
    ∃ r, Loop.run spent body budget s = .ok r ∧ IsFirst (hits s) r := by
  refine Loop.run_ok (I := fun s' => I s' ∧ hits s' = hits s) measure ?_ ⟨hs, rfl⟩ hm
  intro s₁ h
  obtain ⟨hI, hH⟩ := h
  rcases hstep s₁ hI with ⟨r, hb, hr⟩ | ⟨s₂, hb, hI', hH', hlt⟩
  · exact Or.inl ⟨r, hb, hH ▸ hr⟩
  · exact Or.inr ⟨s₂, hb, ⟨hI', hH'.trans hH⟩, hlt⟩

/-! ### The first of the best hits -/

/-- `r` is the first of the hits with the greatest score, if there is a hit at all. -/
def IsFirstBest (S : Set α) (score : α → Nat) : Option α → Prop
  | some p => IsLeast {q ∈ S | ∀ q' ∈ S, score q' ≤ score q} p
  | none => S = ∅

theorem IsFirstBest.eq_none_iff {S : Set α} {score : α → Nat} {r : Option α}
    (h : IsFirstBest S score r) : r = none ↔ S = ∅ := by
  constructor
  · rintro rfl
    exact h
  · rintro rfl
    cases r with
    | none => rfl
    | some p => exact absurd h.1.1 (Set.notMem_empty p)

/-- The hit to keep, of the best one so far and one further on: only a greater
score replaces it. -/
def keepBest (score : α → Nat) (best : Option α) (p : α) : Option α :=
  match best with
  | none => some p
  | some q => if score q < score p then some p else some q

/-- **One more hit**, behind all the others. -/
theorem IsFirstBest.insert {S : Set α} {score : α → Nat} {best : Option α} {p : α}
    (h : IsFirstBest S score best) (hp : ∀ q ∈ S, q < p) :
    IsFirstBest (insert p S) score (keepBest score best p) := by
  cases best with
  | none =>
    have hS : S = ∅ := h
    subst hS
    refine ⟨⟨Or.inl rfl, ?_⟩, ?_⟩
    · intro q hq
      rw [hq.resolve_right (Set.notMem_empty q)]
    · intro q hq
      rw [hq.1.resolve_right (Set.notMem_empty q)]
  | some q =>
    obtain ⟨⟨hq, hbest⟩, hleast⟩ := h
    rw [keepBest]
    by_cases hlt : score q < score p
    · -- the new hit is better than every hit before it
      rw [if_pos hlt]
      refine ⟨⟨Or.inl rfl, ?_⟩, ?_⟩
      · intro q' hq'
        rcases hq' with rfl | hq'
        · exact le_rfl
        · exact (hbest q' hq').trans hlt.le
      · intro q' hq'
        obtain ⟨hmem, hbest'⟩ := hq'
        rcases hmem with rfl | hmem
        · exact le_rfl
        · have hp' := hbest' p (Or.inl rfl)
          exact absurd (hp'.trans (hbest q' hmem)) (Nat.not_le_of_lt hlt)
    · -- the new hit is no better, and comes later
      rw [if_neg hlt]
      refine ⟨⟨Or.inr hq, ?_⟩, ?_⟩
      · intro q' hq'
        rcases hq' with rfl | hq'
        · exact Nat.le_of_not_lt hlt
        · exact hbest q' hq'
      · intro q' hq'
        obtain ⟨hmem, hbest'⟩ := hq'
        rcases hmem with rfl | hmem
        · exact (hp q hq).le
        · exact hleast ⟨hmem, fun q'' hq'' => hbest' q'' (Or.inr hq'')⟩

/-! ### All hits -/

/-- `l` lists the elements of `S`, each once, in increasing order. -/
def Enumerates (S : Set α) (l : List α) : Prop :=
  l.Pairwise (· < ·) ∧ ∀ p, p ∈ l ↔ p ∈ S

theorem enumerates_nil {S : Set α} (h : S = ∅) : Enumerates S [] := by
  refine ⟨List.Pairwise.nil, fun p => ?_⟩
  simp [h]

/-- Every bounded set of naturals can be listed. -/
theorem exists_enumerates {S : Set Nat} {n : Nat} (h : ∀ p ∈ S, p < n) :
    ∃ l, Enumerates S l := by
  classical
  refine ⟨(List.range n).filter (· ∈ S), List.pairwise_lt_range.filter _, fun p => ?_⟩
  rw [List.mem_filter, List.mem_range, decide_eq_true_iff]
  exact and_iff_right_of_imp (h p)

theorem Enumerates.isLeast_head {S : Set α} {p : α} {l : List α} (h : Enumerates S (p :: l)) :
    IsLeast S p := by
  refine ⟨(h.2 p).mp List.mem_cons_self, fun q hq => ?_⟩
  rcases List.mem_cons.mp ((h.2 q).mpr hq) with rfl | hq'
  · exact le_rfl
  · exact ((List.pairwise_cons.mp h.1).1 q hq').le

/-- The hits without the first one. -/
theorem Enumerates.tail {S : Set α} {p : α} {l : List α} (h : Enumerates S (p :: l)) :
    Enumerates (S \ {p}) l := by
  obtain ⟨hlt, hl⟩ := List.pairwise_cons.mp h.1
  refine ⟨hl, fun q => ?_⟩
  rw [Set.mem_sdiff, Set.mem_singleton_iff, ← h.2 q, List.mem_cons]
  constructor
  · intro hq
    exact ⟨Or.inr hq, (hlt q hq).ne'⟩
  · intro hq
    exact hq.1.resolve_left hq.2

/-- The hits above the first one. -/
theorem Enumerates.above {S : Set α} {p : α} {l : List α} (h : Enumerates S (p :: l)) :
    Enumerates {q ∈ S | p < q} l := by
  refine ⟨h.tail.1, fun q => (h.tail.2 q).trans ?_⟩
  refine and_congr_right fun hq => ⟨fun hne => ?_, fun hlt => hlt.ne'⟩
  exact lt_of_le_of_ne (h.isLeast_head.2 hq) (Ne.symm hne)

/-- The list is as long as there are hits. -/
theorem Enumerates.ncard_eq {S : Set α} {l : List α} (h : Enumerates S l) :
    S.ncard = l.length := by
  have hset : S = (l.toFinset : Set α) := by
    ext p
    rw [List.coe_toFinset]
    exact (h.2 p).symm
  rw [hset, Set.ncard_coe_finset, List.toFinset_card_of_nodup (h.1.imp ne_of_lt)]

end FirstHit

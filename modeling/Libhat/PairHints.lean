import Libhat.ScanContext
import Libhat.Lib.Bisect
import Libhat.Lib.FirstHit

/-!
# What hints choose

`apply_hints` sets `pairIndex`, the anchor of the two-byte filter of the vector
scanners.  `PairChoice` says which pair of adjacent fully masked elements that
is: the first one of the signature, the one at its start (`pair0`), or with a
frequency table the first of those whose bytes have the greatest rank in it.

The tables are strictly sorted, so the binary search of `getScore` finds the
rank of a pair wherever it is (`getScore_eq`).  The two loops over the signature
are searches, so `IsFirst` and `IsFirstBest` say what they find.

An empty signature has no last element, yet both loops run up to
`std::prev(signature.end())`: `applyHints_choice_iff`.
-/

namespace Libhat

open Bisect FirstHit

/-! ### Ranks -/

/-- A pair of bytes as one number; the order of pairs is that of the numbers. -/
def pairKey (pair : Byte × Byte) : Nat := pair.1.toNat * 256 + pair.2.toNat

theorem pairLt_iff {a b : Byte × Byte} : pairLt a b = true ↔ pairKey a < pairKey b := by
  have ha := a.2.isLt
  have hb := b.2.isLt
  simp only [pairLt, pairKey, Bool.or_eq_true, Bool.and_eq_true, decide_eq_true_iff, beq_iff_eq,
    BitVec.lt_def, ← BitVec.toNat_inj]
  omega

/-- The search of `getScore` is bisection. -/
theorem lowerBound_eq (pairs : Array (Byte × Byte)) (pair : Byte × Byte) (first len : Nat) :
    lowerBound pairs pair first len =
      bisect (fun i => decide (pairKey (pairs.getD i (0, 0)) < pairKey pair)) first len := by
  have hbelow : ∀ i, pairLt (pairs.getD i (0, 0)) pair =
      decide (pairKey (pairs.getD i (0, 0)) < pairKey pair) := by
    intro i
    rw [Bool.eq_iff_iff, pairLt_iff, decide_eq_true_iff]
  fun_induction lowerBound pairs pair first len with
  | case1 first => rw [bisect, if_pos rfl]
  | case2 first len hlen half hlt ih =>
    rw [bisect, if_neg hlen, if_pos (by rw [← hbelow]; exact hlt), ih]
  | case3 first len hlen half hlt ih =>
    rw [bisect, if_neg hlen, if_neg (by rw [← hbelow]; exact hlt), ih]

/-- A frequency table: 512 pairs in strict order, and their ranks. -/
structure SortedTable (pairHint : PairHint) : Prop where
  pairs_size : pairHint.1.size = numPairs
  scores_size : pairHint.2.size = numPairs
  sorted : (pairHint.1.toList.map pairKey).Pairwise (· < ·)

theorem x86_64_sorted :
    SortedTable (Frequency.x86_64PairsX1, Frequency.x86_64ScoresX1) where
  pairs_size := by decide +kernel
  scores_size := by decide +kernel
  sorted := List.isChain_iff_pairwise.mp (by decide +kernel)

theorem aarch64_sorted :
    SortedTable (Frequency.aarch64PairsX1, Frequency.aarch64ScoresX1) where
  pairs_size := by decide +kernel
  scores_size := by decide +kernel
  sorted := List.isChain_iff_pairwise.mp (by decide +kernel)

theorem getPairHint_sorted {target : Target} {hints : ScanHint} {pairHint : PairHint}
    (h : getPairHint target hints = some pairHint) : SortedTable pairHint := by
  unfold getPairHint at h
  split at h
  · rw [← Option.some.inj h]
    exact x86_64_sorted
  · split at h
    · rw [← Option.some.inj h]
      exact aarch64_sorted
    · simp at h

/-- The rank of a pair of bytes in a table; a pair that is not in it counts as
rarer than all that are. -/
def tableRank (pairHint : PairHint) (pair : Byte × Byte) : Nat :=
  match pairHint.1.findIdx? (· == pair) with
  | some i => pairHint.2.getD i 0
  | none => numPairs

/-- **The binary search finds the rank.** -/
theorem getScore_eq {pairHint : PairHint} (h : SortedTable pairHint) (a b : Byte) :
    getScore pairHint a b = tableRank pairHint (a, b) := by
  obtain ⟨pairs, scores⟩ := pairHint
  have hsorted : ∀ i j, i < j → j < pairs.size →
      pairKey (pairs.getD i (0, 0)) < pairKey (pairs.getD j (0, 0)) := by
    intro i j hij hj
    have hlt := List.pairwise_iff_getElem.mp h.sorted i j (by simp; omega) (by simpa using hj) hij
    simpa [Array.getD, hj, show i < pairs.size by omega] using hlt
  simp only [getScore, tableRank, lowerBound_eq]
  cases hfind : pairs.findIdx? (· == (a, b)) with
  | some i =>
    obtain ⟨hi, heq, _⟩ := Array.findIdx?_eq_some_iff_getElem.mp hfind
    have hget : pairs[i] = (a, b) := by simpa using heq
    have hgetD : pairs.getD i (0, 0) = (a, b) := by simp [Array.getD, hi, hget]
    have hat := bisect_eq_of_increasing hsorted hi
    rw [hgetD] at hat
    simp only [hat]
    rw [if_pos (by rw [Array.getElem?_eq_getElem hi, hget])]
  | none =>
    rw [if_neg]
    intro hat
    obtain ⟨hi, hget⟩ := Array.getElem?_eq_some_iff.mp hat
    have hne := Array.findIdx?_eq_none_iff.mp hfind _ (Array.getElem_mem hi)
    rw [hget, beq_self_eq_true] at hne
    cases hne

/-! ### The loops over the signature -/

/-- The indices of two adjacent fully masked elements; with `pair0` only that of
the first two elements. -/
def AdmissiblePairs (pair0 : Bool) (signature : Signature) : Set Nat :=
  {i | (AllAt signature i ∧ AllAt signature (i + 1)) ∧ (pair0 = true → i = 0)}

/-- The score of the bytes at `i` and `i + 1`. -/
def scoreAt (score : Byte → Byte → Nat) (signature : Signature) (i : Nat) : Nat :=
  match signature[i]?, signature[i + 1]? with
  | some a, some b => score a.value b.value
  | _, _ => 0

theorem allAt_of_getElem? {signature : Signature} {i : Nat} {e : SignatureElement}
    (h : signature[i]? = some e) : AllAt signature i ↔ e.all = true := by
  constructor
  · intro hall
    obtain ⟨e', he', hall⟩ := hall
    rw [h] at he'
    rw [Option.some.inj he']
    exact hall
  · intro hall
    exact ⟨e, h, hall⟩

/-- Two elements are an admissible pair if both are fully masked. -/
theorem mem_admissiblePairs {pair0 : Bool} {signature : Signature} {i : Nat}
    {a b : SignatureElement} (ha : signature[i]? = some a) (hb : signature[i + 1]? = some b)
    (hi : pair0 = true → i = 0) :
    i ∈ AdmissiblePairs pair0 signature ↔ (a.all && b.all) = true := by
  rw [Bool.and_eq_true_iff, ← allAt_of_getElem? ha, ← allAt_of_getElem? hb]
  exact and_iff_left hi

/-- An admissible pair lies inside of the signature. -/
theorem lt_of_mem_admissiblePairs {pair0 : Bool} {signature : Signature} {i : Nat}
    (h : i ∈ AdmissiblePairs pair0 signature) : i + 1 < signature.length := h.1.2.lt

theorem getElem?_of_drop {signature rest : Signature} {e : SignatureElement} {i : Nat}
    (h : signature.drop i = e :: rest) : signature[i]? = some e := by
  rw [← List.head?_drop, h]
  rfl

theorem drop_succ {signature rest : Signature} {e : SignatureElement} {i : Nat}
    (h : signature.drop i = e :: rest) : signature.drop (i + 1) = rest := by
  rw [← List.tail_drop, h]
  rfl

theorem length_le_of_drop {signature : Signature} {i n : Nat}
    (h : (signature.drop i).length ≤ n) : signature.length ≤ i + n := by
  rw [List.length_drop] at h
  omega

/-- The best pair so far, with its score. -/
def BestSoFar (score : Byte → Byte → Nat) (signature : Signature) (i : Nat)
    (best : Option (Nat × Nat)) : Prop :=
  ∃ r, IsFirstBest {j ∈ AdmissiblePairs false signature | j < i} (scoreAt score signature) r ∧
    best = r.map fun j => (j, scoreAt score signature j)

theorem BestSoFar.zero (score : Byte → Byte → Nat) (signature : Signature) :
    BestSoFar score signature 0 none := by
  refine ⟨none, ?_, rfl⟩
  ext j
  simp

/-- Past the last pair, the best pair so far is the best pair. -/
theorem BestSoFar.whole {score : Byte → Byte → Nat} {signature : Signature} {i : Nat}
    {best : Option (Nat × Nat)} (h : BestSoFar score signature i best)
    (hend : signature.length ≤ i + 1) :
    IsFirstBest (AdmissiblePairs false signature) (scoreAt score signature)
      (best.map Prod.fst) := by
  obtain ⟨r, hr, rfl⟩ := h
  have hall : {j ∈ AdmissiblePairs false signature | j < i} = AdmissiblePairs false signature := by
    ext j
    refine ⟨fun hj => hj.1, fun hj => ⟨hj, ?_⟩⟩
    have hlt := lt_of_mem_admissiblePairs hj
    omega
  rw [hall] at hr
  cases r with
  | none => exact hr
  | some j => exact hr

/-- A pair that is not admissible changes nothing. -/
theorem BestSoFar.skip {score : Byte → Byte → Nat} {signature : Signature} {i : Nat}
    {best : Option (Nat × Nat)} (h : BestSoFar score signature i best)
    (hi : i ∉ AdmissiblePairs false signature) : BestSoFar score signature (i + 1) best := by
  obtain ⟨r, hr, hbest⟩ := h
  refine ⟨r, ?_, hbest⟩
  have hsame : {j ∈ AdmissiblePairs false signature | j < i + 1} =
      {j ∈ AdmissiblePairs false signature | j < i} := by
    ext j
    refine and_congr_right fun hj => ?_
    have hne : j ≠ i := fun heq => hi (heq ▸ hj)
    omega
  rw [hsame]
  exact hr

/-- An admissible pair is compared with the best one. -/
theorem BestSoFar.keep {score : Byte → Byte → Nat} {signature : Signature} {i : Nat}
    {best : Option (Nat × Nat)} (hi : i ∈ AdmissiblePairs false signature) :
    BestSoFar score signature i best → BestSoFar score signature (i + 1) (match best with
      | none => some (i, scoreAt score signature i)
      | some (_, t) =>
        if scoreAt score signature i > t then some (i, scoreAt score signature i) else best) := by
  intro h
  obtain ⟨r, hr, rfl⟩ := h
  refine ⟨keepBest (scoreAt score signature) r i, ?_, ?_⟩
  · have hmore : {j ∈ AdmissiblePairs false signature | j < i + 1} =
        insert i {j ∈ AdmissiblePairs false signature | j < i} := by
      ext j
      rw [Set.mem_insert_iff]
      refine ⟨fun hj => ?_, fun hj => ?_⟩
      · rcases Nat.lt_succ_iff_lt_or_eq.mp hj.2 with hlt | heq
        · exact Or.inr ⟨hj.1, hlt⟩
        · exact Or.inl heq
      · rcases hj with rfl | hj
        · exact ⟨hi, Nat.lt_succ_self j⟩
        · exact ⟨hj.1, Nat.lt_succ_of_lt hj.2⟩
    rw [hmore]
    exact hr.insert fun j hj => hj.2
  · cases r with
    | none => rfl
    | some j =>
      simp only [Option.map_some, keepBest]
      split <;> rfl

/-- **The best pair**: the loop keeps the first of the pairs with the greatest score. -/
theorem bestPair_isFirstBest (score : Byte → Byte → Nat) {signature : Signature} :
    ∀ (rest : Signature) (i : Nat) (best : Option (Nat × Nat)), signature.drop i = rest →
      BestSoFar score signature i best →
      IsFirstBest (AdmissiblePairs false signature) (scoreAt score signature)
        ((bestPair score rest i best).map Prod.fst) := by
  intro rest
  induction rest with
  | nil =>
    intro i best hdrop hbest
    exact hbest.whole (length_le_of_drop (by rw [hdrop]; exact Nat.zero_le 1))
  | cons a rest ih =>
    intro i best hdrop hbest
    cases rest with
    | nil => exact hbest.whole (length_le_of_drop (by rw [hdrop]; exact le_rfl))
    | cons b rest =>
      have ha := getElem?_of_drop hdrop
      have hb := getElem?_of_drop (drop_succ hdrop)
      have hadm : i ∈ AdmissiblePairs false signature ↔ (a.all && b.all) = true :=
        mem_admissiblePairs ha hb (by simp)
      have hscore : scoreAt score signature i = score a.value b.value := by
        simp only [scoreAt, ha, hb]
      rw [bestPair]
      apply ih (i + 1) _ (drop_succ hdrop)
      by_cases hab : (a.all && b.all) = true
      · have hkeep := BestSoFar.keep (hadm.mpr hab) hbest
        rw [hscore] at hkeep
        rw [if_pos hab]
        exact hkeep
      · rw [if_neg hab]
        exact hbest.skip fun hi => hab (hadm.mp hi)

/-- **The first pair**: without `pair0` the loop finds the first pair ahead. -/
theorem firstPair_isFirst {signature : Signature} :
    ∀ (rest : Signature) (i : Nat), signature.drop i = rest →
      IsFirst {j ∈ AdmissiblePairs false signature | i ≤ j} (firstPair false rest i) := by
  have hend : ∀ i, signature.length ≤ i + 1 →
      {j ∈ AdmissiblePairs false signature | i ≤ j} = ∅ := by
    intro i hlen
    apply Set.eq_empty_of_forall_notMem
    intro j hj
    have hlt := lt_of_mem_admissiblePairs hj.1
    have hle := hj.2
    omega
  intro rest
  induction rest with
  | nil =>
    intro i hdrop
    exact hend i (length_le_of_drop (by rw [hdrop]; exact Nat.zero_le 1))
  | cons a rest ih =>
    intro i hdrop
    cases rest with
    | nil => exact hend i (length_le_of_drop (by rw [hdrop]; exact le_rfl))
    | cons b rest =>
      have ha := getElem?_of_drop hdrop
      have hb := getElem?_of_drop (drop_succ hdrop)
      have hadm : i ∈ AdmissiblePairs false signature ↔ (a.all && b.all) = true :=
        mem_admissiblePairs ha hb (by simp)
      rw [firstPair]
      by_cases hab : (a.all && b.all) = true
      · rw [if_pos hab]
        exact ⟨⟨hadm.mpr hab, le_rfl⟩, fun j hj => hj.2⟩
      · have hskip : {j ∈ AdmissiblePairs false signature | i ≤ j} =
            {j ∈ AdmissiblePairs false signature | i + 1 ≤ j} := by
          ext j
          refine and_congr_right fun hj => ?_
          have hne : j ≠ i := fun heq => hab (hadm.mp (heq ▸ hj))
          omega
        rw [if_neg hab, if_neg (by simp), hskip]
        exact ih (i + 1) (drop_succ hdrop)

/-- With `pair0` only the first two elements are looked at. -/
theorem firstPair_pair0 (signature : Signature) :
    IsFirst (AdmissiblePairs true signature) (firstPair true signature 0) := by
  have hshort : signature.length < 2 → AdmissiblePairs true signature = ∅ := by
    intro hlen
    apply Set.eq_empty_of_forall_notMem
    intro i hi
    have hlt := lt_of_mem_admissiblePairs hi
    omega
  cases signature with
  | nil => exact hshort (by decide)
  | cons a rest =>
    cases rest with
    | nil => exact hshort (by simp)
    | cons b rest =>
      have hadm : 0 ∈ AdmissiblePairs true (a :: b :: rest) ↔ (a.all && b.all) = true :=
        mem_admissiblePairs rfl rfl fun _ => rfl
      rw [firstPair]
      by_cases hab : (a.all && b.all) = true
      · rw [if_pos hab]
        exact ⟨hadm.mpr hab, fun i _ => Nat.zero_le i⟩
      · rw [if_neg hab, if_pos (by simp)]
        apply Set.eq_empty_of_forall_notMem
        intro i hi
        have hzero := hi.2 rfl
        subst hzero
        exact absurd (hadm.mp hi) hab

/-! ### The choice -/

/-- What hints make of `pairIndex`. -/
structure PairChoice (target : Target) (hints : ScanHint) (signature : Signature)
    (pairIndex : Option Nat) : Prop where
  inside : ∀ i, pairIndex = some i →
    i + 1 < signature.length ∧ AllAt signature i ∧ AllAt signature (i + 1)
  pair0 : hints.test .pair0 = true →
    (pairIndex = some 0 ↔ AllAt signature 0 ∧ AllAt signature 1) ∧
      (pairIndex = none ↔ ¬ (AllAt signature 0 ∧ AllAt signature 1))
  hinted : ∀ table, hints.test .pair0 = false → getPairHint target hints = some table →
    SortedTable table ∧ (∀ a b, getScore table a b = tableRank table (a, b)) ∧
      IsFirstBest (AdmissiblePairs false signature)
        (scoreAt (fun a b => tableRank table (a, b)) signature) pairIndex
  plain : hints.test .pair0 = false → getPairHint target hints = none →
    IsFirst (AdmissiblePairs false signature) pairIndex
  none_iff : pairIndex = none ↔ AdmissiblePairs (hints.test .pair0) signature = ∅

variable {target : Target} {vectorSize : Nat} {context : ScanContext}

theorem hintedPair_of_pair0 (h : context.hints.test .pair0 = true) :
    hintedPair target vectorSize context = none := by
  unfold hintedPair
  rw [h]
  split <;> rfl

theorem hintedPair_of_table (hv : vectorSize ≠ 0) (h : context.hints.test .pair0 = false)
    {table : PairHint} (htable : getPairHint target context.hints = some table) :
    hintedPair target vectorSize context =
      (bestPair (getScore table) context.signature 0 none).map Prod.fst := by
  unfold hintedPair
  rw [htable, h]
  exact if_pos (by simp [hv])

theorem hintedPair_of_none (h : getPairHint target context.hints = none) :
    hintedPair target vectorSize context = none := by
  unfold hintedPair
  rw [h]

theorem firstPair_isFirst_all (signature : Signature) :
    IsFirst (AdmissiblePairs false signature) (firstPair false signature 0) := by
  have h : IsFirst {j ∈ AdmissiblePairs false signature | 0 ≤ j} (firstPair false signature 0) :=
    firstPair_isFirst signature 0 rfl
  rw [show {j ∈ AdmissiblePairs false signature | 0 ≤ j} = AdmissiblePairs false signature from
    Set.ext fun j => and_iff_left (Nat.zero_le j)] at h
  exact h

/-- With a table, the index is the best pair's. -/
theorem hinted_choice (hv : vectorSize ≠ 0) (h : context.hints.test .pair0 = false)
    {table : PairHint} (htable : getPairHint target context.hints = some table) :
    IsFirstBest (AdmissiblePairs false context.signature)
      (scoreAt (fun a b => tableRank table (a, b)) context.signature)
      ((hintedPair target vectorSize context).or (firstPair false context.signature 0)) := by
  have hscore : getScore table = fun a b => tableRank table (a, b) := by
    funext a b
    exact getScore_eq (getPairHint_sorted htable) a b
  have hbest := bestPair_isFirstBest (getScore table) context.signature 0 none rfl
    (BestSoFar.zero _ context.signature)
  rw [← hintedPair_of_table hv h htable, hscore] at hbest
  cases hpair : hintedPair target vectorSize context with
  | some i =>
    rw [hpair] at hbest
    exact hbest
  | none =>
    -- no pair is admissible, so the second loop finds none either
    have hempty := hbest.eq_none_iff.mp hpair
    rw [Option.none_or, (firstPair_isFirst_all context.signature).eq_none_iff.mpr hempty]
    exact hempty

theorem pairChoice_of_pair0 (h : context.hints.test .pair0 = true) :
    PairChoice target context.hints context.signature
      ((hintedPair target vectorSize context).or (firstPair true context.signature 0)) := by
  have hfirst := firstPair_pair0 context.signature
  rw [hintedPair_of_pair0 h, Option.none_or]
  have hmem : 0 ∈ AdmissiblePairs true context.signature ↔
      AllAt context.signature 0 ∧ AllAt context.signature 1 := and_iff_left fun _ => rfl
  have hnone : firstPair true context.signature 0 = none ↔
      ¬ (AllAt context.signature 0 ∧ AllAt context.signature 1) := by
    rw [hfirst.eq_none_iff, ← hmem, Set.eq_empty_iff_forall_notMem]
    refine ⟨fun hall => hall 0, fun hzero i hi => ?_⟩
    have hi0 := hi.2 rfl
    subst hi0
    exact hzero hi
  refine ⟨fun i hi => ?_, fun _ => ⟨?_, hnone⟩, ?_, ?_, ?_⟩
  · rw [hi] at hfirst
    exact ⟨hfirst.1.1.2.lt, hfirst.1.1⟩
  · constructor
    · intro hsome
      rw [hsome] at hfirst
      exact hmem.mp hfirst.1
    · intro hall
      cases hpair : firstPair true context.signature 0 with
      | none => exact absurd hall (hnone.mp hpair)
      | some i =>
        rw [hpair] at hfirst
        rw [hfirst.1.2 rfl]
  · intro table hfalse
    rw [h] at hfalse
    cases hfalse
  · intro hfalse
    rw [h] at hfalse
    cases hfalse
  · rw [h]
    exact hfirst.eq_none_iff

theorem pairChoice_of_not_pair0 (hv : vectorSize ≠ 0) (h : context.hints.test .pair0 = false) :
    PairChoice target context.hints context.signature
      ((hintedPair target vectorSize context).or (firstPair false context.signature 0)) := by
  have hfirst := firstPair_isFirst_all context.signature
  refine ⟨fun i hi => ?_, fun htrue => ?_, fun table _ htable => ?_, fun _ hnone => ?_, ?_⟩
  · have hadm := pairIndex_admissible hi
    exact ⟨hadm.2.lt, hadm⟩
  · rw [h] at htrue
    cases htrue
  · have hsorted := getPairHint_sorted htable
    exact ⟨hsorted, getScore_eq hsorted, hinted_choice hv h htable⟩
  · rw [hintedPair_of_none hnone, Option.none_or]
    exact hfirst
  · rw [h]
    cases htable : getPairHint target context.hints with
    | none =>
      rw [hintedPair_of_none htable, Option.none_or]
      exact hfirst.eq_none_iff
    | some table => exact (hinted_choice hv h htable).eq_none_iff

/-- **What hints choose**: `apply_hints` leaves the index that the hints ask for,
for every signature that has an element. -/
theorem applyHints_choice_iff (target : Target) {vectorSize : Nat} (hv : vectorSize ≠ 0)
    {context : ScanContext} (hpair : context.pairIndex = none) :
    (∃ pairIndex, applyHints target vectorSize context = .ok { context with pairIndex } ∧
      PairChoice target context.hints context.signature pairIndex) ↔ context.signature ≠ [] := by
  constructor
  · intro hok hnil
    obtain ⟨pairIndex, hrun, _⟩ := hok
    rw [applyHints_nil target vectorSize hnil hpair] at hrun
    cases hrun
  · intro hne
    refine ⟨_, applyHints_eq target vectorSize hne hpair, ?_⟩
    cases h : context.hints.test .pair0 with
    | true => exact pairChoice_of_pair0 h
    | false => exact pairChoice_of_not_pair0 hv h

/-- A context with three fully masked elements, before hints. -/
def sampleContext : ScanContext where
  signature := [.ofByte 0x48, .ofByte 0x8B, .ofByte 0x05]
  scanner := none
  alignment := .x1
  hints := ScanHint.x86_64
  cmpIndex := 0
  pairIndex := none

/-- A build with both tables. -/
def sampleTarget : Target := { (default : Target) with hintX86_64 := true, hintAarch64 := true }

theorem applyHints_choice_iff_sample :
    (∃ pairIndex, applyHints sampleTarget 16 sampleContext =
        .ok { sampleContext with pairIndex } ∧
      PairChoice sampleTarget sampleContext.hints sampleContext.signature pairIndex) ↔
        sampleContext.signature ≠ [] :=
  applyHints_choice_iff sampleTarget (by decide) rfl

/-- On an empty signature `apply_hints` reads an element that does not exist. -/
theorem applyHints_empty_signature :
    ¬ ∃ pairIndex, applyHints sampleTarget 16 { sampleContext with signature := [] } =
      .ok { sampleContext with signature := [], pairIndex } := by
  rintro ⟨pairIndex, h⟩
  rw [applyHints_nil sampleTarget 16 rfl rfl] at h
  cases h

end Libhat

import Libhat.Scan

/-!
# All matches

`find_all_pattern` scans again and again, each time from one stride past the
last match.  With an unbounded output it collects every match and counts them;
with a bounded one it stops when the output is full, and returns the input
position from which a further call goes on.

* `findAllPattern_enumerates`: the unbounded call lists the `Hits` in order.
* `findAll_resume`: calls with any capacities, each from where the last one
  stopped, write a prefix of that list.
* `findAllPatternBounded_inside_iff`: when the position returned is one of the range.
-/

namespace Libhat

open FirstHit

/-- The variables `i`, `out` and `matches` of `find_all_pattern`; `out` is what has
been written. -/
structure FindAllState where
  i : Nat
  out : List Nat
  matchCount : Nat

/-- The loop body of `find_all_pattern` with an unbounded output. -/
def findAllStep (context : ScanContext) (m : Memory) (last stride : Nat) (s : FindAllState) :
    Exec (Loop.Step FindAllState FindAllState) := do
  if s.i < last then
    match ← context.scan m s.i last with
    | none => return .done s
    | some p => return .next ⟨p + stride, s.out ++ [p], s.matchCount + 1⟩
  else
    return .done s

/-- `find_all_pattern` with an unbounded output: what it writes, and what it returns. -/
def findAllPattern (target : Target) (m : Memory) (first last : Nat) (signature : Signature)
    (alignment : ScanAlignment) (hints : ScanHint) : Exec (List Nat × Nat) := do
  let context ← ScanContext.create target .auto signature alignment hints
  let s ← Loop.run .budget (findAllStep context m last alignment.toStride) (last - first + 1)
    ⟨first, [], 0⟩
  return (s.out, s.matchCount)

/-- `find_all_pattern` that returns a `std::vector`. -/
def findAllPatternVector (target : Target) (m : Memory) (first last : Nat) (signature : Signature)
    (alignment : ScanAlignment) (hints : ScanHint) : Exec (List Nat) := do
  let (results, _) ← findAllPattern target m first last signature alignment hints
  return results

/-- The loop body of `find_all_pattern` with an output range of `capacity` places. -/
def findAllBoundedStep (context : ScanContext) (m : Memory) (last stride capacity : Nat)
    (s : Nat × List Nat) : Exec (Loop.Step (Nat × List Nat) (Nat × List Nat)) := do
  let (i, out) := s
  if i < last ∧ out.length ≠ capacity then
    match ← context.scan m i last with
    | none => return .done (last, out)
    | some p => return .next (p + stride, out ++ [p])
  else
    return .done (i, out)

/-- `find_all_pattern` with a bounded output: the input position it returns, and
what it writes. -/
def findAllPatternBounded (target : Target) (m : Memory) (first last capacity : Nat)
    (signature : Signature) (alignment : ScanAlignment) (hints : ScanHint) :
    Exec (Nat × List Nat) := do
  let context ← ScanContext.create target .auto signature alignment hints
  Loop.run .budget (findAllBoundedStep context m last alignment.toStride capacity)
    (last - first + 1) (first, [])

/-- Bounded calls for a sequence of capacities, each from the position that the
call before it returned: what each of them writes. -/
def findAllCalls (target : Target) (m : Memory) (last : Nat) (signature : Signature)
    (alignment : ScanAlignment) (hints : ScanHint) : List Nat → Nat → Exec (List (List Nat))
  | [], _ => pure []
  | capacity :: capacities, i => do
    let (next, out) ← findAllPatternBounded target m i last capacity signature alignment hints
    let outs ← findAllCalls target m last signature alignment hints capacities next
    return out :: outs

/-! ### One scan -/

section

variable {m : Memory} {first last i : Nat} {signature : Signature} {alignment : ScanAlignment}
  {context : ScanContext}

/-- The hits from one stride past the first hit on are the other hits. -/
theorem hits_add_stride {p : Nat} (hp : p ∈ Hits m signature alignment.toStride i last) :
    Hits m signature alignment.toStride (p + alignment.toStride) last
      = {q ∈ Hits m signature alignment.toStride i last | p < q} := by
  have hpos := alignment.toStride_pos
  ext q
  constructor
  · intro hq
    obtain ⟨h1, h2, h3, h4⟩ := hq
    exact ⟨⟨by have := hp.1; omega, h2, h3, h4⟩, by omega⟩
  · intro hq
    obtain ⟨⟨_, h2, h3, h4⟩, hlt⟩ := hq
    exact ⟨add_le_of_dvd_of_lt hp.2.2.1 h3 hlt, h2, h3, h4⟩

/-- No hit starts at or past the end. -/
theorem hits_eq_empty_of_le (hsig : HasFullByte signature) (h : last ≤ i) :
    Hits m signature alignment.toStride i last = ∅ := by
  have hpos := List.length_pos_iff.mpr hsig.ne_nil
  exact hits_eq_empty (by omega)

/-- **One scan of the loop** takes the head of the list of hits ahead. -/
theorem scan_eq_head? (h : context.FindsFirst signature alignment)
    (hread : m.Readable i last) {l : List Nat}
    (hl : Enumerates (Hits m signature alignment.toStride i last) l) :
    context.scan m i last = .ok l.head? := by
  obtain ⟨r, hr, hfirst⟩ := h hread
  have hhead : IsFirst (Hits m signature alignment.toStride i last) l.head? := by
    cases l with
    | nil =>
      apply Set.eq_empty_iff_forall_notMem.mpr
      intro p hp
      exact absurd ((hl.2 p).mpr hp) List.not_mem_nil
    | cons p rest => exact hl.isLeast_head
  rw [hr, hfirst.unique hhead]

/-- The hits left after the first one. -/
theorem enumerates_rest {p : Nat} {rest : List Nat}
    (hl : Enumerates (Hits m signature alignment.toStride i last) (p :: rest)) :
    Enumerates (Hits m signature alignment.toStride (p + alignment.toStride) last) rest := by
  rw [hits_add_stride hl.isLeast_head.1]
  exact hl.above

theorem lt_of_enumerates (hsig : HasFullByte signature) {p : Nat} {rest : List Nat}
    (hl : Enumerates (Hits m signature alignment.toStride i last) (p :: rest)) :
    i ≤ p ∧ p < last := by
  obtain ⟨h1, h2, _⟩ := hl.isLeast_head.1
  have hpos := List.length_pos_iff.mpr hsig.ne_nil
  exact ⟨h1, by omega⟩

/-! ### Unbounded output -/

/-- **The unbounded loop writes the hits ahead**, in order. -/
theorem findAllLoop_ok (h : context.FindsFirst signature alignment) (hsig : HasFullByte signature)
    (hread : m.Readable first last) :
    ∀ (l : List Nat) (budget : Nat) (s : FindAllState), first ≤ s.i → last - s.i < budget →
      Enumerates (Hits m signature alignment.toStride s.i last) l →
      ∃ i, Loop.run .budget (findAllStep context m last alignment.toStride) budget s
        = .ok ⟨i, s.out ++ l, s.matchCount + l.length⟩ := by
  intro l
  induction l with
  | nil =>
    intro budget s hfirst hm hl
    obtain ⟨budget, rfl⟩ : ∃ b, budget = b + 1 := ⟨budget - 1, by omega⟩
    have hdone : findAllStep context m last alignment.toStride s = .ok (.done s) := by
      rw [findAllStep, scan_eq_head? h (hread.mono hfirst le_rfl) hl]
      split <;> rfl
    exact ⟨s.i, by rw [Loop.run_done hdone, List.append_nil]; rfl⟩
  | cons p rest ih =>
    intro budget s hfirst hm hl
    obtain ⟨budget, rfl⟩ : ∃ b, budget = b + 1 := ⟨budget - 1, by omega⟩
    obtain ⟨hip, hp⟩ := lt_of_enumerates hsig hl
    have hpos := alignment.toStride_pos
    have hnext : findAllStep context m last alignment.toStride s
        = .ok (.next ⟨p + alignment.toStride, s.out ++ [p], s.matchCount + 1⟩) := by
      rw [findAllStep, if_pos (by omega), scan_eq_head? h (hread.mono hfirst le_rfl) hl]
      rfl
    obtain ⟨i, hi⟩ := ih budget ⟨p + alignment.toStride, s.out ++ [p], s.matchCount + 1⟩
      (by simp only; omega) (by simp only; omega) (enumerates_rest hl)
    refine ⟨i, ?_⟩
    rw [Loop.run_next hnext, hi, List.append_assoc, List.length_cons, List.singleton_append,
      Nat.add_assoc, Nat.add_comm 1]

theorem findAllPattern_ok (target : Target) (alignment : ScanAlignment) (hints : ScanHint)
    (hsig : HasFullByte signature) (hdef : MasksDefined target .auto signature alignment hints)
    (hread : m.Readable first last) {l : List Nat}
    (hl : Enumerates (Hits m signature alignment.toStride first last) l) :
    findAllPattern target m first last signature alignment hints = .ok (l, l.length) := by
  obtain ⟨context, hcreate, _, hfinds⟩ :=
    create_findsFirst target .auto alignment hints hsig hdef
  obtain ⟨i, hi⟩ := findAllLoop_ok hfinds hsig hread l (last - first + 1) ⟨first, [], 0⟩ le_rfl
    (by simp) hl
  rw [findAllPattern, hcreate, ok_bind, hi]
  simp

/-- There is a list of all hits. -/
theorem exists_enumerates_hits (m : Memory) (first last : Nat) (alignment : ScanAlignment)
    (hsig : HasFullByte signature) :
    ∃ l, Enumerates (Hits m signature alignment.toStride first last) l := by
  have hpos := List.length_pos_iff.mpr hsig.ne_nil
  apply exists_enumerates (n := last)
  intro p hp
  have := hp.2.1
  omega

/-! ### Bounded output -/

/-- A pass that is at the end or has no place left. -/
theorem findAllBoundedStep_stop {stride capacity : Nat} {out : List Nat}
    (hstop : ¬ (i < last ∧ out.length ≠ capacity)) :
    findAllBoundedStep context m last stride capacity (i, out) = .ok (.done (i, out)) := by
  simp only [findAllBoundedStep, if_neg hstop]
  rfl

/-- A pass with no hit ahead. -/
theorem findAllBoundedStep_last (h : context.FindsFirst signature alignment)
    (hread : m.Readable i last) {capacity : Nat} {out : List Nat}
    (hl : Enumerates (Hits m signature alignment.toStride i last) [])
    (hgo : i < last ∧ out.length ≠ capacity) :
    findAllBoundedStep context m last alignment.toStride capacity (i, out)
      = .ok (.done (last, out)) := by
  simp only [findAllBoundedStep, if_pos hgo, scan_eq_head? h hread hl]
  rfl

/-- A pass that writes the next hit. -/
theorem findAllBoundedStep_next (h : context.FindsFirst signature alignment)
    (hread : m.Readable i last) {capacity p : Nat} {rest out : List Nat}
    (hl : Enumerates (Hits m signature alignment.toStride i last) (p :: rest))
    (hgo : i < last ∧ out.length ≠ capacity) :
    findAllBoundedStep context m last alignment.toStride capacity (i, out)
      = .ok (.next (p + alignment.toStride, out ++ [p])) := by
  simp only [findAllBoundedStep, if_pos hgo, scan_eq_head? h hread hl]
  rfl

/-- **The bounded loop writes the hits ahead until the output is full**, and leaves
a position that has the other hits ahead of it. -/
theorem findAllBoundedLoop_ok (h : context.FindsFirst signature alignment)
    (hsig : HasFullByte signature) (hread : m.Readable first last) (capacity : Nat) :
    ∀ (l : List Nat) (budget i : Nat) (out : List Nat), first ≤ i → last - i < budget →
      out.length ≤ capacity → Enumerates (Hits m signature alignment.toStride i last) l →
      ∃ next, Loop.run .budget (findAllBoundedStep context m last alignment.toStride capacity)
          budget (i, out) = .ok (next, out ++ l.take (capacity - out.length)) ∧
        first ≤ next ∧
        Enumerates (Hits m signature alignment.toStride next last)
          (l.drop (capacity - out.length)) := by
  intro l
  induction l with
  | nil =>
    intro budget i out hfirst hm _ hl
    obtain ⟨budget, rfl⟩ : ∃ b, budget = b + 1 := ⟨budget - 1, by omega⟩
    rw [List.take_nil, List.drop_nil, List.append_nil]
    by_cases hgo : i < last ∧ out.length ≠ capacity
    · have hdone := findAllBoundedStep_last h (hread.mono hfirst le_rfl) hl hgo
      exact ⟨last, Loop.run_done hdone, by omega, enumerates_nil (hits_eq_empty_of_le hsig le_rfl)⟩
    · exact ⟨i, Loop.run_done (findAllBoundedStep_stop hgo), hfirst, hl⟩
  | cons p rest ih =>
    intro budget i out hfirst hm hout hl
    obtain ⟨budget, rfl⟩ : ∃ b, budget = b + 1 := ⟨budget - 1, by omega⟩
    obtain ⟨hip, hp⟩ := lt_of_enumerates hsig hl
    have hpos := alignment.toStride_pos
    by_cases hfull : out.length = capacity
    · rw [hfull, Nat.sub_self, List.take_zero, List.drop_zero, List.append_nil]
      exact ⟨i, Loop.run_done (findAllBoundedStep_stop (by omega)), hfirst, hl⟩
    · have hnext := findAllBoundedStep_next h (hread.mono hfirst le_rfl) hl
        (show i < last ∧ out.length ≠ capacity by omega)
      have hlen : (out ++ [p]).length = out.length + 1 := by simp
      obtain ⟨next, hrun, hnextFirst, hdrop⟩ := ih budget (p + alignment.toStride) (out ++ [p])
        (by omega) (by omega) (by omega) (enumerates_rest hl)
      have hroom : capacity - out.length = capacity - (out ++ [p]).length + 1 := by omega
      refine ⟨next, ?_, hnextFirst, ?_⟩
      · rw [Loop.run_next hnext, hrun, hroom, List.take_succ_cons, List.append_assoc,
          List.singleton_append]
      · rw [hroom, List.drop_succ_cons]
        exact hdrop

theorem findAllPatternBounded_ok (target : Target) (alignment : ScanAlignment) (hints : ScanHint)
    (hsig : HasFullByte signature) (hdef : MasksDefined target .auto signature alignment hints)
    (hread : m.Readable first last) (capacity : Nat) {l : List Nat}
    (hfirst : first ≤ i) (hl : Enumerates (Hits m signature alignment.toStride i last) l) :
    ∃ next, findAllPatternBounded target m i last capacity signature alignment hints
        = .ok (next, l.take capacity) ∧
      first ≤ next ∧
      Enumerates (Hits m signature alignment.toStride next last) (l.drop capacity) := by
  obtain ⟨context, hcreate, _, hfinds⟩ :=
    create_findsFirst target .auto alignment hints hsig hdef
  obtain ⟨next, hrun, hnext, hdrop⟩ := findAllBoundedLoop_ok hfinds hsig hread capacity l
    (last - i + 1) i [] hfirst (by omega) (Nat.zero_le _) hl
  exact ⟨next, by rw [findAllPatternBounded, hcreate, ok_bind, hrun]; rfl, hnext, hdrop⟩

/-- **Calls in a row write the list from its head on**, as much of it as there is room
for in all of them. -/
theorem findAllCalls_ok (target : Target) (alignment : ScanAlignment) (hints : ScanHint)
    (hsig : HasFullByte signature) (hdef : MasksDefined target .auto signature alignment hints)
    (hread : m.Readable first last) :
    ∀ (capacities : List Nat) {i : Nat} {l : List Nat}, first ≤ i →
      Enumerates (Hits m signature alignment.toStride i last) l →
      ∃ outs, findAllCalls target m last signature alignment hints capacities i = .ok outs ∧
        outs.flatten = l.take capacities.sum := by
  intro capacities
  induction capacities with
  | nil =>
    intro i l _ _
    exact ⟨[], rfl, by simp⟩
  | cons capacity capacities ih =>
    intro i l hi hl
    obtain ⟨next, hcall, hnext, hdrop⟩ :=
      findAllPatternBounded_ok target alignment hints hsig hdef hread capacity hi hl
    obtain ⟨outs, houts, hflat⟩ := ih hnext hdrop
    refine ⟨l.take capacity :: outs, ?_, ?_⟩
    · simp only [findAllCalls, hcall, ok_bind, houts, pure_eq_ok]
    · rw [List.flatten_cons, hflat, List.sum_cons, List.take_add]

/-! ### The list of all matches -/

/-- **`find_all_pattern` lists every match**: the aligned starts at which the whole
signature fits and matches, overlapping ones too, each once and in increasing
order, and returns how many there are.  The overload that returns a vector gives
the same list. -/
theorem findAllPattern_enumerates (target : Target) (alignment : ScanAlignment) (hints : ScanHint)
    (hsig : HasFullByte signature) (hdef : MasksDefined target .auto signature alignment hints)
    (hread : m.Readable first last) :
    ∃ l, findAllPattern target m first last signature alignment hints = .ok (l, l.length) ∧
      findAllPatternVector target m first last signature alignment hints = .ok l ∧
      l.Pairwise (· < ·) ∧
      ∀ p, p ∈ l ↔ first ≤ p ∧ p + signature.length ≤ last ∧ alignment.toStride ∣ p ∧
        MatchesAt m signature p := by
  obtain ⟨l, hl⟩ := exists_enumerates_hits m first last alignment hsig
  have hall := findAllPattern_ok target alignment hints hsig hdef hread hl
  refine ⟨l, hall, ?_, hl.1, hl.2⟩
  rw [findAllPatternVector, hall]
  rfl

theorem findAllPattern_enumerates_sample :
    ∃ l, findAllPattern default (Memory.ofBytes 1000 [1, 1, 1, 4, 1]) 1000 1005
        [.ofByte 1, .ofByte 1] .x1 0 = .ok (l, l.length) ∧
      findAllPatternVector default (Memory.ofBytes 1000 [1, 1, 1, 4, 1]) 1000 1005
        [.ofByte 1, .ofByte 1] .x1 0 = .ok l ∧
      l.Pairwise (· < ·) ∧
      ∀ p, p ∈ l ↔ 1000 ≤ p ∧ p + 2 ≤ 1005 ∧ 1 ∣ p ∧
        MatchesAt (Memory.ofBytes 1000 [1, 1, 1, 4, 1]) [.ofByte 1, .ofByte 1] p :=
  findAllPattern_enumerates default .x1 0 ⟨_, List.mem_cons_self, by decide⟩
    (masksDefined_x1 _ _ _ _) (Memory.readable_ofBytes 1000 [1, 1, 1, 4, 1])

-- `count_matches` of the source
example : findAllPattern default (Memory.ofBytes 1000 [1, 2, 3, 4, 1]) 1000 1005 [.ofByte 1] .x1 0
    = .ok ([1000, 1004], 2) := by rfl

/-- **Resumption.**  Bounded calls with any capacities, each from the position that
the call before it returned, write the first matches of the unbounded call. -/
theorem findAll_resume (target : Target) (alignment : ScanAlignment) (hints : ScanHint)
    (hsig : HasFullByte signature) (hdef : MasksDefined target .auto signature alignment hints)
    (hread : m.Readable first last) (capacities : List Nat) :
    ∃ l outs, findAllPattern target m first last signature alignment hints = .ok (l, l.length) ∧
      findAllCalls target m last signature alignment hints capacities first = .ok outs ∧
      outs.flatten = l.take capacities.sum := by
  obtain ⟨l, hl⟩ := exists_enumerates_hits m first last alignment hsig
  obtain ⟨outs, houts, hflat⟩ :=
    findAllCalls_ok target alignment hints hsig hdef hread capacities le_rfl hl
  exact ⟨l, outs, findAllPattern_ok target alignment hints hsig hdef hread hl, houts, hflat⟩

theorem findAll_resume_sample :
    ∃ l outs, findAllPattern default (Memory.ofBytes 1000 [1, 1, 1, 4, 1]) 1000 1005
        [.ofByte 1] .x1 0 = .ok (l, l.length) ∧
      findAllCalls default (Memory.ofBytes 1000 [1, 1, 1, 4, 1]) 1005 [.ofByte 1] .x1 0
        [2, 0, 1] 1000 = .ok outs ∧
      outs.flatten = l.take 3 :=
  findAll_resume default .x1 0 ⟨_, List.mem_cons_self, by decide⟩
    (masksDefined_x1 _ _ _ _) (Memory.readable_ofBytes 1000 [1, 1, 1, 4, 1]) [2, 0, 1]

/-! ### Where a bounded call stops -/

/-- **The bounded loop stops inside the range** if every hit has a stride of room behind it,
or the output is full before the last hit. -/
theorem findAllBoundedLoop_inside (h : context.FindsFirst signature alignment)
    (hsig : HasFullByte signature) (hread : m.Readable first last) (capacity : Nat) :
    ∀ (l : List Nat) (budget i : Nat) (out : List Nat), first ≤ i → i ≤ last → last - i < budget →
      out.length ≤ capacity → Enumerates (Hits m signature alignment.toStride i last) l →
      ∃ next outs, Loop.run .budget (findAllBoundedStep context m last alignment.toStride capacity)
          budget (i, out) = .ok (next, outs) ∧
        first ≤ next ∧
        (next ≤ last ↔ (∀ p ∈ l, p + alignment.toStride ≤ last) ∨
          capacity < out.length + l.length) := by
  intro l
  induction l with
  | nil =>
    intro budget i out hfirst hlast hm hout hl
    obtain ⟨budget, rfl⟩ : ∃ b, budget = b + 1 := ⟨budget - 1, by omega⟩
    have hinside : (∀ p ∈ ([] : List Nat), p + alignment.toStride ≤ last) ∨
        capacity < out.length + ([] : List Nat).length := Or.inl (by simp)
    by_cases hgo : i < last ∧ out.length ≠ capacity
    · exact ⟨last, out, Loop.run_done (findAllBoundedStep_last h (hread.mono hfirst le_rfl) hl hgo),
        by omega, iff_of_true le_rfl hinside⟩
    · exact ⟨i, out, Loop.run_done (findAllBoundedStep_stop hgo), hfirst,
        iff_of_true hlast hinside⟩
  | cons p rest ih =>
    intro budget i out hfirst hlast hm hout hl
    obtain ⟨budget, rfl⟩ : ∃ b, budget = b + 1 := ⟨budget - 1, by omega⟩
    obtain ⟨hip, hp⟩ := lt_of_enumerates hsig hl
    have hpos := alignment.toStride_pos
    by_cases hgo : i < last ∧ out.length ≠ capacity
    · have hlen : (out ++ [p]).length = out.length + 1 := by simp
      have hnext := findAllBoundedStep_next h (hread.mono hfirst le_rfl) hl hgo
      rw [Loop.run_next hnext]
      by_cases hroom : p + alignment.toStride ≤ last
      · obtain ⟨next, outs, hrun, hfirstNext, hiff⟩ := ih budget (p + alignment.toStride)
          (out ++ [p]) (by omega) hroom (by omega) (by omega) (enumerates_rest hl)
        refine ⟨next, outs, hrun, hfirstNext, hiff.trans ?_⟩
        rw [hlen, List.length_cons, Nat.add_assoc, Nat.add_comm 1, List.forall_mem_cons,
          and_iff_right hroom]
      · -- the last hit: there is no room for another one behind it
        have hrest : rest = [] := by
          cases rest with
          | nil => rfl
          | cons q rest =>
            have := lt_of_enumerates hsig (enumerates_rest hl)
            omega
        obtain ⟨budget, rfl⟩ : ∃ b, budget = b + 1 := ⟨budget - 1, by omega⟩
        refine ⟨p + alignment.toStride, out ++ [p],
          Loop.run_done (findAllBoundedStep_stop (by omega)), by omega, iff_of_false hroom ?_⟩
        rw [hrest, List.length_singleton, List.forall_mem_cons]
        omega
    · refine ⟨i, out, Loop.run_done (findAllBoundedStep_stop hgo), hfirst, iff_of_true hlast ?_⟩
      rw [List.length_cons]
      omega

/-- **Without a fully masked element** a call only returns where it scans nothing, and then it
stops in the range. -/
theorem findAllPatternBounded_of_not_hasFullByte (target : Target) (hints : ScanHint)
    (capacity : Nat) (hsig : ¬ HasFullByte signature) (hrange : first ≤ last) :
    (∃ next out, findAllPatternBounded target m first last capacity signature alignment hints
        = .ok (next, out) ∧ first ≤ next ∧ next ≤ last) ↔
      (signature ≠ [] ∨ autoMode target = .single) ∧
        (first = last ∨ capacity = 0 ∨ last - first < signature.length) := by
  have hcreated : (∃ context, ScanContext.create target .auto signature alignment hints
      = .ok context) ↔ signature ≠ [] ∨ autoMode target = .single := by
    rw [create_ok_iff]
    exact or_congr_right (or_iff_left (autoMode_ne_auto target))
  rw [← hcreated]
  simp only [findAllPatternBounded]
  cases hcreate : ScanContext.create target .auto signature alignment hints with
  | error fault =>
    refine iff_of_false (fun h => ?_) (fun h => ?_)
    · obtain ⟨next, out, hcall, _⟩ := h
      cases hcall
    · obtain ⟨⟨context, hcontext⟩, _⟩ := h
      cases hcontext
  | ok context =>
    obtain ⟨hsignature, _⟩ := create_of_not_hasFullByte hsig hcreate
    rw [ok_bind]
    by_cases hstop : first = last ∨ capacity = 0
    · have hgo : ¬ (first < last ∧ ([] : List Nat).length ≠ capacity) := by
        rw [List.length_nil]
        omega
      refine iff_of_true ⟨first, [], Loop.run_done (findAllBoundedStep_stop hgo), le_rfl, hrange⟩
        ⟨⟨context, rfl⟩, ?_⟩
      rcases hstop with h | h
      · exact Or.inl h
      · exact Or.inr (Or.inl h)
    have hgo : first < last ∧ ([] : List Nat).length ≠ capacity := by
      rw [List.length_nil]
      omega
    by_cases hshort : last - first < signature.length
    · have hdone : findAllBoundedStep context m last alignment.toStride capacity (first, [])
          = .ok (.done (last, [])) := by
        rw [← hsignature] at hshort
        simp only [findAllBoundedStep, if_pos hgo, scan_short hshort]
        rfl
      exact iff_of_true ⟨last, [], Loop.run_done hdone, hrange, le_rfl⟩
        ⟨⟨context, rfl⟩, Or.inr (Or.inr hshort)⟩
    · have hscan : context.scan m first last = .error (.index context.cmpIndex) :=
        scan_of_not_hasFullByte hsig hcreate (Nat.le_of_not_lt hshort)
      have hstep : findAllBoundedStep context m last alignment.toStride capacity (first, [])
          = .error (.index context.cmpIndex) := by
        simp only [findAllBoundedStep, if_pos hgo, hscan]
        rfl
      refine iff_of_false (fun h => ?_) (fun h => ?_)
      · obtain ⟨next, out, hcall, _⟩ := h
        rw [Loop.run, hstep] at hcall
        cases hcall
      · rcases h.2 with h | h | h
        · exact hstop (Or.inl h)
        · exact hstop (Or.inr h)
        · exact hshort h

/-- **When a bounded call returns a position of the range.**  With a fully masked element: if and
only if every match has a stride of room behind it, or there are more matches than places.
Without one a scan has no anchor: the call returns, and inside the range, if and only if it
scans nothing. -/
theorem findAllPatternBounded_inside_iff (target : Target) (alignment : ScanAlignment)
    (hints : ScanHint) (hrange : first ≤ last)
    (hdef : HasFullByte signature → MasksDefined target .auto signature alignment hints)
    (hread : m.Readable first last) (capacity : Nat) :
    (∃ next out, findAllPatternBounded target m first last capacity signature alignment hints
        = .ok (next, out) ∧ first ≤ next ∧ next ≤ last) ↔
      (HasFullByte signature ∧
        ((∀ p ∈ Hits m signature alignment.toStride first last, p + alignment.toStride ≤ last) ∨
          capacity < (Hits m signature alignment.toStride first last).ncard)) ∨
      (¬ HasFullByte signature ∧ (signature ≠ [] ∨ autoMode target = .single) ∧
        (first = last ∨ capacity = 0 ∨ last - first < signature.length)) := by
  by_cases hsig : HasFullByte signature
  · obtain ⟨l, hl⟩ := exists_enumerates_hits m first last alignment hsig
    obtain ⟨context, hcreate, _, hfinds⟩ :=
      create_findsFirst target .auto alignment hints hsig (hdef hsig)
    obtain ⟨next, out, hrun, hfirst, hiff⟩ := findAllBoundedLoop_inside hfinds hsig hread capacity l
      (last - first + 1) first [] le_rfl hrange (by omega) (Nat.zero_le _) hl
    have hcall : findAllPatternBounded target m first last capacity signature alignment hints
        = .ok (next, out) := by
      rw [findAllPatternBounded, hcreate, ok_bind, hrun]
    have hhits : (∀ p ∈ l, p + alignment.toStride ≤ last) ↔
        ∀ p ∈ Hits m signature alignment.toStride first last, p + alignment.toStride ≤ last :=
      forall_congr' fun p => imp_congr_left (hl.2 p)
    rw [List.length_nil, Nat.zero_add, hhits, ← hl.ncard_eq] at hiff
    rw [or_iff_left fun h => h.1 hsig, and_iff_right hsig, ← hiff]
    constructor
    · intro h
      obtain ⟨next', out', hcall', _, hlast⟩ := h
      rw [hcall, Except.ok.injEq, Prod.mk.injEq] at hcall'
      rw [hcall'.1]
      exact hlast
    · intro hlast
      exact ⟨next, out, hcall, hfirst, hlast⟩
  · rw [or_iff_right fun h => hsig h.1, and_iff_right hsig]
    exact findAllPatternBounded_of_not_hasFullByte target hints capacity hsig hrange

theorem findAllPatternBounded_inside_iff_sample :
    (∃ next out, findAllPatternBounded default (Memory.ofBytes 1000 [1, 1, 1, 4, 1]) 1000 1005 2
        [.ofByte 1] .x4 0 = .ok (next, out) ∧ 1000 ≤ next ∧ next ≤ 1005) ↔
      (HasFullByte [SignatureElement.ofByte 1] ∧
        ((∀ p ∈ Hits (Memory.ofBytes 1000 [1, 1, 1, 4, 1]) [.ofByte 1] 4 1000 1005, p + 4 ≤ 1005) ∨
          2 < (Hits (Memory.ofBytes 1000 [1, 1, 1, 4, 1]) [.ofByte 1] 4 1000 1005).ncard)) ∨
      (¬ HasFullByte [SignatureElement.ofByte 1] ∧
        ([SignatureElement.ofByte 1] ≠ [] ∨ autoMode default = .single) ∧
        (1000 = 1005 ∨ 2 = 0 ∨ 1005 - 1000 < 1)) :=
  findAllPatternBounded_inside_iff default .x4 0 (by decide)
    (fun hsig => masksDefined_of_length _ _ _ _ hsig (by decide))
    (Memory.readable_ofBytes 1000 [1, 1, 1, 4, 1]) 2

/-- A match less than a stride before the end: the position returned is past the end. -/
theorem findAllPatternBounded_overshoots :
    (Memory.ofBytes 1000 [1, 1, 1, 4, 1]).Readable 1000 1005 ∧
    findAllPatternBounded default (Memory.ofBytes 1000 [1, 1, 1, 4, 1]) 1000 1005 2
      [.ofByte 1] .x4 0 = .ok (1008, [1000, 1004]) ∧ ¬ 1008 ≤ 1005 :=
  ⟨Memory.readable_ofBytes 1000 [1, 1, 1, 4, 1], by rfl, by decide⟩

end

end Libhat

import Libhat.SegmentScan
import Libhat.Vector

/-!
# The vector scanners

`find_pattern_sse`, `find_pattern_avx2`, `find_pattern_avx512` and
`find_pattern_neon` are one text with a few places that differ: how a block is
turned into a mask, which lane the lowest set bit of the mask stands for, how a
candidate is cleared from it, and how the registers of a whole comparison are
tested for zero.  A `VectorBackend` is a choice for these places, and
`findPatternVector` is the text.

`VectorBackend.Lawful` says what such a choice has to do: the mask holds no lane
whose start is misaligned and every lane that passes the byte filter, and the
loop over the mask takes the lanes in increasing order.  `findPatternVector_ok`
is the result, for every lawful backend.
-/

namespace Libhat

open FirstHit

/-- The places where the vector scanners differ, for vectors of `V` bytes and
masks of `W` bits. -/
structure VectorBackend (V W : Nat) where
  /-- The mask of the block at `it`, from `alignment`, `cmpeq2`, the memory, the
  registers `firstByte` and `secondByte`, `cmpIndex` and `it`. -/
  blockMask : ScanAlignment → Bool → Memory → Vec V → Vec V → Nat → Nat → Exec (BitVec W)
  /-- Whether an empty mask skips the block before its loop is reached. -/
  skipEmpty : Bool
  /-- The lane of the lowest set bit. -/
  lane : BitVec W → Nat
  /-- The mask without that lane. -/
  clear : BitVec W → BitVec W
  /-- Whether `neqBits` and `signatureMask` have no bit in common. -/
  disjoint : Vec V → Vec V → Bool

variable {V W : Nat}

/-- The comparison at a candidate `i`: in registers, or element by element. -/
def compareAt (backend : VectorBackend V W) (veccmp : Bool) (m : Memory) (signature : Signature)
    (signatureBytes signatureMask : Vec V) (i : Nat) : Exec Bool :=
  if veccmp then do
    let data ← Vec.loadu m V i
    let neqBits := data.xor signatureBytes
    return backend.disjoint neqBits signatureMask
  else
    stdEqual m signature i

/-- The body of the loop `while (mask)` over the candidates of the block at `it`. -/
def laneStep (backend : VectorBackend V W) (compare : Nat → Exec Bool) (cmpIndex it : Nat)
    (mask : BitVec W) : Exec (Loop.Step (BitVec W) ScanResult) := do
  if mask = 0#W then
    return .done none
  let i := it + backend.lane mask - cmpIndex
  if ← compare i then
    return .done (some i)
  return .next (backend.clear mask)

/-- The lanes that the loop over `mask` takes, in order. -/
def visitedLanes (backend : VectorBackend V W) (compare : Nat → Exec Bool) (cmpIndex it : Nat)
    (budget : Nat) (mask : BitVec W) : List Nat :=
  ((Loop.heads (laneStep backend compare cmpIndex it) budget mask).filter
    (fun mask => mask ≠ 0#W)).map backend.lane

/-- The code for the block at `it`. -/
def scanBlock (backend : VectorBackend V W) (alignment : ScanAlignment) (cmpeq2 : Bool)
    (m : Memory) (firstByte secondByte : Vec V) (compare : Nat → Exec Bool) (cmpIndex it : Nat) :
    Exec ScanResult := do
  let mask ← backend.blockMask alignment cmpeq2 m firstByte secondByte cmpIndex it
  if backend.skipEmpty && alignment ≠ .x1 && mask = 0#W then
    return none
  Loop.run .budget (laneStep backend compare cmpIndex it) (W + 1) mask

/-- `*context.pairIndex`. -/
def pairIndexValue (context : ScanContext) : Exec Nat :=
  match context.pairIndex with
  | some i => .ok i
  | none => .error .noValue

/-- `signatureBytes` and `signatureMask`, loaded if constexpr `veccmp`. -/
def signatureRegisters (V : Nat) (veccmp : Bool) (signature : Signature) : Exec (Vec V × Vec V) :=
  if veccmp then loadSignature V signature else pure (Vec.set1 0#8, Vec.set1 0#8)

/-- The text of `find_pattern_sse`, `find_pattern_avx2`, `find_pattern_avx512` and
`find_pattern_neon`.  Registers that a specialization leaves unset are zero here. -/
def findPatternVector (backend : VectorBackend V W) (alignment : ScanAlignment)
    (cmpeq2 veccmp : Bool) (m : Memory) (first last : Nat) (context : ScanContext) :
    Exec ScanResult := do
  let signature := context.signature
  let cmpIndex ← if cmpeq2 then pairIndexValue context else pure context.cmpIndex
  let firstByte := Vec.set1 (← elementAt signature cmpIndex).value
  let secondByte ← if cmpeq2 then do
      let e ← elementAt signature (cmpIndex + 1)
      pure (Vec.set1 e.value)
    else pure (Vec.set1 0#8)
  let (signatureBytes, signatureMask) ← signatureRegisters V veccmp signature
  scanSegments V alignment veccmp m first last context cmpIndex
    (scanBlock backend alignment cmpeq2 m firstByte secondByte
      (compareAt backend veccmp m signature signatureBytes signatureMask) cmpIndex)

/-! ### What a backend has to do -/

/-- The laws of a backend whose masks satisfy `Ok` and stand for the sets `lanes`.  A mask
is only promised for the alignments and anchors that are `Defined`. -/
structure VectorBackend.Lawful (backend : VectorBackend V W)
    (Defined : ScanAlignment → Nat → Prop) (Ok : BitVec W → Prop)
    (lanes : BitVec W → Set Nat) : Prop where
  pos : 0 < V
  lanes_zero : lanes 0#W = ∅
  isLeast_lane : ∀ {mask}, Ok mask → mask ≠ 0#W → IsLeast (lanes mask) (backend.lane mask)
  ok_clear : ∀ {mask}, Ok mask → mask ≠ 0#W → Ok (backend.clear mask)
  lanes_clear : ∀ {mask}, Ok mask → mask ≠ 0#W →
    lanes (backend.clear mask) = lanes mask \ {backend.lane mask}
  bits_clear : ∀ {mask}, Ok mask → mask ≠ 0#W →
    BitScan.bits (backend.clear mask) ⊆ BitScan.bits mask \ {mask.ctz.toNat}
  disjoint_iff : ∀ {a b : Vec V}, backend.disjoint a b = true ↔ ∀ i, a i &&& b i = 0#8
  /-- A block that can be read, with one byte behind it, has a mask.  It holds only
  lanes with an aligned start, and every such lane whose bytes pass the filter. -/
  blockMask_ok : ∀ (alignment : ScanAlignment) (cmpeq2 : Bool) {m : Memory} (b₁ b₂ : Byte)
    {cmpIndex it : Nat}, Defined alignment cmpIndex → V ∣ it → cmpIndex ≤ it →
    m.Readable it (it + V + 1) →
    ∃ mask, backend.blockMask alignment cmpeq2 m (Vec.set1 b₁) (Vec.set1 b₂) cmpIndex it
        = .ok mask ∧ Ok mask ∧
      (∀ o ∈ lanes mask, o < V ∧ alignment.toStride ∣ it + o - cmpIndex) ∧
      ∀ o < V, alignment.toStride ∣ it + o - cmpIndex → m (it + o) = some b₁ →
        (cmpeq2 = true → m (it + o + 1) = some b₂) → o ∈ lanes mask

/-! ### Correctness -/

section

variable {backend : VectorBackend V W} {Defined : ScanAlignment → Nat → Prop}
  {Ok : BitVec W → Prop} {lanes : BitVec W → Set Nat} {m : Memory} {context : ScanContext}
  {alignment : ScanAlignment} {first last : Nat}

/-- The bytes that a comparison at `p` reads: a whole vector, or the signature. -/
def compareSize (V : Nat) (veccmp : Bool) (signature : Signature) : Nat :=
  if veccmp then V else signature.length

/-- **Either comparison decides the match** where its bytes are readable. -/
theorem compareAt_ok (hlaw : backend.Lawful Defined Ok lanes) {veccmp : Bool}
    {signature : Signature} {bytes mask : Vec V} {p : Nat}
    (hwide : veccmp = true → signature.length ≤ V)
    (hload : veccmp = true → loadSignature V signature = .ok (bytes, mask))
    (hread : m.Readable p (p + compareSize V veccmp signature)) :
    ∃ b, compareAt backend veccmp m signature bytes mask p = .ok b ∧
      (b = true ↔ MatchesAt m signature p) := by
  unfold compareSize at hread
  unfold compareAt
  by_cases hv : veccmp = true
  · rw [if_pos hv] at hread ⊢
    obtain ⟨data, hdata, hbytes⟩ := Vec.loadu_ok hread
    obtain ⟨bytes', mask', hload', hin, hout⟩ := loadSignature_ok (hwide hv)
    obtain ⟨rfl, rfl⟩ : bytes' = bytes ∧ mask' = mask := by
      have := hload'.symm.trans (hload hv)
      simpa using this
    rw [hdata, ok_bind]
    exact ⟨_, rfl, hlaw.disjoint_iff.trans (xor_and_eq_zero_iff (hwide hv) hbytes hin hout)⟩
  · rw [if_neg hv] at hread ⊢
    exact stdEqual_eq hread

/-- The hits whose anchor sits in a lane of the mask. -/
def laneHits (lanes : BitVec W → Set Nat) (m : Memory) (context : ScanContext)
    (stride first last c it : Nat) (mask : BitVec W) : Set Nat :=
  {p ∈ Hits m context.signature stride first last | ∃ o ∈ lanes mask, p + c = it + o}

/-- **The loop over a mask finds the first hit in its lanes.** -/
theorem laneLoop_ok (hlaw : backend.Lawful Defined Ok lanes) {stride c it : Nat} {mask : BitVec W}
    {compare : Nat → Exec Bool} (hc : c ≤ it) (hok : Ok mask)
    (hlane : ∀ o ∈ lanes mask, stride ∣ it + o - c ∧ first ≤ it + o - c ∧
      it + o - c + context.signature.length ≤ last)
    (hcompare : ∀ o ∈ lanes mask, ∃ b, compare (it + o - c) = .ok b ∧
      (b = true ↔ MatchesAt m context.signature (it + o - c))) :
    ∃ r, Loop.run .budget (laneStep backend compare c it) (W + 1) mask = .ok r ∧
      IsFirst (laneHits lanes m context stride first last c it mask) r := by
  refine run_isFirst (I := fun mask' => Ok mask' ∧ lanes mask' ⊆ lanes mask)
    (laneHits lanes m context stride first last c it) (fun mask' => W - mask'.ctz.toNat) ?_
    ⟨hok, subset_rfl⟩ (by omega)
  intro mask' h
  obtain ⟨hok', hsub⟩ := h
  by_cases hzero : mask' = 0#W
  · refine Or.inl ⟨none, by rw [laneStep, if_pos hzero]; rfl,
      Set.eq_empty_iff_forall_notMem.mpr ?_⟩
    intro p hp
    obtain ⟨_, o, ho, _⟩ := hp
    rw [hzero, hlaw.lanes_zero] at ho
    exact ho
  have hleast := hlaw.isLeast_lane hok' hzero
  generalize hl : backend.lane mask' = l at hleast
  obtain ⟨hdvd, hlo, hhi⟩ := hlane l (hsub hleast.1)
  obtain ⟨b, hb, hiff⟩ := hcompare l (hsub hleast.1)
  simp only [laneStep, if_neg hzero, hl, hb, ok_bind, pure_eq_ok]
  by_cases hbt : b = true
  · refine Or.inl ⟨some (it + l - c), by rw [if_pos hbt], ⟨⟨hlo, hhi, hdvd, hiff.mp hbt⟩, l,
      hleast.1, by omega⟩, ?_⟩
    intro p hp'
    obtain ⟨_, o, ho, hp⟩ := hp'
    have := hleast.2 ho
    omega
  · refine Or.inr ⟨backend.clear mask', by rw [if_neg hbt], ⟨hlaw.ok_clear hok' hzero, ?_⟩, ?_,
      BitScan.ctz_lt_ctz hzero (hlaw.bits_clear hok' hzero)⟩
    · rw [hlaw.lanes_clear hok' hzero]
      exact Set.sdiff_subset.trans hsub
    · ext p
      apply and_congr_right
      intro hp
      rw [hlaw.lanes_clear hok' hzero, hl]
      constructor
      · intro h
        obtain ⟨o, ho, hpo⟩ := h
        exact ⟨o, ho.1, hpo⟩
      · intro h
        obtain ⟨o, ho, hpo⟩ := h
        refine ⟨o, ⟨ho, ?_⟩, hpo⟩
        intro heq
        subst heq
        refine hbt (hiff.mpr ?_)
        rw [show it + o - c = p by omega]
        exact hp.2.2.2

/-- Whether the comparison for lane `o` of the block at `it` succeeds. -/
def accepted (compare : Nat → Exec Bool) (c it o : Nat) : Bool :=
  (compare (it + o - c)).toOption == some true

/-- **The loop over a mask visits its lanes in increasing order**, each once, and
ends at the first one that matches or after the last one. -/
theorem laneLoop_visits (hlaw : backend.Lawful Defined Ok lanes) {c it : Nat}
    {compare : Nat → Exec Bool} :
    ∀ {candidates : List Nat} {budget : Nat} {mask : BitVec W}, W - mask.ctz.toNat < budget →
      Ok mask → Enumerates (lanes mask) candidates →
      (∀ o ∈ candidates, ∃ b, compare (it + o - c) = .ok b) →
      visitedLanes backend compare c it budget mask
          = candidates.take (candidates.findIdx (accepted compare c it) + 1) ∧
        Loop.run .budget (laneStep backend compare c it) budget mask
          = .ok ((candidates.find? (accepted compare c it)).map fun o => it + o - c) := by
  intro candidates
  induction candidates with
  | nil =>
    intro budget mask hm hok hl _
    obtain ⟨budget, rfl⟩ : ∃ b, budget = b + 1 := ⟨budget - 1, by omega⟩
    have hzero : mask = 0#W := by
      by_contra hne
      exact absurd ((hl.2 _).mpr (hlaw.isLeast_lane hok hne).1) List.not_mem_nil
    have hdone : laneStep backend compare c it mask = .ok (.done none) := by
      rw [laneStep, if_pos hzero]
      rfl
    rw [visitedLanes, Loop.heads_done hdone, Loop.run_done hdone]
    exact ⟨by simp [hzero], rfl⟩
  | cons o rest ih =>
    intro budget mask hm hok hl hcmp
    obtain ⟨budget, rfl⟩ : ∃ b, budget = b + 1 := ⟨budget - 1, by omega⟩
    have hne : mask ≠ 0#W := by
      intro hzero
      have ho := hl.isLeast_head.1
      rw [hzero, hlaw.lanes_zero] at ho
      exact ho
    have hlane : backend.lane mask = o := (hlaw.isLeast_lane hok hne).unique hl.isLeast_head
    obtain ⟨b, hb⟩ := hcmp o List.mem_cons_self
    cases b with
    | true =>
      have hacc : accepted compare c it o = true := by
        rw [accepted, hb]
        rfl
      have hdone : laneStep backend compare c it mask = .ok (.done (some (it + o - c))) := by
        simp only [laneStep, if_neg hne, hlane, hb, ok_bind, pure_eq_ok, if_true]
      rw [visitedLanes, Loop.heads_done hdone, Loop.run_done hdone, List.find?_cons_of_pos hacc]
      exact ⟨by simp [hne, hlane, hacc, List.findIdx_cons], rfl⟩
    | false =>
      have hacc : accepted compare c it o = false := by
        rw [accepted, hb]
        rfl
      have hnext : laneStep backend compare c it mask = .ok (.next (backend.clear mask)) := by
        simp only [laneStep, if_neg hne, hlane, hb, ok_bind, pure_eq_ok, Bool.false_eq_true,
          if_false]
      have hlt := BitScan.ctz_lt_ctz hne (hlaw.bits_clear hok hne)
      have hrest : Enumerates (lanes (backend.clear mask)) rest := by
        rw [hlaw.lanes_clear hok hne, hlane]
        exact hl.tail
      obtain ⟨hvisits, hrun⟩ := ih (show _ < budget by omega) (hlaw.ok_clear hok hne) hrest
        fun o' ho' => hcmp o' (List.mem_cons_of_mem o ho')
      rw [visitedLanes, Loop.heads_next hnext, Loop.run_next hnext, hrun,
        List.filter_cons_of_pos (by simpa using hne), List.map_cons, hlane,
        List.find?_cons_of_neg (by simp [hacc])]
      rw [visitedLanes] at hvisits
      exact ⟨by rw [hvisits]; simp [hacc, List.findIdx_cons], rfl⟩

/-- What the anchors of a specialization are: the byte at `c`, and with `cmpeq2`
the byte after it, in place at every match. -/
structure Anchors (context : ScanContext) (cmpeq2 : Bool) (c : Nat) (b₁ b₂ : Byte) : Prop where
  lt : c < context.signature.length
  first : ∀ {m : Memory} {p : Nat}, MatchesAt m context.signature p → m (p + c) = some b₁
  second : cmpeq2 = true → ∀ {m : Memory} {p : Nat}, MatchesAt m context.signature p →
    m (p + c + 1) = some b₂

/-- **The code for a block finds the first hit with its anchor in the block.** -/
theorem scanBlock_ok (hlaw : backend.Lawful Defined Ok lanes) {cmpeq2 veccmp : Bool} {c it : Nat}
    {b₁ b₂ : Byte} {bytes mask : Vec V} (hanchors : Anchors context cmpeq2 c b₁ b₂)
    (hdef : Defined alignment c)
    (hwide : veccmp = true → context.signature.length ≤ V)
    (hload : veccmp = true → loadSignature V context.signature = .ok (bytes, mask))
    (hread : m.Readable first last) (hV : V ∣ it) (hit : first + c ≤ it)
    (hroom : it + V + compareSize V veccmp context.signature ≤ last) :
    ∃ r, scanBlock backend alignment cmpeq2 m (Vec.set1 b₁) (Vec.set1 b₂)
        (compareAt backend veccmp m context.signature bytes mask) c it = .ok r ∧
      IsFirst (anchoredHits m context alignment.toStride first last c it (it + V)) r := by
  have hpos := hlaw.pos
  have hc := hanchors.lt
  have hsize : context.signature.length ≤ compareSize V veccmp context.signature :=
    length_le_compared hwide
  obtain ⟨mask₀, hmask, hok, hsound, hcomplete⟩ := hlaw.blockMask_ok alignment cmpeq2 b₁ b₂ hdef hV
    (show c ≤ it by omega) (hread.mono (by omega) (by omega))
  -- the lanes of the mask hold every hit with its anchor in the block
  have hhits : anchoredHits m context alignment.toStride first last c it (it + V)
      = laneHits lanes m context alignment.toStride first last c it mask₀ := by
    ext p
    refine and_congr_right fun hp => ⟨?_, ?_⟩
    · intro h
      obtain ⟨h1, h2⟩ := h
      refine ⟨p + c - it, hcomplete _ (by omega) ?_ ?_ ?_, by omega⟩
      · rw [show it + (p + c - it) - c = p by omega]
        exact hp.2.2.1
      · rw [show it + (p + c - it) = p + c by omega]
        exact hanchors.first hp.2.2.2
      · intro h2b
        rw [show it + (p + c - it) + 1 = p + c + 1 by omega]
        exact hanchors.second h2b hp.2.2.2
    · intro h
      obtain ⟨o, ho, hpo⟩ := h
      have := (hsound o ho).1
      exact ⟨by omega, by omega⟩
  rw [hhits]
  simp only [scanBlock, hmask, ok_bind, pure_eq_ok]
  by_cases hskip : (backend.skipEmpty && decide (alignment ≠ .x1) && decide (mask₀ = 0#W)) = true
  · rw [if_pos hskip]
    refine ⟨none, rfl, Set.eq_empty_iff_forall_notMem.mpr ?_⟩
    intro p hp
    obtain ⟨_, o, ho, _⟩ := hp
    rw [of_decide_eq_true (Bool.and_eq_true_iff.mp hskip).2, hlaw.lanes_zero] at ho
    exact ho
  · rw [if_neg hskip]
    refine laneLoop_ok hlaw (by omega) hok (fun o ho => ?_) (fun o ho => ?_)
    · obtain ⟨hoV, hdvd⟩ := hsound o ho
      exact ⟨hdvd, by omega, by omega⟩
    · have hoV := (hsound o ho).1
      exact compareAt_ok hlaw hwide hload (hread.mono (by omega) (by omega))

/-- The registers of a signature can be loaded where `veccmp` asks for them. -/
theorem signatureRegisters_ok {veccmp : Bool} {signature : Signature}
    (hwide : veccmp = true → signature.length ≤ V) :
    ∃ bytes mask, signatureRegisters V veccmp signature = .ok (bytes, mask) ∧
      (veccmp = true → loadSignature V signature = .ok (bytes, mask)) := by
  unfold signatureRegisters
  by_cases hv : veccmp = true
  · obtain ⟨bytes, mask, hl, _⟩ := loadSignature_ok (hwide hv)
    exact ⟨bytes, mask, by rw [if_pos hv, hl], fun _ => hl⟩
  · exact ⟨Vec.set1 0#8, Vec.set1 0#8, by rw [if_neg hv]; rfl, fun h => absurd h hv⟩

/-- **What a vector scanner is**: the frame, around the code for a block with the context's
anchors in two registers and the signature in two others. -/
theorem findPatternVector_eq (backend : VectorBackend V W) (alignment : ScanAlignment)
    {cmpeq2 veccmp : Bool} (m : Memory) (first last : Nat) (hctx : context.Anchored)
    (hpair : cmpeq2 = context.pairIndex.isSome)
    (hwide : veccmp = true → context.signature.length ≤ V) :
    ∃ b₁ b₂ bytes mask, Anchors context cmpeq2 context.anchor b₁ b₂ ∧
      (veccmp = true → loadSignature V context.signature = .ok (bytes, mask)) ∧
      findPatternVector backend alignment cmpeq2 veccmp m first last context
        = scanSegments V alignment veccmp m first last context context.anchor
          (scanBlock backend alignment cmpeq2 m (Vec.set1 b₁) (Vec.set1 b₂)
            (compareAt backend veccmp m context.signature bytes mask) context.anchor) := by
  obtain ⟨bytes, mask, hregs, hload⟩ := signatureRegisters_ok hwide
  subst hpair
  cases hi : context.pairIndex with
  | some i =>
    obtain ⟨h1, h2⟩ := hctx.pair i hi
    obtain ⟨e₁, he₁, hm₁⟩ := h1.eq_of_matchesAt
    obtain ⟨e₂, he₂, hm₂⟩ := h2.eq_of_matchesAt
    have hanchor : context.anchor = i := by rw [ScanContext.anchor, hi, Option.getD_some]
    refine ⟨e₁.value, e₂.value, bytes, mask, ?_, hload, ?_⟩
    · rw [hanchor]
      exact ⟨h1.lt, hm₁, fun _ => hm₂⟩
    · simp only [findPatternVector, Option.isSome_some, if_true, pairIndexValue, hi, he₁, he₂,
        ok_bind, pure_eq_ok, hregs, hanchor]
  | none =>
    obtain ⟨e, he, hm⟩ := hctx.cmp.eq_of_matchesAt
    have hanchor : context.anchor = context.cmpIndex := by
      rw [ScanContext.anchor, hi, Option.getD_none]
    refine ⟨e.value, 0#8, bytes, mask, ?_, hload, ?_⟩
    · rw [hanchor]
      exact ⟨hctx.cmp.lt, hm, fun h => by cases h⟩
    · simp only [findPatternVector, Option.isSome_none, Bool.false_eq_true, if_false, he, ok_bind,
        pure_eq_ok, hregs, hanchor]

/-- **Every lawful vector backend finds the first hit**, if the masks are defined or no block is
reached.  `cmpeq2` is set when the context has a pair index, and `veccmp` may be set when the
signature fits a vector. -/
theorem findPatternVector_ok (hlaw : backend.Lawful Defined Ok lanes) {cmpeq2 veccmp : Bool}
    (hctx : context.Anchored) (hpair : cmpeq2 = context.pairIndex.isSome)
    (hwide : veccmp = true → context.signature.length ≤ V)
    (hdef : BlockReached V veccmp m first last context.signature alignment context.anchor →
      Defined alignment context.anchor)
    (hread : m.Readable first last) :
    ∃ r, findPatternVector backend alignment cmpeq2 veccmp m first last context = .ok r ∧
      IsFirst (Hits m context.signature alignment.toStride first last) r := by
  obtain ⟨b₁, b₂, bytes, mask, hanchors, hload, heq⟩ :=
    findPatternVector_eq backend alignment m first last hctx hpair hwide
  rw [heq]
  refine scanSegments_ok hlaw.pos hctx hwide hread fun hreached it hV hit hroom => ?_
  exact scanBlock_ok hlaw hanchors (hdef hreached) hwide hload hread hV hit hroom

/-- **A mask that faults ends the scan**, if a block is reached. -/
theorem findPatternVector_fault {cmpeq2 veccmp : Bool} {fault : Fault} (hpos : 0 < V)
    (hctx : context.Anchored) (hpair : cmpeq2 = context.pairIndex.isSome)
    (hwide : veccmp = true → context.signature.length ≤ V)
    (hmask : ∀ firstByte secondByte it, m.Readable it (it + V + 1) →
      backend.blockMask alignment cmpeq2 m firstByte secondByte context.anchor it = .error fault)
    (hreached : BlockReached V veccmp m first last context.signature alignment context.anchor)
    (hread : m.Readable first last) :
    findPatternVector backend alignment cmpeq2 veccmp m first last context = .error fault := by
  obtain ⟨b₁, b₂, bytes, mask, hanchors, _, heq⟩ :=
    findPatternVector_eq backend alignment m first last hctx hpair hwide
  rw [heq]
  refine scanSegments_fault hpos hctx hwide hread hreached fun it _ hit hroom => ?_
  have hc := hanchors.lt
  have hsize := length_le_compared hwide
  rw [scanBlock, hmask _ _ it (hread.mono (by omega) (by omega))]
  rfl

end

end Libhat

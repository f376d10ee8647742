import Libhat.SingleScan

/-!
# Segments

A vector backend cuts its range in three: `segment_scan` rounds the first anchor
up to a whole vector, counts the vectors that leave enough bytes behind them,
and hands what lies before and after them to the scalar scanner.  The parts
overlap, since a match may begin in one and end in the next.

`scanSegments` is the frame that every vector backend has around its own code
for one block, and `scanSegments_ok` says that the frame finds the first hit if
the block code finds the first hit among the starts whose anchor is in the
block.
-/

namespace Libhat

open FirstHit

/-- A `std::span`: of bytes, or of vectors. -/
structure Span where
  data : Nat
  size : Nat
deriving DecidableEq

def Span.empty : Span := ⟨0, 0⟩

/-- The tuple that `segment_scan` returns. -/
structure Segments where
  pre : Span
  vec : Span
  post : Span

/-- The lambda `validateRange`. -/
def validateRange (signatureSize b e : Nat) : Span :=
  if b ≤ e ∧ e - b ≥ signatureSize then ⟨b, e - b⟩ else .empty

/-- The number of vectors between `vecBegin` and `vecEnd`. -/
def vecCount (V : Nat) (veccmp : Bool) (vecBegin last signatureSize : Nat) : Nat :=
  let vecAvailable := last - vecBegin
  let requiredAfter := if veccmp then V else signatureSize
  if vecAvailable ≥ requiredAfter then (vecAvailable - requiredAfter) / V else 0

/-- `segment_scan<Vector, V, veccmp>`. -/
def segmentScan (V : Nat) (veccmp : Bool) (first last signatureSize cmpOffset : Nat) :
    Segments :=
  let vecBegin := alignUp V (first + cmpOffset)
  if vecBegin > last then
    ⟨validateRange signatureSize first last, .empty, .empty⟩
  else
    let count := vecCount V veccmp vecBegin last signatureSize
    let vecEnd := vecBegin + V * count
    -- If the scan can't be vectorized, just do the single byte scanner "pre" part
    if vecBegin = vecEnd then
      ⟨validateRange signatureSize first last, .empty, .empty⟩
    else
      let preEnd := vecBegin - cmpOffset + signatureSize
      let postBegin := vecEnd - cmpOffset
      ⟨validateRange signatureSize first preEnd, ⟨vecBegin, count⟩,
        validateRange signatureSize postBegin last⟩

/-- The scalar scanner on a segment, if there is one. -/
def scanSpan (alignment : ScanAlignment) (m : Memory) (span : Span) (context : ScanContext) :
    Exec ScanResult :=
  if span.size ≠ 0 then
    findPatternSingle alignment m span.data (span.data + span.size) context
  else
    pure none

/-- The `n` bytes at `s` lie within the span. -/
def Span.Holds (span : Span) (s n : Nat) : Prop :=
  span.data ≤ s ∧ s + n ≤ span.data + span.size

/-- A scalar segment of `[first, last)`: dropped, or inside it and long enough for a match. -/
def Span.IsSegment (span : Span) (first last signatureSize : Nat) : Prop :=
  span.size = 0 ∨
    (first ≤ span.data ∧ span.data + span.size ≤ last ∧ signatureSize ≤ span.size)

/-- What the scanners need of the three parts: no start in `[first, last)` is lost,
and the parts come in the order of their starts. -/
structure Segments.Splits (segments : Segments) (V first last signatureSize c : Nat) : Prop where
  pre_segment : segments.pre.IsSegment first last signatureSize
  post_segment : segments.post.IsSegment first last signatureSize
  aligned : V ∣ segments.vec.data
  cover : ∀ s, first ≤ s → s + signatureSize ≤ last →
    segments.pre.Holds s signatureSize ∨
      (segments.vec.data ≤ s + c ∧ s + c < segments.vec.data + V * segments.vec.size) ∨
      segments.post.Holds s signatureSize
  pre_le : segments.vec.size ≠ 0 →
    ∀ s, segments.pre.Holds s signatureSize → s + c ≤ segments.vec.data
  lt_post : ∀ a, segments.vec.data ≤ a → a < segments.vec.data + V * segments.vec.size →
    ∀ s, segments.post.Holds s signatureSize → a < s + c

/-- The body of the loop over the vectors, `block` being the code for one. -/
def blockStep (V vecEnd : Nat) (block : Nat → Exec ScanResult) (it : Nat) :
    Exec (Loop.Step Nat ScanResult) := do
  if it = vecEnd then
    return .done none
  match ← block it with
  | some i => return .done (some i)
  | none => return .next (it + V)

/-- What the vector backends share: the scalar prefix, the vectors, the scalar suffix. -/
def scanSegments (V : Nat) (alignment : ScanAlignment) (veccmp : Bool) (m : Memory)
    (first last : Nat) (context : ScanContext) (cmpIndex : Nat)
    (block : Nat → Exec ScanResult) : Exec ScanResult := do
  let ⟨pre, vec, post⟩ := segmentScan V veccmp first last context.signature.length cmpIndex
  let result ← scanSpan alignment m pre context
  if result.isSome then
    return result
  let result ← Loop.run .budget (blockStep V (vec.data + V * vec.size) block) (vec.size + 1)
    vec.data
  if result.isSome then
    return result
  scanSpan alignment m post context

/-! ### Correctness -/

section

variable {m : Memory} {context : ScanContext} {alignment : ScanAlignment} {first last : Nat}

/-- A range too short for the signature is dropped, and has no hit. -/
theorem scanSpan_validateRange_ok (alignment : ScanAlignment) (hctx : context.Anchored)
    (hread : m.Readable first last) :
    ∃ r, scanSpan alignment m (validateRange context.signature.length first last) context = .ok r ∧
      IsFirst (Hits m context.signature alignment.toStride first last) r := by
  have hpos : 0 < context.signature.length := Nat.zero_lt_of_lt hctx.cmp.lt
  by_cases hvalid : first ≤ last ∧ last - first ≥ context.signature.length
  · rw [validateRange, if_pos hvalid, scanSpan, if_pos (show last - first ≠ 0 by omega)]
    simp only [Nat.add_sub_cancel' hvalid.1]
    exact findPatternSingle_ok alignment hctx (by omega) hread
  · rw [validateRange, if_neg hvalid]
    refine ⟨none, rfl, Set.eq_empty_iff_forall_notMem.mpr ?_⟩
    intro p hp
    obtain ⟨h1, h2, _⟩ := hp
    omega

/-- The hits whose anchor `c` lies in `[lo, hi)`. -/
def anchoredHits (m : Memory) (context : ScanContext) (stride first last c lo hi : Nat) : Set Nat :=
  {p ∈ Hits m context.signature stride first last | lo ≤ p + c ∧ p + c < hi}

/-- **The loop over the vectors** finds the first hit with its anchor in one of
them, if the code for a block does so for the block. -/
theorem blockLoop_ok {V c vecBegin count : Nat} {stride : Nat} {block : Nat → Exec ScanResult}
    (hV : 0 < V)
    (hblock : ∀ k < count, ∃ r, block (vecBegin + V * k) = .ok r ∧
      IsFirst (anchoredHits m context stride first last c
        (vecBegin + V * k) (vecBegin + V * k + V)) r) :
    ∃ r, Loop.run .budget (blockStep V (vecBegin + V * count) block) (count + 1) vecBegin = .ok r ∧
      IsFirst (anchoredHits m context stride first last c vecBegin (vecBegin + V * count)) r := by
  refine run_isFirst (I := fun it => ∃ k ≤ count, it = vecBegin + V * k)
    (fun it => anchoredHits m context stride first last c it (vecBegin + V * count))
    (fun it => (vecBegin + V * count - it) / V) ?_ ⟨0, by omega, by simp⟩ ?_
  · intro it hit
    obtain ⟨k, hk, rfl⟩ := hit
    by_cases hend : vecBegin + V * k = vecBegin + V * count
    · refine Or.inl ⟨none, by rw [blockStep, if_pos hend]; rfl,
        Set.eq_empty_iff_forall_notMem.mpr ?_⟩
      intro p hp
      obtain ⟨_, h1, h2⟩ := hp
      omega
    have hlt : k < count := Nat.lt_of_le_of_ne hk fun he => hend (by rw [he])
    have hstep : V * k + V ≤ V * count := by
      rw [← Nat.mul_succ]
      exact Nat.mul_le_mul_left V hlt
    obtain ⟨r, hr, hfirst⟩ := hblock k hlt
    simp only [blockStep, if_neg hend, hr, ok_bind]
    cases r with
    | some p =>
      obtain ⟨⟨hp, h1, h2⟩, hleast⟩ := isFirst_some.mp hfirst
      refine Or.inl ⟨some p, rfl, ⟨hp, h1, by omega⟩, ?_⟩
      intro q hq'
      obtain ⟨hq, h3, h4⟩ := hq'
      by_contra hqp
      exact hqp (hleast ⟨hq, h3, by omega⟩)
    | none =>
      refine Or.inr ⟨_, rfl, ⟨k + 1, hlt, by rw [Nat.mul_succ]; omega⟩, ?_, ?_⟩
      · ext q
        refine and_congr_right fun hq => ⟨fun h => ⟨by omega, h.2⟩, fun h => ⟨?_, h.2⟩⟩
        by_contra hlow
        have : q ∈ anchoredHits m context stride first last c (vecBegin + V * k)
            (vecBegin + V * k + V) := ⟨hq, h.1, by omega⟩
        rw [isFirst_none.mp hfirst] at this
        exact this
      · rw [Nat.add_sub_add_left, ← Nat.mul_sub, Nat.mul_div_cancel_left _ hV,
          show vecBegin + V * count - (vecBegin + V * k + V) = V * (count - (k + 1)) by
            rw [Nat.mul_sub, Nat.mul_succ]; omega, Nat.mul_div_cancel_left _ hV]
        omega
  · rw [Nat.add_sub_cancel_left, Nat.mul_div_cancel_left _ hV]
    omega

/-- The vectors counted leave `requiredAfter` bytes behind them. -/
theorem vecCount_le {V : Nat} (last vecBegin signatureSize : Nat) (veccmp : Bool) (hV : 0 < V)
    (hpos : 0 < vecCount V veccmp vecBegin last signatureSize) :
    vecBegin + V * vecCount V veccmp vecBegin last signatureSize
      + (if veccmp then V else signatureSize) ≤ last := by
  unfold vecCount at hpos ⊢
  by_cases h : last - vecBegin ≥ if veccmp = true then V else signatureSize
  · rw [if_pos h] at hpos ⊢
    have hmul := Nat.mul_div_le (last - vecBegin - if veccmp = true then V else signatureSize) V
    have hone := Nat.mul_le_mul_left V hpos
    omega
  · rw [if_neg h] at hpos
    omega

/-- The scalar fallback: one segment, the whole range. -/
theorem scanSegments_fallback {V c : Nat} {veccmp : Bool} {block : Nat → Exec ScanResult}
    (hctx : context.Anchored) (hread : m.Readable first last)
    (hseg : segmentScan V veccmp first last context.signature.length c
      = ⟨validateRange context.signature.length first last, .empty, .empty⟩) :
    ∃ r, scanSegments V alignment veccmp m first last context c block = .ok r ∧
      IsFirst (Hits m context.signature alignment.toStride first last) r := by
  obtain ⟨r, hr, hfirst⟩ := scanSpan_validateRange_ok alignment hctx hread
  refine ⟨r, ?_, hfirst⟩
  simp only [scanSegments, hseg, hr, ok_bind]
  cases r with
  | some p => rfl
  | none => rfl

/-- A comparison reads at least the signature. -/
theorem length_le_compared {V size : Nat} {veccmp : Bool} (hwide : veccmp = true → size ≤ V) :
    size ≤ if veccmp then V else size := by
  split
  case isTrue h => exact hwide h
  case isFalse => exact le_rfl

/-- **What `segment_scan` can return**: the whole range for the scalar scanner, or three parts,
the vectors being aligned and leaving as many bytes behind them as a comparison reads. -/
theorem segmentScan_cases {V c signatureSize : Nat} {veccmp : Bool} (first last : Nat)
    (hV : 0 < V) :
    segmentScan V veccmp first last signatureSize c
        = ⟨validateRange signatureSize first last, .empty, .empty⟩ ∨
      ∃ vecBegin count, V ∣ vecBegin ∧ first + c ≤ vecBegin ∧
        vecBegin + V * count + (if veccmp then V else signatureSize) ≤ last ∧
        segmentScan V veccmp first last signatureSize c
          = ⟨validateRange signatureSize first (vecBegin - c + signatureSize), ⟨vecBegin, count⟩,
              validateRange signatureSize (vecBegin + V * count - c) last⟩ := by
  by_cases hpast : alignUp V (first + c) > last
  · left
    simp only [segmentScan, if_pos hpast]
  by_cases hnone : vecCount V veccmp (alignUp V (first + c)) last signatureSize = 0
  · left
    simp only [segmentScan, if_neg hpast, hnone, Nat.mul_zero, Nat.add_zero, if_true]
  right
  have hne : V * vecCount V veccmp (alignUp V (first + c)) last signatureSize ≠ 0 :=
    Nat.mul_ne_zero (by omega) hnone
  refine ⟨alignUp V (first + c), vecCount V veccmp (alignUp V (first + c)) last signatureSize,
    dvd_alignUp hV (first + c), le_alignUp V (first + c),
    vecCount_le last (alignUp V (first + c)) signatureSize veccmp hV (by omega), ?_⟩
  simp only [segmentScan, if_neg hpast]
  rw [if_neg (by omega)]

theorem validateRange_isSegment {signatureSize b e : Nat} (hb : first ≤ b) (he : e ≤ last) :
    (validateRange signatureSize b e).IsSegment first last signatureSize := by
  by_cases h : b ≤ e ∧ e - b ≥ signatureSize
  · rw [validateRange, if_pos h]
    exact Or.inr ⟨hb, by dsimp only; omega, h.2⟩
  · rw [validateRange, if_neg h]
    exact Or.inl rfl

/-- Dropping a range that is too short loses no start. -/
theorem validateRange_holds {signatureSize b e s : Nat} (hpos : 0 < signatureSize) :
    (validateRange signatureSize b e).Holds s signatureSize ↔ b ≤ s ∧ s + signatureSize ≤ e := by
  by_cases h : b ≤ e ∧ e - b ≥ signatureSize
  · rw [validateRange, if_pos h, Span.Holds]
    dsimp only
    omega
  · rw [validateRange, if_neg h, Span.Holds, Span.empty]
    dsimp only
    omega

/-- One scalar segment, the whole range, splits it. -/
theorem splits_fallback {V signatureSize c : Nat} (hpos : 0 < signatureSize) :
    Segments.Splits ⟨validateRange signatureSize first last, .empty, .empty⟩
      V first last signatureSize c where
  pre_segment := validateRange_isSegment le_rfl le_rfl
  post_segment := Or.inl rfl
  aligned := Nat.dvd_zero V
  cover := fun _ h1 h2 => Or.inl ((validateRange_holds hpos).mpr ⟨h1, h2⟩)
  pre_le := fun h => absurd rfl h
  lt_post := fun a _ h => absurd h (by simp [Span.empty])

/-- **`segment_scan` splits its range**: whatever the alignment of the buffer, the
rounding and the slack left for a comparison, no start is lost between the parts. -/
theorem segmentScan_splits {V c signatureSize : Nat} {veccmp : Bool} (hV : 0 < V)
    (hc : c < signatureSize) (hwide : veccmp = true → signatureSize ≤ V) :
    (segmentScan V veccmp first last signatureSize c).Splits V first last signatureSize c := by
  have hpos : 0 < signatureSize := Nat.zero_lt_of_lt hc
  rcases segmentScan_cases first last hV with hseg | ⟨vecBegin, count, hvd, hvb, hcount, hseg⟩
  · rw [hseg]
    exact splits_fallback hpos
  rw [hseg]
  have hroom := length_le_compared hwide
  have hfits : vecBegin + V * count + signatureSize ≤ last := by omega
  refine ⟨validateRange_isSegment le_rfl (by omega), validateRange_isSegment (by omega) le_rfl,
    hvd, ?_, ?_, ?_⟩
  · intro s h1 h2
    -- the anchor of `s` lies before the vectors, in them, or past them
    by_cases hlow : s + c < vecBegin
    · exact Or.inl ((validateRange_holds hpos).mpr ⟨h1, by omega⟩)
    by_cases hmid : s + c < vecBegin + V * count
    · exact Or.inr (Or.inl ⟨Nat.le_of_not_lt hlow, hmid⟩)
    · exact Or.inr (Or.inr ((validateRange_holds hpos).mpr ⟨by omega, h2⟩))
  · intro _ s hs
    obtain ⟨_, h⟩ := (validateRange_holds hpos).mp hs
    dsimp only
    omega
  · intro a ha hlt s hs
    obtain ⟨h, _⟩ := (validateRange_holds hpos).mp hs
    dsimp only at ha hlt
    omega

theorem segmentScan_splits_sse :
    (segmentScan 16 true 1003 1100 5 2).vec = ⟨1008, 4⟩ ∧
      (segmentScan 16 true 1003 1100 5 2).Splits 16 1003 1100 5 2 :=
  ⟨by decide, segmentScan_splits (by decide) (by decide) (fun _ => by decide)⟩

/-- The hits by the place of their anchors: before the vectors, in them, and past them. -/
theorem hits_cover {c lo hi : Nat} (hlo : first + c ≤ lo) (hle : lo ≤ hi)
    (hfits : hi + context.signature.length ≤ last) :
    Hits m context.signature alignment.toStride first last
      = Hits m context.signature alignment.toStride first (lo - c + context.signature.length)
        ∪ (anchoredHits m context alignment.toStride first last c lo hi
          ∪ Hits m context.signature alignment.toStride (hi - c) last) := by
  ext p
  constructor
  · intro h
    obtain ⟨h1, h2, h3, h4⟩ := h
    by_cases hlow : p + c < lo
    · exact Or.inl ⟨h1, by omega, h3, h4⟩
    · by_cases hmid : p + c < hi
      · exact Or.inr (Or.inl ⟨⟨h1, h2, h3, h4⟩, by omega, hmid⟩)
      · exact Or.inr (Or.inr ⟨by omega, h2, h3, h4⟩)
  · intro h'
    rcases h' with ⟨h1, h2, h3, h4⟩ | ⟨h, _, _⟩ | ⟨h1, h2, h3, h4⟩
    · exact ⟨h1, by omega, h3, h4⟩
    · exact h
    · exact ⟨by omega, h2, h3, h4⟩

/-- The scan takes a vector: there is one, and no hit lies in the prefix. -/
def BlockReached (V : Nat) (veccmp : Bool) (m : Memory) (first last : Nat) (signature : Signature)
    (alignment : ScanAlignment) (cmpIndex : Nat) : Prop :=
  (segmentScan V veccmp first last signature.length cmpIndex).vec.size ≠ 0 ∧
    ∀ p, (segmentScan V veccmp first last signature.length cmpIndex).pre.Holds p signature.length →
      alignment.toStride ∣ p → ¬ MatchesAt m signature p

/-- What is reached when the prefix has been scanned in vain. -/
theorem blockReached_of_prefix {V c vecBegin count : Nat} {veccmp : Bool} {post : Span}
    (hpos : 0 < context.signature.length) (hcount : count ≠ 0)
    (hseg : segmentScan V veccmp first last context.signature.length c
      = ⟨validateRange context.signature.length first (vecBegin - c + context.signature.length),
          ⟨vecBegin, count⟩, post⟩)
    (hnone : Hits m context.signature alignment.toStride first
      (vecBegin - c + context.signature.length) = ∅) :
    BlockReached V veccmp m first last context.signature alignment c := by
  rw [BlockReached, hseg]
  refine ⟨hcount, fun p hp hdvd hmatch => ?_⟩
  obtain ⟨h1, h2⟩ := (validateRange_holds hpos).mp hp
  exact Set.eq_empty_iff_forall_notMem.mp hnone p ⟨h1, h2, hdvd, hmatch⟩

/-- A block is only reached in a range with room for the signature. -/
theorem BlockReached.room {V c : Nat} {veccmp : Bool} {signature : Signature}
    (h : BlockReached V veccmp m first last signature alignment c) (hV : 0 < V)
    (hwide : veccmp = true → signature.length ≤ V) : first + signature.length ≤ last := by
  obtain ⟨hsize, _⟩ := h
  rcases segmentScan_cases first last hV with hseg | ⟨vecBegin, count, _, hvb, hcount, hseg⟩
  · rw [hseg] at hsize
    exact absurd rfl hsize
  · have hroom := length_le_compared hwide
    omega

/-- Whether a block is reached depends on no byte outside of the range. -/
theorem blockReached_restrict {V c : Nat} {veccmp : Bool} {signature : Signature} (hV : 0 < V)
    (hpos : 0 < signature.length) (hwide : veccmp = true → signature.length ≤ V) :
    BlockReached V veccmp (m.restrict first last) first last signature alignment c
      ↔ BlockReached V veccmp m first last signature alignment c := by
  refine and_congr_right fun hsize => forall₂_congr fun p hp => ?_
  rcases segmentScan_cases first last hV with hseg | ⟨vecBegin, count, _, hvb, hcount, hseg⟩
  · rw [hseg] at hsize
    exact absurd rfl hsize
  · have hroom := length_le_compared hwide
    rw [hseg] at hp
    obtain ⟨h1, h2⟩ := (validateRange_holds hpos).mp hp
    rw [matchesAt_restrict h1 (by omega)]

/-- **The frame of the vector backends finds the first hit.**  The code for one
block is only asked if a block is reached, and only about blocks whose vector is aligned
and that have a start in range for every lane, with as many bytes behind them as a
comparison reads. -/
theorem scanSegments_ok {V c : Nat} {veccmp : Bool} {block : Nat → Exec ScanResult} (hV : 0 < V)
    (hctx : context.Anchored)
    (hwide : veccmp = true → context.signature.length ≤ V) (hread : m.Readable first last)
    (hblock : BlockReached V veccmp m first last context.signature alignment c →
      ∀ it, V ∣ it → first + c ≤ it →
      it + V + (if veccmp then V else context.signature.length) ≤ last →
      ∃ r, block it = .ok r ∧
        IsFirst (anchoredHits m context alignment.toStride first last c it (it + V)) r) :
    ∃ r, scanSegments V alignment veccmp m first last context c block = .ok r ∧
      IsFirst (Hits m context.signature alignment.toStride first last) r := by
  rcases segmentScan_cases first last hV with hseg | ⟨vecBegin, count, hvd, hvb, hcount, hseg⟩
  · exact scanSegments_fallback hctx hread hseg
  have hpos : 0 < context.signature.length := Nat.zero_lt_of_lt hctx.cmp.lt
  have hroom := length_le_compared hwide
  have hfits : vecBegin + V * count + context.signature.length ≤ last := by omega
  have hread₁ : m.Readable first (vecBegin - c + context.signature.length) :=
    hread.mono le_rfl (by omega)
  have hread₃ : m.Readable (vecBegin + V * count - c) last := hread.mono (by omega) le_rfl
  obtain ⟨r₁, hr₁, hfirst₁⟩ := scanSpan_validateRange_ok alignment hctx hread₁
  have hblocks : r₁ = none → ∀ k < count, ∃ r, block (vecBegin + V * k) = .ok r ∧
      IsFirst (anchoredHits m context alignment.toStride first last c
        (vecBegin + V * k) (vecBegin + V * k + V)) r := by
    intro hnone k hk
    have hk' := Nat.mul_le_mul_left V (Nat.succ_le_of_lt hk)
    rw [Nat.mul_succ] at hk'
    have hreached := blockReached_of_prefix hpos (by omega) hseg
      (isFirst_none.mp (hnone ▸ hfirst₁))
    exact hblock hreached _ (Nat.dvd_add hvd (Nat.dvd_mul_right V k)) (by omega) (by omega)
  have hmiddle : r₁ = none → ∃ r₂,
      Loop.run .budget (blockStep V (vecBegin + V * count) block) (count + 1) vecBegin = .ok r₂ ∧
      IsFirst (anchoredHits m context alignment.toStride first last c vecBegin
        (vecBegin + V * count)) r₂ := fun hnone => blockLoop_ok hV (hblocks hnone)
  obtain ⟨r₃, hr₃, hfirst₃⟩ := scanSpan_validateRange_ok alignment hctx hread₃
  have hend : vecBegin ≤ vecBegin + V * count := Nat.le_add_right _ _
  obtain ⟨r, hrun, hfirst⟩ : ∃ r, scanSegments V alignment veccmp m first last context c block
        = .ok (r₁ <|> r) ∧ (r₁ = none →
      IsFirst (anchoredHits m context alignment.toStride first last c vecBegin
          (vecBegin + V * count)
        ∪ Hits m context.signature alignment.toStride (vecBegin + V * count - c) last) r) := by
    simp only [scanSegments, hseg, hr₁, ok_bind]
    cases r₁ with
    | some p => exact ⟨none, rfl, fun h => by cases h⟩
    | none =>
      obtain ⟨r₂, hr₂, hfirst₂⟩ := hmiddle rfl
      refine ⟨r₂ <|> r₃, ?_, fun _ => hfirst₂.orElse (fun _ => hfirst₃) ?_⟩
      · rw [hr₂, ok_bind]
        cases r₂ with
        | some p => rfl
        | none => exact hr₃
      · intro p hp q hq
        obtain ⟨_, _, h⟩ := hp
        obtain ⟨h', _⟩ := hq
        omega
  refine ⟨r₁ <|> r, hrun, ?_⟩
  rw [hits_cover hvb hend hfits]
  refine hfirst₁.orElse hfirst ?_
  intro p hp q hq
  obtain ⟨_, h2, _⟩ := hp
  rcases hq with ⟨_, h', _⟩ | ⟨h', _⟩ <;> omega

/-- **A block that faults ends the frame**, if one is reached. -/
theorem scanSegments_fault {V c : Nat} {veccmp : Bool} {block : Nat → Exec ScanResult}
    {fault : Fault} (hV : 0 < V) (hctx : context.Anchored)
    (hwide : veccmp = true → context.signature.length ≤ V) (hread : m.Readable first last)
    (hreached : BlockReached V veccmp m first last context.signature alignment c)
    (hblock : ∀ it, V ∣ it → first + c ≤ it →
      it + V + (if veccmp then V else context.signature.length) ≤ last →
      block it = .error fault) :
    scanSegments V alignment veccmp m first last context c block = .error fault := by
  obtain ⟨hsize, hpre⟩ := hreached
  rcases segmentScan_cases first last hV with hseg | ⟨vecBegin, count, hvd, hvb, hcount, hseg⟩
  · rw [hseg] at hsize
    exact absurd rfl hsize
  rw [hseg] at hsize hpre
  have hpos : 0 < context.signature.length := Nat.zero_lt_of_lt hctx.cmp.lt
  have hroom := length_le_compared hwide
  have hVcount : V ≤ V * count := Nat.le_mul_of_pos_right V (Nat.pos_of_ne_zero hsize)
  have hread₁ : m.Readable first (vecBegin - c + context.signature.length) :=
    hread.mono le_rfl (by omega)
  obtain ⟨r₁, hr₁, hfirst₁⟩ := scanSpan_validateRange_ok alignment hctx hread₁
  have hnone : r₁ = none := by
    cases r₁ with
    | none => rfl
    | some p =>
      obtain ⟨h1, h2, hdvd, hmatch⟩ := (isFirst_some.mp hfirst₁).1
      exact absurd hmatch (hpre p ((validateRange_holds hpos).mpr ⟨h1, h2⟩) hdvd)
  have hstep : blockStep V (vecBegin + V * count) block vecBegin = .error fault := by
    rw [blockStep, if_neg (by omega), hblock vecBegin hvd hvb (by omega)]
    rfl
  simp only [scanSegments, hseg, hr₁, hnone, ok_bind]
  rw [Loop.run, hstep]
  rfl

end

end Libhat

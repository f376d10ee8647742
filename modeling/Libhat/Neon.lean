import Libhat.VectorScan

/-!
# The Neon backend

A Neon comparison leaves a byte per lane, and a narrowing shift packs it into a
nibble per lane: `narrowMask` is that 64 bit mask, `lane` is the trailing zero
count over four, and the exclusive or with `0xF << offset` clears the lane.  The
second byte of a pair comes from a load one byte further on, so no lane is let
through, but the load needs a byte behind the block.

The alignment mask is rotated by four times the anchor, as an `int`: the mask of
a block is `Defined` when that product is one.

`neon_lawful` is the backend's side of `findPatternVector_ok`, and
`blockMask_visits` says which lanes the loop over a mask takes.
-/

namespace Libhat

open FirstHit

namespace Neon

/-- `vreinterpretq_u16_u8`: the low byte comes first. -/
def reinterpretU16 (a : Vec 16) : Fin 8 → BitVec 16 :=
  fun k => a ⟨2 * k + 1, by omega⟩ ++ a ⟨2 * k, by omega⟩

/-- `vshrn_n_u16`. -/
def shrnU16 (a : Fin 8 → BitVec 16) (n : Nat) : Vec 8 := fun k => (a k >>> n).truncate 8

/-- Lane 0 of `vreinterpret_u64_u8`. -/
def reinterpretU64 (a : Vec 8) : BitVec 64 :=
  maskOf fun i => (a ⟨i / 8, by omega⟩).getLsbD (i % 8)

/-- A nibble for every byte of a comparison. -/
def narrowMask (cmp : Vec 16) : BitVec 64 := reinterpretU64 (shrnU16 (reinterpretU16 cmp) 4)

/-- `create_alignment_mask_neon`: a nibble for every `i` of the loop
`for (i = 0; i < 16; i += stride)`. -/
def createAlignmentMaskNeon (stride : Nat) : BitVec 64 :=
  (List.range ((16 + stride - 1) / stride)).foldl
    (fun mask k => mask ||| (0xF#64 <<< (k * stride * 4))) 0#64

/-- `static_cast<int>(cmpIndex) * 4`: the product has to be an `int`. -/
def rotation (cmpIndex : Nat) : Exec Int :=
  let product := toInt32 cmpIndex * 4
  if -2 ^ 31 ≤ product ∧ product < 2 ^ 31 then .ok product else .error .overflow

/-- The mask that the Neon scanner computes for the block at `it`. -/
def blockMask (alignment : ScanAlignment) (cmpeq2 : Bool) (m : Memory)
    (firstByte secondByte : Vec 16) (cmpIndex it : Nat) : Exec (BitVec 64) := do
  let mut cmp := firstByte.cmpeq (← Vec.loadu m 16 it)
  if cmpeq2 then
    let cmp2 := secondByte.cmpeq (← Vec.loadu m 16 (it + 1))
    cmp := cmp.and cmp2
  let mut mask := narrowMask cmp
  if alignment ≠ .x1 then
    mask := mask &&& rotl (createAlignmentMaskNeon alignment.toStride) (← rotation cmpIndex)
  return mask

/-- `LIBHAT_TEST_ZERO`. -/
def testZero (x : Vec 16) : Bool := decide (∀ i, x i = 0#8)

def backend : VectorBackend 16 64 where
  blockMask := blockMask
  skipEmpty := false
  lane mask := mask.ctz.toNat >>> 2
  clear mask := mask ^^^ (0xF#64 <<< mask.ctz.toNat)
  disjoint neqBits signatureMask := testZero (neqBits.and signatureMask)

end Neon

/-- `find_pattern_neon`. -/
def findPatternNeon := findPatternVector Neon.backend

/-! ### The masks -/

namespace Neon

/-- Bit `i` of the narrowed mask is a bit of byte `i / 4`. -/
theorem getLsbD_narrowMask (cmp : Vec 16) (i : Nat) (hi : i < 64) :
    (narrowMask cmp).getLsbD i = (cmp ⟨i / 4, by omega⟩).getLsbD ((i + 4) % 8) := by
  rw [narrowMask, reinterpretU64, getLsbD_maskOf _ ⟨i, hi⟩, shrnU16, reinterpretU16,
    BitVec.truncate_eq_setWidth, BitVec.getLsbD_setWidth, BitVec.getLsbD_ushiftRight,
    BitVec.getLsbD_append]
  have hmod : i % 8 < 8 := Nat.mod_lt i (by decide)
  rw [decide_eq_true hmod, Bool.true_and]
  by_cases hlow : 4 + i % 8 < 8
  · have hbyte : 2 * (i / 8) = i / 4 := by omega
    have hbit : 4 + i % 8 = (i + 4) % 8 := by omega
    rw [if_pos hlow]
    simp only [hbyte, hbit]
  · have hbyte : 2 * (i / 8) + 1 = i / 4 := by omega
    have hbit : 4 + i % 8 - 8 = (i + 4) % 8 := by omega
    rw [if_neg hlow]
    simp only [hbyte, hbit]

/-- Every bit of a lane of a comparison is the comparison. -/
theorem getLsbD_cmpeq (a b : Vec 16) (i : Fin 16) {j : Nat} (hj : j < 8) :
    (a.cmpeq b i).getLsbD j = decide (a i = b i) := by
  unfold Vec.cmpeq
  by_cases h : a i = b i
  · have hones : 0xFF#8 = BitVec.allOnes 8 := rfl
    rw [if_pos h, decide_eq_true h, hones, BitVec.getLsbD_allOnes, decide_eq_true hj]
  · rw [if_neg h, decide_eq_false h, BitVec.getLsbD_zero]

theorem getLsbD_createAlignmentMaskNeon {stride i : Nat} (hstride : 0 < stride) (hi : i < 64) :
    (createAlignmentMaskNeon stride).getLsbD i = decide (stride ∣ i / 4) := by
  have hpart : ∀ k, (0xF#64 <<< (k * stride * 4)).getLsbD i = decide (i / 4 = k * stride) := by
    intro k
    have hones : 0xF#64 = BitVec.ofNat 64 (2 ^ 4 - 1) := rfl
    rw [hones, Nat.mul_comm _ 4, BitScan.getLsbD_ones_shiftLeft (k * stride) i hi (by decide)]
  rw [createAlignmentMaskNeon, getLsbD_foldl_or, BitVec.getLsbD_zero, Bool.false_or,
    Bool.eq_iff_iff, List.any_eq_true, decide_eq_true_iff]
  constructor
  · intro h
    obtain ⟨k, _, hk⟩ := h
    rw [hpart, decide_eq_true_iff] at hk
    exact ⟨k, by rw [hk, Nat.mul_comm]⟩
  · intro h
    obtain ⟨k, hk⟩ := h
    refine ⟨k, List.mem_range.mpr ?_, ?_⟩
    · rw [Nat.lt_iff_add_one_le, Nat.le_div_iff_mul_le hstride, Nat.add_mul, Nat.mul_comm]
      omega
    · rw [hpart, decide_eq_true_iff, hk, Nat.mul_comm]

/-- Four times the anchor is an `int`. -/
def RotationFits (cmpIndex : Nat) : Prop :=
  -2 ^ 31 ≤ toInt32 cmpIndex * 4 ∧ toInt32 cmpIndex * 4 < 2 ^ 31

instance (cmpIndex : Nat) : Decidable (RotationFits cmpIndex) :=
  inferInstanceAs (Decidable (_ ∧ _))

theorem rotation_ok {cmpIndex : Nat} (h : RotationFits cmpIndex) :
    rotation cmpIndex = .ok (toInt32 cmpIndex * 4) := if_pos h

theorem rotation_overflow {cmpIndex : Nat} (h : ¬ RotationFits cmpIndex) :
    rotation cmpIndex = .error .overflow := if_neg h

/-- Every anchor of a signature of up to `2 ^ 29` elements is small enough. -/
theorem rotationFits_of_lt {cmpIndex : Nat} (h : cmpIndex < 2 ^ 29) : RotationFits cmpIndex := by
  have hint : toInt32 cmpIndex = cmpIndex := by
    rw [toInt32, BitVec.toInt_ofNat', Int.bmod_eq_of_le (by omega) (by omega)]
  rw [RotationFits, hint]
  omega

/-- The mask of a block with the anchor `cmpIndex` is defined: it takes no rotation, or the
rotation is an `int`. -/
def Defined (alignment : ScanAlignment) (cmpIndex : Nat) : Prop :=
  alignment = .x1 ∨ RotationFits cmpIndex

instance (alignment : ScanAlignment) (cmpIndex : Nat) : Decidable (Defined alignment cmpIndex) :=
  inferInstanceAs (Decidable (_ ∨ _))

/-- **The rotated alignment mask keeps the nibbles of the lanes with an aligned
start**, whatever `cmpIndex` became on the way into `std::rotl`. -/
theorem getLsbD_rotl_alignmentMask {stride it i cmpIndex : Nat} (hstride : 0 < stride)
    (hs : stride ∣ 16) (hit : 16 ∣ it) (hc : cmpIndex ≤ it) (hi : i < 64) :
    (rotl (createAlignmentMaskNeon stride) (toInt32 cmpIndex * 4)).getLsbD i
      = decide (stride ∣ it + i / 4 - cmpIndex) := by
  have hrot := toInt32_emod cmpIndex (by decide : 16 ∣ 2 ^ 32)
  rw [getLsbD_rotl _ _ hi]
  have hlane : (((i : Int) - toInt32 cmpIndex * 4) % (64 : Nat)).toNat / 4
      = (i / 4 + 15 * cmpIndex) % 16 := by
    omega
  rw [getLsbD_createAlignmentMaskNeon hstride (by omega), hlane]
  apply decide_eq_decide.mpr
  -- `i / 4 + 15 * cmpIndex` and `it + i / 4 - cmpIndex` differ by a multiple of 16
  obtain ⟨q, hq⟩ := hit
  have hsum : it + i / 4 - cmpIndex + 16 * cmpIndex = i / 4 + 15 * cmpIndex + 16 * q := by omega
  have hc16 : stride ∣ 16 * cmpIndex := hs.mul_right cmpIndex
  have hq16 : stride ∣ 16 * q := hs.mul_right q
  rw [Nat.dvd_mod_iff hs, ← Nat.dvd_add_left hq16, ← hsum, Nat.dvd_add_left hc16]

/-- A lane of the block at `it` passes when its byte is the first byte, with a pair
the byte after it is the second byte, and its start is aligned. -/
def isCandidate (alignment : ScanAlignment) (cmpeq2 : Bool) (m : Memory) (b₁ b₂ : Byte)
    (cmpIndex it o : Nat) : Bool :=
  m (it + o) = some b₁ ∧ (cmpeq2 = true → m (it + o + 1) = some b₂) ∧
    alignment.toStride ∣ it + o - cmpIndex

/-- Bit `i` of the mask of a comparison with a block says whether lane `i / 4` is equal. -/
theorem getLsbD_narrowMask_cmpeq {m : Memory} {a : Nat} {v : Vec 16} (b : Byte)
    (hbytes : ∀ o : Fin 16, m (a + o) = some (v o)) {i : Nat} (hi : i < 64) :
    ((Vec.set1 b).cmpeq v ⟨i / 4, by omega⟩).getLsbD ((i + 4) % 8)
      = decide (m (a + i / 4) = some b) := by
  rw [getLsbD_cmpeq _ _ _ (Nat.mod_lt _ (by decide)), hbytes ⟨i / 4, by omega⟩]
  apply decide_eq_decide.mpr
  rw [Option.some_inj]
  exact eq_comm

/-- **The mask of a block**: every bit of nibble `o` says whether lane `o` passes. -/
theorem blockMask_ok (cmpeq2 : Bool) {m : Memory} (b₁ b₂ : Byte)
    {alignment : ScanAlignment} {cmpIndex it : Nat} (hdef : Defined alignment cmpIndex)
    (hit : 16 ∣ it) (hc : cmpIndex ≤ it) (hread : m.Readable it (it + 16 + 1)) :
    ∃ mask, blockMask alignment cmpeq2 m (Vec.set1 b₁) (Vec.set1 b₂) cmpIndex it = .ok mask ∧
      ∀ i < 64, mask.getLsbD i = isCandidate alignment cmpeq2 m b₁ b₂ cmpIndex it (i / 4) := by
  have hread₁ : m.Readable it (it + 16) := hread.mono le_rfl (by omega)
  have hread₂ : m.Readable (it + 1) (it + 1 + 16) := hread.mono (by omega) (by omega)
  obtain ⟨v₁, hload₁, hbytes₁⟩ := Vec.loadu_ok hread₁
  obtain ⟨v₂, hload₂, hbytes₂⟩ := Vec.loadu_ok hread₂
  obtain ⟨cmp, hcmp, hlanes⟩ : ∃ cmp : Vec 16,
      (if cmpeq2 then ((Vec.set1 b₁).cmpeq v₁).and ((Vec.set1 b₂).cmpeq v₂)
        else (Vec.set1 b₁).cmpeq v₁) = cmp ∧
      ∀ i < 64, (narrowMask cmp).getLsbD i = decide (m (it + i / 4) = some b₁ ∧
        (cmpeq2 = true → m (it + i / 4 + 1) = some b₂)) := by
    refine ⟨_, rfl, fun i hi => ?_⟩
    rw [getLsbD_narrowMask _ i hi]
    have hsucc : it + i / 4 + 1 = it + 1 + i / 4 := by omega
    cases cmpeq2 with
    | true =>
      rw [if_pos rfl, Vec.and, BitVec.getLsbD_and, getLsbD_narrowMask_cmpeq b₁ hbytes₁ hi,
        getLsbD_narrowMask_cmpeq b₂ hbytes₂ hi, hsucc]
      simp
    | false =>
      rw [if_neg (by decide), getLsbD_narrowMask_cmpeq b₁ hbytes₁ hi]
      simp
  have hmask : blockMask alignment cmpeq2 m (Vec.set1 b₁) (Vec.set1 b₂) cmpIndex it
      = .ok (if alignment ≠ .x1 then narrowMask cmp &&&
          rotl (createAlignmentMaskNeon alignment.toStride) (toInt32 cmpIndex * 4)
        else narrowMask cmp) := by
    rw [← hcmp, blockMask, hload₁, hload₂]
    rcases hdef with rfl | hfits
    · cases cmpeq2 <;> rfl
    · rw [rotation_ok hfits]
      cases cmpeq2 <;> cases alignment <;> rfl
  refine ⟨_, hmask, fun i hi => ?_⟩
  by_cases hx1 : alignment = .x1
  · have hone : alignment.toStride ∣ it + i / 4 - cmpIndex := by
      rw [hx1]
      exact Nat.one_dvd _
    rw [if_neg (not_not_intro hx1), hlanes i hi, isCandidate]
    simp [hone]
  · rw [if_pos hx1, BitVec.getLsbD_and, hlanes i hi, getLsbD_rotl_alignmentMask
      alignment.toStride_pos alignment.toStride_dvd hit hc hi, isCandidate]
    rw [← Bool.decide_and]
    exact decide_eq_decide.mpr and_assoc

/-- **The mask of a block that is not defined**: the rotation leaves `int`. -/
theorem blockMask_overflow (cmpeq2 : Bool) {m : Memory} (firstByte secondByte : Vec 16)
    {alignment : ScanAlignment} {cmpIndex it : Nat} (hdef : ¬ Defined alignment cmpIndex)
    (hread : m.Readable it (it + 16 + 1)) :
    blockMask alignment cmpeq2 m firstByte secondByte cmpIndex it = .error .overflow := by
  have hread₁ : m.Readable it (it + 16) := hread.mono le_rfl (by omega)
  have hread₂ : m.Readable (it + 1) (it + 1 + 16) := hread.mono (by omega) (by omega)
  obtain ⟨v₁, hload₁, _⟩ := Vec.loadu_ok hread₁
  obtain ⟨v₂, hload₂, _⟩ := Vec.loadu_ok hread₂
  have hx1 : alignment ≠ .x1 := fun h => hdef (Or.inl h)
  rw [blockMask, hload₁, hload₂, rotation_overflow fun h => hdef (Or.inr h)]
  cases cmpeq2 <;> cases alignment <;> first | rfl | exact absurd rfl hx1

/-- A mask that says of every nibble whether its lane passes is uniform, and its
lanes are the ones that pass. -/
theorem uniform_of_getLsbD {mask : BitVec 64} {f : Nat → Bool}
    (h : ∀ i < 64, mask.getLsbD i = f (i / 4)) :
    BitScan.Uniform 4 mask ∧ ∀ o, o ∈ BitScan.lanes 4 mask ↔ o < 16 ∧ f o = true := by
  refine ⟨fun i hi => ?_, fun o => ?_⟩
  · rw [h i hi, h _ (by omega), Nat.mul_div_cancel_left _ (by decide)]
  · rw [BitScan.lanes, Set.mem_ofPred_eq]
    constructor
    · intro ho
      have hlt := BitVec.lt_of_getLsbD ho
      rw [h _ hlt, Nat.mul_div_cancel_left _ (by decide)] at ho
      exact ⟨by omega, ho⟩
    · intro ho
      rw [h _ (by omega), Nat.mul_div_cancel_left _ (by decide)]
      exact ho.2

/-- The loop takes the lowest lane and clears it. -/
theorem lane_eq (mask : BitVec 64) : backend.lane mask = mask.ctz.toNat / 4 := by
  exact Nat.shiftRight_eq_div_pow _ 2

theorem clear_eq (mask : BitVec 64) :
    backend.clear mask = mask ^^^ (BitVec.ofNat 64 (2 ^ 4 - 1) <<< mask.ctz.toNat) := rfl

/-- **The Neon backend is lawful**: its masks hold one flag per nibble. -/
theorem neon_lawful : backend.Lawful Defined (BitScan.Uniform 4) (BitScan.lanes 4) where
  pos := by decide
  lanes_zero := BitScan.lanes_zero
  isLeast_lane := by
    intro mask hok hne
    rw [lane_eq]
    exact hok.isLeast_lanes (by decide) hne
  ok_clear := by
    intro mask hok hne
    rw [clear_eq]
    exact hok.xor (by decide) hne
  lanes_clear := by
    intro mask hok hne
    rw [clear_eq, lane_eq]
    exact hok.lanes_xor (by decide) hne
  bits_clear := by
    intro mask hok hne
    rw [clear_eq]
    exact hok.bits_xor (by decide) hne
  disjoint_iff := by
    intro a b
    exact decide_eq_true_iff
  blockMask_ok := by
    intro alignment cmpeq2 m b₁ b₂ cmpIndex it hdef hit hc hread
    obtain ⟨mask, hmask, hbits⟩ := blockMask_ok cmpeq2 b₁ b₂ hdef hit hc hread
    obtain ⟨huniform, hlanes⟩ := uniform_of_getLsbD hbits
    refine ⟨mask, hmask, huniform, fun o ho => ?_, fun o ho hdvd h1 h2 => ?_⟩
    · obtain ⟨hlt, hcand⟩ := (hlanes o).mp ho
      rw [isCandidate, decide_eq_true_iff] at hcand
      exact ⟨hlt, hcand.2.2⟩
    · refine (hlanes o).mpr ⟨ho, ?_⟩
      rw [isCandidate, decide_eq_true_iff]
      exact ⟨h1, h2, hdvd⟩

/-- The lanes of a block that pass, in order. -/
def candidates (alignment : ScanAlignment) (cmpeq2 : Bool) (m : Memory) (b₁ b₂ : Byte)
    (cmpIndex it : Nat) : List Nat :=
  (List.range 16).filter (isCandidate alignment cmpeq2 m b₁ b₂ cmpIndex it)

/-- **The loop over a Neon mask visits the lanes that pass**, each once and in order,
and ends at the first one that matches or after the last one. -/
theorem blockMask_visits {alignment : ScanAlignment} {cmpeq2 : Bool} {m : Memory} {b₁ b₂ : Byte}
    {cmpIndex it : Nat} {mask : BitVec 64} (hit : 16 ∣ it) (hc : cmpIndex ≤ it)
    (hread : m.Readable it (it + 16 + 1))
    (hmask : blockMask alignment cmpeq2 m (Vec.set1 b₁) (Vec.set1 b₂) cmpIndex it = .ok mask)
    {compare : Nat → Exec Bool} {lanes : List Nat}
    (hl : lanes = candidates alignment cmpeq2 m b₁ b₂ cmpIndex it)
    (hcompare : ∀ o ∈ lanes, ∃ b, compare (it + o - cmpIndex) = .ok b) :
    visitedLanes backend compare cmpIndex it 65 mask
        = lanes.take (lanes.findIdx (accepted compare cmpIndex it) + 1) ∧
      Loop.run .budget (laneStep backend compare cmpIndex it) 65 mask
        = .ok ((lanes.find? (accepted compare cmpIndex it)).map fun o => it + o - cmpIndex) := by
  have hdef : Defined alignment cmpIndex := by
    by_contra hdef
    rw [blockMask_overflow cmpeq2 _ _ hdef hread] at hmask
    cases hmask
  obtain ⟨mask', hmask', hbits⟩ := blockMask_ok cmpeq2 b₁ b₂ hdef hit hc hread
  obtain rfl : mask' = mask := Except.ok.inj (hmask'.symm.trans hmask)
  obtain ⟨huniform, hlanes⟩ := uniform_of_getLsbD hbits
  subst hl
  have henum : Enumerates (BitScan.lanes 4 mask')
      (candidates alignment cmpeq2 m b₁ b₂ cmpIndex it) := by
    refine ⟨List.pairwise_lt_range.filter _, fun o => ?_⟩
    rw [candidates, List.mem_filter, List.mem_range, hlanes]
  exact laneLoop_visits neon_lawful (by omega) huniform henum hcompare

end Neon

end Libhat

import Libhat.VectorScan

/-!
# The x86 backends

The intrinsics that SSE, AVX2 and AVX-512 differ in, on the vectors of
`Vector.lean`, and the three scanners.  A mask has one bit per lane.  With a byte
pair the second byte is compared in the block itself, one lane up, and the last
lane is let through because its second byte lies in the next block.

`x86_lawful` is about the common part; `findPatternSse_ok`, `findPatternAvx2_ok`
and `findPatternAvx512_ok` are its instances.
-/

namespace Libhat

open FirstHit

namespace X86

variable {V : Nat}

/-- `_mm_movemask_epi8` and its 256 bit form: the top bit of every lane. -/
def movemask (a : Vec V) : BitVec V := maskOf fun i => (a i).msb

/-- `_mm512_cmpeq_epi8_mask`. -/
def cmpeqMask (a b : Vec V) : BitVec V := maskOf fun i => decide (a i = b i)

/-- `_mm_testz_si128` and its 256 bit form. -/
def testz (a b : Vec V) : Bool := decide (∀ i, a.and b i = 0#8)

/-- `_mm512_test_epi64_mask`: the 64 bit lanes that have a bit in common. -/
def testEpi64Mask (a b : Vec 64) : BitVec 8 :=
  maskOf fun q => decide (∃ k : Fin 8, a.and b ⟨8 * q + k, by omega⟩ ≠ 0#8)

/-- The mask that the x86 scanners compute for the block at `it`; `eqMask` turns
two registers into the mask of their equal lanes. -/
def blockMask (eqMask : Vec V → Vec V → BitVec V) (alignment : ScanAlignment) (cmpeq2 : Bool)
    (m : Memory) (firstByte secondByte : Vec V) (cmpIndex it : Nat) : Exec (BitVec V) := do
  let mut mask := eqMask firstByte (← Vec.load m V it)
  if cmpeq2 then
    let mask2 := eqMask secondByte (← Vec.load m V it)
    -- avoid loading unaligned memory by letting a match of the first signature byte in the last
    -- position imply that the second byte also matched
    mask := mask &&& ((mask2 >>> 1) ||| (1#V <<< (V - 1)))
  if alignment ≠ .x1 then
    mask := mask &&& rotl (createAlignmentMask V alignment.toStride) (toInt32 cmpIndex)
  return mask

/-- What the x86 scanners have in common. -/
def backend (eqMask : Vec V → Vec V → BitVec V) (skipEmpty : Bool)
    (disjoint : Vec V → Vec V → Bool) : VectorBackend V V where
  blockMask := blockMask eqMask
  skipEmpty := skipEmpty
  lane mask := mask.ctz.toNat
  clear mask := mask &&& (mask - 1#V)
  disjoint := disjoint

def sse : VectorBackend 16 16 := backend (fun a b => movemask (a.cmpeq b)) false testz

def avx2 : VectorBackend 32 32 := backend (fun a b => movemask (a.cmpeq b)) true testz

def avx512 : VectorBackend 64 64 :=
  backend cmpeqMask true fun neqBits signatureMask =>
    let invalid := testEpi64Mask neqBits signatureMask
    decide (invalid = 0#8)

end X86

/-- `find_pattern_sse`. -/
def findPatternSse := findPatternVector X86.sse

/-- `find_pattern_avx2`. -/
def findPatternAvx2 := findPatternVector X86.avx2

/-- `find_pattern_avx512`. -/
def findPatternAvx512 := findPatternVector X86.avx512

/-! ### The intrinsics -/

namespace X86

variable {V : Nat}

theorem getLsbD_movemask_cmpeq (a b : Vec V) (i : Fin V) :
    (movemask (a.cmpeq b)).getLsbD i = decide (a i = b i) := by
  rw [movemask, getLsbD_maskOf, Vec.cmpeq]
  by_cases h : a i = b i
  · rw [if_pos h, decide_eq_true h]
    decide
  · rw [if_neg h, decide_eq_false h]
    decide

theorem getLsbD_cmpeqMask (a b : Vec V) (i : Fin V) :
    (cmpeqMask a b).getLsbD i = decide (a i = b i) := by
  rw [cmpeqMask, getLsbD_maskOf]

theorem testz_iff (a b : Vec V) : testz a b = true ↔ ∀ i, a i &&& b i = 0#8 := by
  rw [testz, decide_eq_true_iff]
  exact Iff.rfl

theorem testEpi64Mask_eq_zero_iff (a b : Vec 64) :
    testEpi64Mask a b = 0#8 ↔ ∀ i, a i &&& b i = 0#8 := by
  constructor
  · intro h i
    have hq : (testEpi64Mask a b).getLsbD (i / 8) = false := by rw [h, BitVec.getLsbD_zero]
    rw [testEpi64Mask, getLsbD_maskOf _ ⟨i / 8, by omega⟩, decide_eq_false_iff_not] at hq
    by_contra hne
    refine hq ⟨⟨i % 8, by omega⟩, ?_⟩
    simpa [Vec.and, Nat.div_add_mod] using hne
  · intro h
    apply BitVec.eq_of_getLsbD_eq
    intro q hq
    rw [testEpi64Mask, getLsbD_maskOf _ ⟨q, hq⟩, BitVec.getLsbD_zero, decide_eq_false_iff_not]
    intro h
    obtain ⟨k, hk⟩ := h
    exact hk (h _)

/-- Bit `o` of the pair filter: the second byte's bit one lane up, or the last lane. -/
theorem getLsbD_pairFilter (mask2 : BitVec V) {o : Nat} (ho : o < V) :
    ((mask2 >>> 1) ||| (1#V <<< (V - 1))).getLsbD o
      = (mask2.getLsbD (o + 1) || decide (o + 1 = V)) := by
  rw [BitVec.getLsbD_or, BitVec.getLsbD_ushiftRight, BitVec.getLsbD_shiftLeft, BitVec.getLsbD_one,
    Nat.add_comm 1 o]
  by_cases hlast : o + 1 = V
  · simp [hlast, show ¬ o < V - 1 by omega, show o - (V - 1) = 0 by omega]
    omega
  · simp [hlast, show o < V - 1 by omega]

/-- **The mask of a block**: lane `o` passes when its byte is the first byte, its
start is aligned, and the byte after it is the second byte or in the next block. -/
theorem blockMask_ok {eqMask : Vec V → Vec V → BitVec V}
    (heq : ∀ a b (i : Fin V), (eqMask a b).getLsbD i = decide (a i = b i))
    (hV16 : 16 ∣ V) (hV32 : V ∣ 2 ^ 32) (alignment : ScanAlignment) (cmpeq2 : Bool) {m : Memory}
    (b₁ b₂ : Byte) {cmpIndex it : Nat} (hit : V ∣ it) (hc : cmpIndex ≤ it)
    (hread : m.Readable it (it + V)) :
    ∃ mask, blockMask eqMask alignment cmpeq2 m (Vec.set1 b₁) (Vec.set1 b₂) cmpIndex it = .ok mask ∧
      ∀ o < V, o ∈ BitScan.bits mask ↔ m (it + o) = some b₁ ∧
        (cmpeq2 = true → m (it + o + 1) = some b₂ ∨ o + 1 = V) ∧
        alignment.toStride ∣ it + o - cmpIndex := by
  obtain ⟨v, hload, hbytes⟩ := Vec.load_ok hit hread
  have hfirst : ∀ o < V, (eqMask (Vec.set1 b₁) v).getLsbD o = true ↔ m (it + o) = some b₁ := by
    intro o ho
    rw [heq _ _ ⟨o, ho⟩, decide_eq_true_iff, hbytes ⟨o, ho⟩, Option.some_inj]
    exact eq_comm
  have hsecond : ∀ o < V,
      ((eqMask (Vec.set1 b₂) v >>> 1) ||| (1#V <<< (V - 1))).getLsbD o = true ↔
        m (it + o + 1) = some b₂ ∨ o + 1 = V := by
    intro o ho
    rw [getLsbD_pairFilter _ ho, Bool.or_eq_true, decide_eq_true_iff]
    by_cases hlast : o + 1 = V
    · exact ⟨fun _ => Or.inr hlast, fun _ => Or.inr hlast⟩
    · have ho' : o + 1 < V := by omega
      rw [heq _ _ ⟨o + 1, ho'⟩, decide_eq_true_iff, Nat.add_assoc, hbytes ⟨o + 1, ho'⟩,
        Option.some_inj]
      exact or_congr_left eq_comm
  have haligned : ∀ o < V,
      (rotl (createAlignmentMask V alignment.toStride) (toInt32 cmpIndex)).getLsbD o = true ↔
        alignment.toStride ∣ it + o - cmpIndex := by
    intro o ho
    rw [getLsbD_rotl_alignmentMask alignment.toStride_pos (alignment.toStride_dvd.trans hV16) hV32
      hit (by omega) ho, decide_eq_true_iff]
  by_cases hx1 : alignment = .x1
  · have hone : ∀ o, alignment.toStride ∣ it + o - cmpIndex := by
      intro o
      rw [hx1]
      exact Nat.one_dvd _
    by_cases hcmp : cmpeq2 = true
    · refine ⟨_, by simp [blockMask, hload, hcmp, hx1]; rfl, fun o ho => ?_⟩
      rw [BitScan.bits, Set.mem_ofPred_eq, BitVec.getLsbD_and, Bool.and_eq_true, hfirst o ho,
        hsecond o ho]
      simp [hcmp, hone]
    · refine ⟨_, by simp [blockMask, hload, hcmp, hx1]; rfl, fun o ho => ?_⟩
      rw [BitScan.bits, Set.mem_ofPred_eq, hfirst o ho]
      simp [hcmp, hone]
  · by_cases hcmp : cmpeq2 = true
    · refine ⟨_, by simp [blockMask, hload, hcmp, hx1]; rfl, fun o ho => ?_⟩
      rw [BitScan.bits, Set.mem_ofPred_eq, BitVec.getLsbD_and, BitVec.getLsbD_and, Bool.and_eq_true,
        Bool.and_eq_true, hfirst o ho, hsecond o ho, haligned o ho]
      simp [hcmp, and_assoc]
    · refine ⟨_, by simp [blockMask, hload, hcmp, hx1]; rfl, fun o ho => ?_⟩
      rw [BitScan.bits, Set.mem_ofPred_eq, BitVec.getLsbD_and, Bool.and_eq_true, hfirst o ho,
        haligned o ho]
      simp [hcmp]

/-- **The x86 backends are lawful**, whatever their intrinsics are called. -/
theorem backend_lawful {eqMask : Vec V → Vec V → BitVec V} {skipEmpty : Bool}
    {disjoint : Vec V → Vec V → Bool} (hpos : 0 < V)
    (heq : ∀ a b (i : Fin V), (eqMask a b).getLsbD i = decide (a i = b i))
    (hV16 : 16 ∣ V) (hV32 : V ∣ 2 ^ 32)
    (hdisjoint : ∀ {a b}, disjoint a b = true ↔ ∀ i, a i &&& b i = 0#8) :
    (backend eqMask skipEmpty disjoint).Lawful (fun _ _ => True) (fun _ => True)
      BitScan.bits where
  pos := hpos
  lanes_zero := BitScan.bits_zero
  isLeast_lane := fun _ hne => BitScan.isLeast_ctz hne
  ok_clear := fun _ _ => trivial
  lanes_clear := fun _ hne => BitScan.bits_and_sub_one hne
  bits_clear := fun _ hne => (BitScan.bits_and_sub_one hne).subset
  disjoint_iff := hdisjoint
  blockMask_ok := by
    intro alignment cmpeq2 m b₁ b₂ cmpIndex it _ hit hc hread
    obtain ⟨mask, hmask, hbits⟩ := blockMask_ok heq hV16 hV32 alignment cmpeq2 b₁ b₂ hit hc
      (hread.mono le_rfl (by omega))
    refine ⟨mask, hmask, trivial, fun o ho => ?_, fun o ho hdvd h1 h2 => ?_⟩
    · have hoV : o < V := BitScan.lt_of_mem_bits ho
      exact ⟨hoV, ((hbits o hoV).mp ho).2.2⟩
    · exact (hbits o ho).mpr ⟨h1, fun hcmp => Or.inl (h2 hcmp), hdvd⟩

theorem sse_lawful : sse.Lawful (fun _ _ => True) (fun _ => True) BitScan.bits :=
  backend_lawful (by decide) getLsbD_movemask_cmpeq (by decide) (by decide) (testz_iff _ _)

theorem avx2_lawful : avx2.Lawful (fun _ _ => True) (fun _ => True) BitScan.bits :=
  backend_lawful (by decide) getLsbD_movemask_cmpeq (by decide) (by decide) (testz_iff _ _)

theorem avx512_lawful : avx512.Lawful (fun _ _ => True) (fun _ => True) BitScan.bits :=
  backend_lawful (by decide) getLsbD_cmpeqMask (by decide) (by decide) <| by
    intro a b
    rw [decide_eq_true_iff]
    exact testEpi64Mask_eq_zero_iff a b

end X86

end Libhat

import Libhat.Lib.BitScan
import Libhat.ScanContext
import Mathlib.Data.List.FinRange

/-!
# Vectors and masks

A vector register of `n` bytes is a function on `Fin n`.  The first part gives
the operations that the backends share: loads, the copy of a signature into two
registers (`load_signature_128` and its kin), `std::rotl`, and the alignment mask
of the x86 backends.

`getLsbD_rotl` and `getLsbD_rotl_alignmentMask` say what the rotated alignment
mask is for: lane `o` of an aligned block stays set when `o - cmpIndex` is a
multiple of the stride, whatever integer `cmpIndex` became on the way into
`std::rotl`.
-/

namespace Libhat

/-- A register of `n` bytes, or the buffer it is loaded from. -/
abbrev Vec (n : Nat) := Fin n → Byte

namespace Vec

/-- An unaligned load of `n` bytes: all of them are read. -/
def loadu (m : Memory) (n a : Nat) : Exec (Vec n) :=
  if h : ∀ i : Fin n, (m (a + i)).isSome then .ok fun i => (m (a + i)).get (h i)
  else .error (.read a)

/-- An aligned load. -/
def load (m : Memory) (n a : Nat) : Exec (Vec n) :=
  if a % n = 0 then loadu m n a else .error (.misaligned a)

theorem loadu_ok {m : Memory} {n a : Nat} (h : m.Readable a (a + n)) :
    ∃ v, loadu m n a = .ok v ∧ ∀ i : Fin n, m (a + i) = some (v i) := by
  have hsome : ∀ i : Fin n, (m (a + i)).isSome := by
    intro i
    obtain ⟨b, hb⟩ := h (a + i) (by omega) (by have := i.isLt; omega)
    simp [hb]
  exact ⟨_, dif_pos hsome, fun i => (Option.some_get (hsome i)).symm⟩

theorem load_ok {m : Memory} {n a : Nat} (ha : n ∣ a) (h : m.Readable a (a + n)) :
    ∃ v, load m n a = .ok v ∧ ∀ i : Fin n, m (a + i) = some (v i) := by
  rw [load, if_pos (Nat.mod_eq_zero_of_dvd ha)]
  exact loadu_ok h

/-- One byte in every lane. -/
def set1 {n : Nat} (b : Byte) : Vec n := fun _ => b

def xor {n : Nat} (a b : Vec n) : Vec n := fun i => a i ^^^ b i

def and {n : Nat} (a b : Vec n) : Vec n := fun i => a i &&& b i

/-- All ones in the lanes that are equal. -/
def cmpeq {n : Nat} (a b : Vec n) : Vec n := fun i => if a i = b i then 0xFF#8 else 0x00#8

end Vec

/-! ### The signature in registers -/

/-- The loop of `load_signature_*`: element `i` goes to byte `i` of both buffers. -/
def storeElements {V : Nat} : Signature → Nat → Vec V × Vec V → Exec (Vec V × Vec V)
  | [], _, buffers => pure buffers
  | e :: rest, i, (byteBuffer, maskBuffer) =>
    if h : i < V then
      storeElements rest (i + 1)
        (Function.update byteBuffer ⟨i, h⟩ e.value, Function.update maskBuffer ⟨i, h⟩ e.mask)
    else
      .error (.write i)

/-- `load_signature_128`, `load_signature_256` and `load_signature_512`: two zeroed
buffers of `V` bytes, filled from the signature. -/
def loadSignature (V : Nat) (signature : Signature) : Exec (Vec V × Vec V) :=
  storeElements signature 0 (Vec.set1 0#8, Vec.set1 0#8)

/-- The registers hold the elements from index `i` on; every other byte is untouched. -/
theorem storeElements_ok {V : Nat} : ∀ (signature : Signature) (i : Nat) (buffers : Vec V × Vec V),
    i + signature.length ≤ V → ∃ bytes mask,
      storeElements signature i buffers = .ok (bytes, mask) ∧
      (∀ (j : Fin V) (hj : j - i < signature.length), i ≤ j →
        bytes j = signature[j - i].value ∧ mask j = signature[j - i].mask) ∧
      ∀ j : Fin V, (j < i ∨ i + signature.length ≤ j) →
        bytes j = buffers.1 j ∧ mask j = buffers.2 j := by
  intro signature
  induction signature with
  | nil =>
    intro i buffers _
    obtain ⟨bytes, mask⟩ := buffers
    exact ⟨bytes, mask, rfl, fun j hj => by simp at hj, fun j _ => ⟨rfl, rfl⟩⟩
  | cons e rest ih =>
    intro i buffers hfit
    obtain ⟨bytes, mask⟩ := buffers
    simp only [List.length_cons] at hfit
    have hiV : i < V := by omega
    obtain ⟨bytes', mask', hrun, hin, hout⟩ := ih (i + 1)
      (Function.update bytes ⟨i, hiV⟩ e.value, Function.update mask ⟨i, hiV⟩ e.mask) (by omega)
    refine ⟨bytes', mask', by rw [storeElements, dif_pos hiV, hrun], fun j hj hij => ?_,
      fun j hj => ?_⟩
    · rcases Nat.eq_or_lt_of_le hij with heq | hlt
      · have hji : j = ⟨i, hiV⟩ := Fin.ext heq.symm
        have := hout j (Or.inl (by omega))
        simpa [hji] using this
      · have hpred : (j : Nat) - i = (j - (i + 1)) + 1 := by omega
        have hj' : (j : Nat) - (i + 1) < rest.length := by
          simp only [List.length_cons] at hj
          omega
        simpa [hpred] using hin j hj' hlt
    · have hne : j ≠ ⟨i, hiV⟩ := by
        intro heq
        subst heq
        simp only [List.length_cons] at hj
        omega
      simp only [List.length_cons] at hj
      simpa [Function.update_of_ne hne] using hout j (by omega)

/-- **A signature of at most `V` elements fills its registers**, and leaves the
mask zero past its end. -/
theorem loadSignature_ok {V : Nat} {signature : Signature} (h : signature.length ≤ V) :
    ∃ bytes mask, loadSignature V signature = .ok (bytes, mask) ∧
      (∀ (j : Fin V) (hj : (j : Nat) < signature.length),
        bytes j = signature[(j : Nat)].value ∧ mask j = signature[(j : Nat)].mask) ∧
      ∀ j : Fin V, signature.length ≤ j → mask j = 0#8 := by
  obtain ⟨bytes, mask, hrun, hin, hout⟩ := storeElements_ok signature 0
    (Vec.set1 0#8, Vec.set1 0#8) (by omega : 0 + signature.length ≤ V)
  exact ⟨bytes, mask, hrun, fun j hj => hin j (by simpa using hj) (Nat.zero_le _),
    fun j hj => (hout j (Or.inr (by simpa using hj))).2⟩

/-- **The comparison in registers decides the match**: the bits that differ miss
the mask in every lane exactly when every element accepts its byte. -/
theorem xor_and_eq_zero_iff {V : Nat} {m : Memory} {signature : Signature} {p : Nat}
    {data bytes mask : Vec V} (hV : signature.length ≤ V)
    (hdata : ∀ i : Fin V, m (p + i) = some (data i))
    (hin : ∀ (j : Fin V) (hj : (j : Nat) < signature.length),
      bytes j = signature[(j : Nat)].value ∧ mask j = signature[(j : Nat)].mask)
    (hout : ∀ j : Fin V, signature.length ≤ j → mask j = 0#8) :
    (∀ i : Fin V, (data i ^^^ bytes i) &&& mask i = 0#8) ↔ MatchesAt m signature p := by
  constructor
  · intro h j hj
    have hjV : j < V := by omega
    have hlane := h ⟨j, hjV⟩
    obtain ⟨hb, hm⟩ := hin ⟨j, hjV⟩ hj
    rw [hb, hm] at hlane
    exact ⟨_, hdata ⟨j, hjV⟩, SignatureElement.accepts_iff_xor.mpr hlane⟩
  · intro h i
    by_cases hi : (i : Nat) < signature.length
    · obtain ⟨b, hb, hacc⟩ := h i hi
      obtain ⟨hv, hm⟩ := hin i hi
      rw [hv, hm, Option.some.inj ((hdata i).symm.trans hb)]
      exact SignatureElement.accepts_iff_xor.mp hacc
    · rw [hout i (by omega), BitVec.and_zero]

/-! ### Masks -/

/-- A mask that a loop builds from one part after the other. -/
theorem getLsbD_foldl_or {w : Nat} {ι : Type} (part : ι → BitVec w) (i : Nat) :
    ∀ (l : List ι) (mask : BitVec w), (l.foldl (fun mask k => mask ||| part k) mask).getLsbD i
      = (mask.getLsbD i || l.any fun k => (part k).getLsbD i) := by
  intro l
  induction l with
  | nil => intro mask; simp
  | cons k rest ih => intro mask; simp [ih, Bool.or_assoc]

/-- The mask whose bit `i` is `f i`. -/
def maskOf {w : Nat} (f : Fin w → Bool) : BitVec w :=
  (List.finRange w).foldl (fun mask i => mask ||| if f i then 1#w <<< (i : Nat) else 0#w) 0#w

theorem getLsbD_maskOf {w : Nat} (f : Fin w → Bool) (i : Fin w) :
    (maskOf f).getLsbD i = f i := by
  rw [maskOf, getLsbD_foldl_or, BitVec.getLsbD_zero, Bool.false_or, Bool.eq_iff_iff,
    List.any_eq_true]
  constructor
  · intro h
    obtain ⟨k, _, hk⟩ := h
    split at hk
    case isTrue hf =>
      simp only [BitVec.getLsbD_shiftLeft, BitVec.getLsbD_one, Bool.and_eq_true,
        decide_eq_true_eq, Bool.not_eq_true', decide_eq_false_iff_not] at hk
      have hki : k = i := Fin.ext (by omega)
      rwa [hki] at hf
    case isFalse => simp at hk
  · intro hf
    refine ⟨i, List.mem_finRange i, ?_⟩
    rw [if_pos hf]
    simp [i.isLt]

/-! ### The alignment mask -/

/-- `static_cast<int>` of a `std::size_t`. -/
def toInt32 (n : Nat) : Int := (BitVec.ofNat 32 n).toInt

/-- `std::rotl`. -/
def rotl {w : Nat} (x : BitVec w) (s : Int) : BitVec w :=
  let r := s.tmod w
  if r < 0 then x.rotateRight (-r).toNat else x.rotateLeft r.toNat

/-- **`std::rotl` moves bit `i - s` to bit `i`**, counted modulo the width. -/
theorem getLsbD_rotl {w : Nat} (x : BitVec w) (s : Int) {i : Nat} (hi : i < w) :
    (rotl x s).getLsbD i = x.getLsbD (((i : Int) - s) % w).toNat := by
  have hw : (0 : Int) < w := by omega
  have hmod : ((i : Int) - s) % w = ((i : Int) - s.tmod w) % w := by
    have hs := Int.tmod_add_mul_tdiv s w
    rw [← Int.sub_mul_emod_self_left ((i : Int) - s.tmod w) w (s.tdiv w)]
    congr 1
    omega
  have hlt := Int.tmod_lt_of_pos s hw
  have hgt := Int.lt_tmod_of_pos s hw
  rw [hmod]
  simp only [rotl]
  generalize s.tmod w = r at *
  by_cases hr : r < 0
  · obtain ⟨k, rfl⟩ : ∃ k : Nat, r = -(k : Int) := ⟨(-r).toNat, by omega⟩
    rw [if_pos hr, Int.neg_neg, Int.toNat_natCast, BitVec.getLsbD_rotateRight,
      Nat.mod_eq_of_lt (by omega)]
    by_cases hik : i < w - k
    · rw [decide_eq_true hik, cond_true, Int.emod_eq_of_lt (by omega) (by omega)]
      congr 1
      omega
    · rw [decide_eq_false hik, cond_false, decide_eq_true hi, Bool.true_and,
        ← Int.sub_emod_right, Int.emod_eq_of_lt (by omega) (by omega)]
      congr 1
      omega
  · obtain ⟨k, rfl⟩ : ∃ k : Nat, r = (k : Int) := ⟨r.toNat, by omega⟩
    rw [if_neg hr, Int.toNat_natCast, BitVec.getLsbD_rotateLeft, Nat.mod_eq_of_lt (by omega)]
    by_cases hik : i < k
    · rw [decide_eq_true hik, cond_true, ← Int.add_emod_right,
        Int.emod_eq_of_lt (by omega) (by omega)]
      congr 1
      omega
    · rw [decide_eq_false hik, cond_false, decide_eq_true hi, Bool.true_and,
        Int.emod_eq_of_lt (by omega) (by omega)]
      congr 1
      omega

theorem toInt32_emod (n : Nat) {d : Nat} (hd : d ∣ 2 ^ 32) :
    (toInt32 n) % (d : Int) = (n : Int) % d := by
  have hd' : (d : Int) ∣ ((2 ^ 32 : Nat) : Int) := Int.natCast_dvd_natCast.mpr hd
  rw [toInt32, BitVec.toInt_ofNat', ← Int.emod_emod_of_dvd _ hd', Int.bmod_emod,
    Int.emod_emod_of_dvd _ hd']

/-- `create_alignment_mask<type, alignment>` for a type of `w` bits: bit `i` for every
`i` of the loop `for (i = 0; i < w; i += stride)`. -/
def createAlignmentMask (w stride : Nat) : BitVec w :=
  (List.range ((w + stride - 1) / stride)).foldl
    (fun mask k => mask ||| (1#w <<< (k * stride))) 0#w

theorem getLsbD_createAlignmentMask {w stride i : Nat} (hstride : 0 < stride) (hi : i < w) :
    (createAlignmentMask w stride).getLsbD i = decide (stride ∣ i) := by
  rw [createAlignmentMask, getLsbD_foldl_or, BitVec.getLsbD_zero, Bool.false_or,
    Bool.eq_iff_iff, List.any_eq_true, decide_eq_true_iff]
  constructor
  · intro h
    obtain ⟨k, _, hk⟩ := h
    simp only [BitVec.getLsbD_shiftLeft, BitVec.getLsbD_one, Bool.and_eq_true,
      decide_eq_true_eq, Bool.not_eq_true', decide_eq_false_iff_not] at hk
    exact ⟨k, by rw [Nat.mul_comm]; omega⟩
  · intro h
    obtain ⟨k, rfl⟩ := h
    refine ⟨k, List.mem_range.mpr ?_, ?_⟩
    · rw [Nat.lt_iff_add_one_le, Nat.le_div_iff_mul_le hstride, Nat.add_mul, Nat.mul_comm]
      omega
    · simp [Nat.mul_comm, hi]

/-- **The rotated alignment mask keeps the lanes with an aligned start**: lane `o`
of a block at `it` starts a match at `it + o - cmpIndex`. -/
theorem getLsbD_rotl_alignmentMask {w stride it o cmpIndex : Nat} (hstride : 0 < stride)
    (hsw : stride ∣ w) (hw : w ∣ 2 ^ 32) (hit : w ∣ it) (hc : cmpIndex ≤ it + o) (ho : o < w) :
    (rotl (createAlignmentMask w stride) (toInt32 cmpIndex)).getLsbD o
      = decide (stride ∣ it + o - cmpIndex) := by
  have hwpos : (0 : Int) < w := by omega
  have hnonneg := Int.emod_nonneg ((o : Int) - toInt32 cmpIndex) (by omega : (w : Int) ≠ 0)
  have hlt := Int.emod_lt_of_pos ((o : Int) - toInt32 cmpIndex) hwpos
  rw [getLsbD_rotl _ _ ho, getLsbD_createAlignmentMask hstride (by omega)]
  have hdvd : (stride : Int) ∣ it := Int.natCast_dvd_natCast.mpr (hsw.trans hit)
  have hs := toInt32_emod cmpIndex (hsw.trans hw)
  -- modulo the stride the block and the width vanish
  have hmod : ((o : Int) - toInt32 cmpIndex) % w % stride
      = ((it + o - cmpIndex : Nat) : Int) % stride := by
    rw [Int.emod_emod_of_dvd _ (Int.natCast_dvd_natCast.mpr hsw), Int.sub_emod, hs,
      ← Int.sub_emod, Int.natCast_sub hc, Int.natCast_add, Int.add_sub_assoc, Int.add_emod it,
      Int.emod_eq_zero_of_dvd hdvd, Int.zero_add, Int.emod_emod]
  apply decide_eq_decide.mpr
  rw [← Int.natCast_dvd_natCast, ← Int.natCast_dvd_natCast, Int.toNat_of_nonneg hnonneg,
    Int.dvd_iff_emod_eq_zero, Int.dvd_iff_emod_eq_zero, hmod]

end Libhat

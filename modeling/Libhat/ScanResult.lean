import Libhat.MemoryReads
import Libhat.Scan

/-!
# What is read at a scan result

A user reads the operands of the code that a scan has found: `read` loads an integer, and `rel`
resolves an address that is relative to the next instruction.

* `ScanResult.rel_iff`: `rel` has the target of the operand, which is within the range of a
  `std::int32_t` around the next instruction.
* `findPattern_rel`: an operand inside the signature can be resolved at whatever is found.
-/

namespace Libhat

open FirstHit

/-! ### `scan_result` -/

namespace ScanResult

/-- `read`, for an integer of `n` bytes. -/
def read (m : Memory) (result : ScanResult) (n offset : Nat) : Exec (BitVec (8 * n)) :=
  match result with
  | none => .error .nullDeref
  | some p => m.readInt n (p + offset)

/-- `rel`. -/
def rel (m : Memory) (result : ScanResult) (offset remaining : Nat) : Exec (BitVec 64) :=
  match result with
  | none => .ok 0
  | some p => do
    let displacement ← read m (some p) 4 offset
    return BitVec.ofNat 64 p + displacement.signExtend 64 + BitVec.ofNat 64 offset + 4 +
      BitVec.ofNat 64 remaining

/-- Where the next instruction begins. -/
def next (p offset remaining : Nat) : BitVec 64 := BitVec.ofNat 64 (p + offset + 4 + remaining)

/-- The operand at the offset refers to the target: the distance from the next instruction has the
range of a `std::int32_t`, and its bytes stand there. -/
def RefersTo (m : Memory) (p offset remaining : Nat) (target : BitVec 64) : Prop :=
  (-2 ^ 31 ≤ (target - next p offset remaining).toInt ∧
    (target - next p offset remaining).toInt < 2 ^ 31) ∧
  m.Holds (p + offset) (LittleEndian.bytes 4 (target - next p offset remaining))

variable {m : Memory} {p offset remaining : Nat}

theorem rel_some : rel m (some p) offset remaining = do
    let displacement ← m.readInt 4 (p + offset)
    return next p offset remaining + displacement.signExtend 64 := by
  have hsum : ∀ v : BitVec 64, BitVec.ofNat 64 p + v + BitVec.ofNat 64 offset + 4 +
      BitVec.ofNat 64 remaining = next p offset remaining + v := by
    intro v
    rw [next, BitVec.ofNat_add, BitVec.ofNat_add, BitVec.ofNat_add]
    have hfour : (4 : BitVec 64) = BitVec.ofNat 64 4 := rfl
    rw [hfour]
    ac_rfl
  rw [rel]
  simp only [hsum]
  rfl

/-- A distance in range is the sign extension of its lower half. -/
theorem signExtend_eq_iff {v : BitVec 32} {d : BitVec 64} :
    v.signExtend 64 = d ↔ (-2 ^ 31 ≤ d.toInt ∧ d.toInt < 2 ^ 31) ∧ v = d.setWidth 32 := by
  have hwide : (v.signExtend 64).toInt = v.toInt := BitVec.toInt_signExtend_of_le (by decide)
  have hlow : (d.setWidth 32).toInt = d.toInt.bmod (2 ^ 32) := by
    rw [BitVec.toInt_setWidth, BitVec.toInt_eq_toNat_bmod, Int.bmod_bmod_of_dvd (by decide)]
  have hmin : -2 ^ 31 ≤ v.toInt := v.le_toInt
  have hmax : v.toInt < 2 ^ 31 := v.toInt_lt
  rw [← BitVec.toInt_inj, ← BitVec.toInt_inj, hwide, hlow]
  constructor
  · intro h
    rw [← h]
    refine ⟨⟨hmin, hmax⟩, ?_⟩
    rw [Int.bmod_eq_of_le (by omega) (by omega)]
  · rintro ⟨⟨hlo, hhi⟩, h⟩
    rw [h, Int.bmod_eq_of_le (by omega) (by omega)]

/-- **`rel` has the target of the operand.** -/
theorem rel_iff {target : BitVec 64} :
    rel m (some p) offset remaining = .ok target ↔ RefersTo m p offset remaining target := by
  have htarget : ∀ v : BitVec 64, next p offset remaining + v = target ↔
      v = target - next p offset remaining := by
    intro v
    constructor
    · rintro rfl
      rw [BitVec.add_comm, BitVec.add_sub_cancel]
    · rintro rfl
      rw [BitVec.add_comm, BitVec.sub_add_cancel]
  rw [rel_some, RefersTo]
  constructor
  · intro h
    obtain ⟨v, hv, h⟩ := bind_eq_ok h
    obtain ⟨hrange, rfl⟩ := signExtend_eq_iff.mp ((htarget _).mp (Except.ok.inj h))
    refine ⟨hrange, ?_⟩
    rw [← LittleEndian.bytes_setWidth (n := 4) 32 (by decide)]
    exact Memory.readInt_ok_iff.mp hv
  · rintro ⟨hrange, hholds⟩
    rw [← LittleEndian.bytes_setWidth (n := 4) 32 (by decide)] at hholds
    rw [Memory.readInt_ok_iff.mpr hholds, ok_bind]
    exact congrArg Except.ok ((htarget _).mpr (signExtend_eq_iff.mpr ⟨hrange, rfl⟩))

end ScanResult

/-! ### Operands of what is found -/

section

variable {m : Memory} {first last : Nat} {signature : Signature}

/-- **An operand inside the signature** can be resolved at whatever is found.  The address is null
if nothing is found, and else the target of the operand at the first hit. -/
theorem findPattern_rel (target : Target) (alignment : ScanAlignment) (hints : ScanHint)
    (hsig : HasFullByte signature) (hdef : MasksDefined target .auto signature alignment hints)
    (hread : m.Readable first last) {offset : Nat}
    (hinside : offset + 4 ≤ signature.length) (remaining : Nat) :
    ∃ address, (do
        let result ← findPattern target m first last signature alignment hints
        ScanResult.rel m result offset remaining) = .ok address ∧
      ((Hits m signature alignment.toStride first last = ∅ ∧ address = 0) ∨
        ∃ p, IsLeast (Hits m signature alignment.toStride first last) p ∧
          ScanResult.RefersTo m p offset remaining address) := by
  obtain ⟨result, hresult, hfirst⟩ := findPattern_ok target alignment hints hsig hdef hread
  rw [hresult, ok_bind]
  cases result with
  | none => exact ⟨0, rfl, Or.inl ⟨isFirst_none.mp hfirst, rfl⟩⟩
  | some p =>
    have hleast := isFirst_some.mp hfirst
    obtain ⟨hlo, hhi, _⟩ := hleast.1
    have hoperand : m.Readable (p + offset) (p + offset + 4) := hread.mono (by omega) (by omega)
    obtain ⟨displacement, hdisplacement⟩ := hoperand.exists_readInt
    have hrel := @ScanResult.rel_some m p offset remaining
    rw [hdisplacement] at hrel
    exact ⟨_, hrel, Or.inr ⟨p, hleast, ScanResult.rel_iff.mp hrel⟩⟩

/-- `cmp DWORD PTR [rip+0x12353be],0x0`. -/
def cmpBytes : List Byte := [0x83, 0x3D, 0xBE, 0x53, 0x23, 0x01, 0x00]

/-- `83 3D ? ? ? ? 00`. -/
def cmpSignature : Signature :=
  [.ofByte 0x83, .ofByte 0x3D, .wildcard, .wildcard, .wildcard, .wildcard, .ofByte 0x00]

example : ScanResult.rel (Memory.ofBytes 0x1000 cmpBytes) (some 0x1000) 2 1
    = .ok (0x1000#64 + 0x12353C5#64) := by decide

theorem findPattern_rel_sample :
    ∃ address, (do
        let result ← findPattern default (Memory.ofBytes 0x1000 cmpBytes) 0x1000 0x1007
          cmpSignature .x1 0
        ScanResult.rel (Memory.ofBytes 0x1000 cmpBytes) result 2 1) = .ok address ∧
      ((Hits (Memory.ofBytes 0x1000 cmpBytes) cmpSignature 1 0x1000 0x1007 = ∅ ∧ address = 0) ∨
        ∃ p, IsLeast (Hits (Memory.ofBytes 0x1000 cmpBytes) cmpSignature 1 0x1000 0x1007) p ∧
          ScanResult.RefersTo (Memory.ofBytes 0x1000 cmpBytes) p 2 1 address) :=
  findPattern_rel default .x1 0 ⟨.ofByte 0x83, List.mem_cons_self, rfl⟩ (masksDefined_x1 _ _ _ _)
    (Memory.readable_ofBytes 0x1000 cmpBytes) (by decide) 1

end

end Libhat

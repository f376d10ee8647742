import Libhat.Lib.LittleEndian
import Libhat.Memory

/-!
# Integers and names in memory

* `readInt_ok_iff`: an integer is read exactly where its bytes stand.
* `readName_ok`: a name in a field is read up to a null character, if there is one.
-/

namespace Libhat

namespace Memory

/-! ### Integers -/

/-- The `n` bytes from `a` on. -/
def readBytes (m : Memory) : Nat → Nat → Exec (List Byte)
  | 0, _ => .ok []
  | n + 1, a => do
    let b ← m.read a
    let rest ← m.readBytes n (a + 1)
    return b :: rest

/-- An integer of `n` bytes. -/
def readInt (m : Memory) (n a : Nat) : Exec (BitVec (8 * n)) := do
  let bytes ← m.readBytes n a
  return BitVec.ofNat (8 * n) (LittleEndian.value bytes)

variable {m : Memory}

theorem read_eq_ok {a : Nat} {b : Byte} : m.read a = .ok b ↔ m a = some b := by
  rw [read]
  cases m a <;> simp

theorem holds_cons {a : Nat} {b : Byte} {rest : List Byte} :
    m.Holds a (b :: rest) ↔ m a = some b ∧ m.Holds (a + 1) rest := by
  refine ⟨fun h => ⟨h.head, h.tail⟩, fun h i hi => ?_⟩
  cases i with
  | zero => exact h.1
  | succ i =>
    have hnext := h.2 i (by simpa using hi)
    rwa [Nat.add_assoc, Nat.add_comm 1 i] at hnext

theorem holds_append {a : Nat} {bytes rest : List Byte} :
    m.Holds a (bytes ++ rest) ↔ m.Holds a bytes ∧ m.Holds (a + bytes.length) rest := by
  refine ⟨fun h => ⟨h.append_left, h.append_right⟩, ?_⟩
  rintro ⟨hbytes, hrest⟩
  induction bytes generalizing a with
  | nil => exact hrest
  | cons b bytes ih =>
    obtain ⟨hb, hbytes⟩ := holds_cons.mp hbytes
    refine holds_cons.mpr ⟨hb, ih hbytes ?_⟩
    rwa [List.length_cons, Nat.add_comm bytes.length, ← Nat.add_assoc] at hrest

/-- **The bytes that are read** are those that stand there. -/
theorem readBytes_eq_ok {n a : Nat} {bytes : List Byte} :
    m.readBytes n a = .ok bytes ↔ bytes.length = n ∧ m.Holds a bytes := by
  induction n generalizing a bytes with
  | zero =>
    rw [readBytes, Except.ok.injEq, List.length_eq_zero_iff, eq_comm]
    refine ⟨fun h => ⟨h, ?_⟩, And.left⟩
    rintro i hi
    rw [h] at hi
    exact absurd hi (Nat.not_lt_zero i)
  | succ n ih =>
    constructor
    · intro h
      rw [readBytes] at h
      obtain ⟨b, hb, h⟩ := bind_eq_ok h
      obtain ⟨rest, hrest, h⟩ := bind_eq_ok h
      obtain rfl := Except.ok.inj h
      obtain ⟨hlength, hholds⟩ := ih.mp hrest
      exact ⟨congrArg (· + 1) hlength, holds_cons.mpr ⟨read_eq_ok.mp hb, hholds⟩⟩
    · rintro ⟨hlength, hholds⟩
      cases bytes with
      | nil => cases hlength
      | cons b rest =>
        obtain ⟨hb, hrest⟩ := holds_cons.mp hholds
        rw [readBytes, read_eq_ok.mpr hb, ok_bind, ih.mpr ⟨Nat.succ.inj hlength, hrest⟩]
        rfl

/-- **An integer is read** exactly where its bytes stand. -/
theorem readInt_ok_iff {n a : Nat} {v : BitVec (8 * n)} :
    m.readInt n a = .ok v ↔ m.Holds a (LittleEndian.bytes n v) := by
  constructor
  · intro h
    obtain ⟨bytes, hbytes, h⟩ := bind_eq_ok h
    obtain ⟨hlength, hholds⟩ := readBytes_eq_ok.mp hbytes
    rwa [← (LittleEndian.ofNat_value_iff hlength).mp (Except.ok.inj h)]
  · intro h
    have hlength := LittleEndian.length_bytes n v
    rw [readInt, readBytes_eq_ok.mpr ⟨hlength, h⟩, ok_bind,
      (LittleEndian.ofNat_value_iff hlength).mpr rfl]
    rfl

/-- Where all of its bytes can be read, an integer stands. -/
theorem Readable.exists_readInt {n a : Nat} (h : m.Readable a (a + n)) :
    ∃ v : BitVec (8 * n), m.readInt n a = .ok v := by
  suffices hbytes : ∃ bytes, m.readBytes n a = .ok bytes by
    obtain ⟨bytes, hbytes⟩ := hbytes
    exact ⟨_, by rw [readInt, hbytes]; rfl⟩
  induction n generalizing a with
  | zero => exact ⟨[], rfl⟩
  | succ n ih =>
    obtain ⟨b, hb⟩ := h a (Nat.le_refl a) (by omega)
    obtain ⟨rest, hrest⟩ := ih (h.mono (Nat.le_succ a) (by omega))
    exact ⟨b :: rest, by rw [readBytes, read_of_some hb, ok_bind, hrest]; rfl⟩

/-! ### Names -/

/-- `strnlen`. -/
def strnlen (m : Memory) (a : Nat) : Nat → Exec Nat
  | 0 => .ok 0
  | n + 1 => do
    let b ← m.read a
    if b = 0 then return 0
    else do
      let size ← m.strnlen (a + 1) n
      return size + 1

/-- The string in a field of at most `n` characters. -/
def readName (m : Memory) (n a : Nat) : Exec (List Byte) := do
  let size ← m.strnlen a n
  m.readBytes size a

theorem strnlen_ok {a : Nat} {bytes : List Byte} (h : m.Holds a bytes) :
    m.strnlen a bytes.length = .ok (bytes.takeWhile (· ≠ 0)).length := by
  induction bytes generalizing a with
  | nil => rfl
  | cons b rest ih =>
    obtain ⟨hb, hrest⟩ := holds_cons.mp h
    rw [List.length_cons, strnlen, read_of_some hb, ok_bind]
    by_cases hzero : b = 0
    · rw [if_pos hzero, List.takeWhile_cons_of_neg (by simpa using hzero)]
      rfl
    · rw [if_neg hzero, List.takeWhile_cons_of_pos (by simpa using hzero), ih hrest]
      rfl

/-- **A name is read** up to a null character. -/
theorem readName_ok {a : Nat} {bytes : List Byte} (h : m.Holds a bytes) :
    m.readName bytes.length a = .ok (bytes.takeWhile (· ≠ 0)) := by
  have hprefix : m.Holds a (bytes.takeWhile (· ≠ 0)) := by
    rw [← List.takeWhile_append_dropWhile (p := (· ≠ 0)) (l := bytes)] at h
    exact h.append_left
  rw [readName, strnlen_ok h, ok_bind]
  exact readBytes_eq_ok.mpr ⟨rfl, hprefix⟩

end Memory

end Libhat

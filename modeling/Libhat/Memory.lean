import Mathlib.Data.Set.Basic

/-!
# The abstract machine

The C++ code works on bytes at addresses.  An address is a natural number, so
pointer arithmetic is arithmetic, and a null pointer is `0` where a pointer may
be null.  Buffers are not laid out at the very end of the address space, where a pointer
could wrap.  A memory says which addresses can be read; reading any other address
is a `Fault`, as is every other step the language leaves undefined, and a call of
`std::abort`.  A run of the code is then a value of `Exec`, and `.ok` says that no step
of it faulted.
-/

namespace Libhat

/-- `std::byte`. -/
abbrev Byte := BitVec 8

/-- What stops a run. -/
inductive Fault where
  /-- a byte that is not readable is read -/
  | read (a : Nat)
  /-- an aligned vector load at an address that is not aligned -/
  | misaligned (a : Nat)
  /-- a store past the end of a local buffer -/
  | write (i : Nat)
  /-- an element past the end of a span, or the predecessor of its first one -/
  | index (i : Nat)
  /-- the value of an empty `std::optional` -/
  | noValue
  /-- a call through a null function pointer -/
  | nullCall
  /-- a null pointer is dereferenced -/
  | nullDeref
  /-- memory is used as an object that it does not hold -/
  | badObject (a : Nat)
  /-- signed arithmetic leaves its type -/
  | overflow
  /-- `std::abort` -/
  | abort
  /-- a loop goes on past its budget of passes -/
  | budget
  deriving DecidableEq, Repr

abbrev Exec := Except Fault

@[simp] theorem ok_bind {α β : Type} (a : α) (f : α → Exec β) :
    ((Except.ok a : Exec α) >>= f) = f a := rfl

/-- **A sequence that succeeds** succeeds in both of its parts. -/
theorem bind_eq_ok {ε α β : Type} {x : Except ε α} {f : α → Except ε β} {b : β}
    (h : x >>= f = .ok b) : ∃ a, x = .ok a ∧ f a = .ok b := by
  cases x with
  | error e => cases h
  | ok a => exact ⟨a, rfl, h⟩

/-- A sequence that fails fails in one of its parts. -/
theorem bind_eq_error {ε α β : Type} {x : Except ε α} {f : α → Except ε β} {e : ε}
    (h : x >>= f = .error e) : x = .error e ∨ ∃ a, x = .ok a ∧ f a = .error e := by
  cases x with
  | error e' =>
    cases h
    exact Or.inl rfl
  | ok a => exact Or.inr ⟨a, rfl, h⟩

@[simp] theorem pure_eq_ok {α : Type} (a : α) : (pure a : Exec α) = .ok a := rfl

/-- `std::span<std::byte>`: where it begins, and its number of bytes. -/
structure ByteSpan where
  data : BitVec 64
  size : BitVec 64
  deriving DecidableEq, Repr

namespace ByteSpan

/-- `{}`. -/
def none : ByteSpan := ⟨0, 0⟩

/-- `empty()`. -/
def empty (span : ByteSpan) : Bool := span.size == 0

end ByteSpan

/-- The readable bytes, by address. -/
abbrev Memory := Nat → Option Byte

namespace Memory

/-- `*p` for a pointer to a byte. -/
def read (m : Memory) (a : Nat) : Exec Byte :=
  match m a with
  | some b => .ok b
  | none => .error (.read a)

theorem read_of_some {m : Memory} {a : Nat} {b : Byte} (h : m a = some b) :
    m.read a = .ok b := by
  rw [read, h]

/-- The memory in which exactly the buffer `bytes` at `base` can be read. -/
def ofBytes (base : Nat) (bytes : List Byte) : Memory :=
  fun a => if base ≤ a then bytes[a - base]? else none

theorem ofBytes_add {base : Nat} {bytes : List Byte} {i : Nat} :
    ofBytes base bytes (base + i) = bytes[i]? := by
  simp [ofBytes]

/-- The bytes from `a` on are those of the array. -/
def Holds (m : Memory) (a : Nat) (bytes : List Byte) : Prop :=
  ∀ (i : Nat) (h : i < bytes.length), m (a + i) = some bytes[i]

theorem Holds.head {m : Memory} {a : Nat} {b : Byte} {rest : List Byte}
    (h : m.Holds a (b :: rest)) : m a = some b := h 0 (by simp)

theorem Holds.tail {m : Memory} {a : Nat} {b : Byte} {rest : List Byte}
    (h : m.Holds a (b :: rest)) : m.Holds (a + 1) rest := by
  intro i hi
  have hnext := h (i + 1) (by simpa using hi)
  rwa [Nat.add_assoc, Nat.add_comm 1 i]

theorem Holds.append_left {m : Memory} {a : Nat} {bytes rest : List Byte}
    (h : m.Holds a (bytes ++ rest)) : m.Holds a bytes := by
  intro i hi
  have hlt : i < (bytes ++ rest).length := by
    rw [List.length_append]
    omega
  rw [h i hlt, List.getElem_append_left hi]

theorem Holds.append_right {m : Memory} {a : Nat} {bytes rest : List Byte}
    (h : m.Holds a (bytes ++ rest)) : m.Holds (a + bytes.length) rest := by
  intro i hi
  have hlt : bytes.length + i < (bytes ++ rest).length := by
    rw [List.length_append]
    omega
  rw [Nat.add_assoc, h (bytes.length + i) hlt,
    List.getElem_append_right (Nat.le_add_right _ _)]
  simp

/-- Every byte of `[first, last)` can be read. -/
def Readable (m : Memory) (first last : Nat) : Prop :=
  ∀ a, first ≤ a → a < last → ∃ b, m a = some b

theorem Readable.mono {m : Memory} {first last first' last' : Nat}
    (h : m.Readable first last) (hf : first ≤ first') (hl : last' ≤ last) :
    m.Readable first' last' :=
  fun a ha ha' => h a (by omega) (by omega)

theorem Holds.readable {m : Memory} {a : Nat} {bytes : List Byte} (h : m.Holds a bytes) :
    m.Readable a (a + bytes.length) := by
  intro b hb hb'
  obtain ⟨i, rfl⟩ := Nat.exists_eq_add_of_le hb
  exact ⟨_, h i (by omega)⟩

theorem readable_ofBytes (base : Nat) (bytes : List Byte) :
    (ofBytes base bytes).Readable base (base + bytes.length) := by
  intro a ha ha'
  obtain ⟨i, rfl⟩ := Nat.exists_eq_add_of_le ha
  have hi : i < bytes.length := by omega
  exact ⟨bytes[i], by rw [ofBytes_add, List.getElem?_eq_getElem hi]⟩

/-- The memory in which only the bytes of `[first, last)` can be read. -/
def restrict (m : Memory) (first last : Nat) : Memory :=
  fun a => if first ≤ a ∧ a < last then m a else none

theorem restrict_eq {m : Memory} {first last a : Nat} (h : first ≤ a) (h' : a < last) :
    m.restrict first last a = m a := if_pos ⟨h, h'⟩

theorem Readable.restrict {m : Memory} {first last : Nat} (h : m.Readable first last) :
    (m.restrict first last).Readable first last := by
  intro a ha ha'
  rw [restrict_eq ha ha']
  exact h a ha ha'

end Memory

end Libhat

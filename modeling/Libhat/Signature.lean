import Libhat.Memory
import Mathlib.Data.Set.Basic

/-!
# Signatures

A signature is a list of elements; an element is a byte together with a mask,
and matches the bytes that agree with it under the mask.  Every constructor of
the source masks the value, so `SignatureElement` carries that fact.

`MatchesAt m sig p` is what a scanner looks for: the bytes from `p` on match the
elements of `sig` one after the other.  `stdEqual`, the element-wise comparison
`std::equal(signature.begin(), signature.end(), p)`, decides it wherever the
bytes can be read (`stdEqual_eq`).
-/

namespace Libhat

/-- `signature_element`: `value_` and `mask_`, with no value bit outside the mask. -/
structure SignatureElement where
  value : Byte
  mask : Byte
  value_and_mask : value &&& mask = value
  deriving DecidableEq

namespace SignatureElement

/-- `signature_element()` and `signature_element(std::nullopt)`. -/
def wildcard : SignatureElement := ⟨0, 0, rfl⟩

/-- `signature_element(value, mask)`. -/
def ofMasked (value mask : Byte) : SignatureElement :=
  ⟨value &&& mask, mask, by rw [BitVec.and_assoc, BitVec.and_self]⟩

/-- `signature_element(value)`. -/
def ofByte (value : Byte) : SignatureElement := ⟨value, 0xFF#8, BitVec.and_allOnes⟩

def all (e : SignatureElement) : Bool := e.mask == 0xFF#8

def none (e : SignatureElement) : Bool := e.mask == 0x00#8

/-- `has(digit)`: the mask has the digit. -/
def has (e : SignatureElement) (digit : Nat) : Bool := e.mask &&& (1#8 <<< digit) != 0

/-- `at(digit)`: the value has the digit. -/
def atDigit (e : SignatureElement) (digit : Nat) : Bool := e.value &&& (1#8 <<< digit) != 0

/-- `operator==(std::byte)`. -/
def accepts (e : SignatureElement) (b : Byte) : Bool := (b &&& e.mask) == e.value

theorem accepts_iff {e : SignatureElement} {b : Byte} :
    e.accepts b = true ↔ b &&& e.mask = e.value := by
  simp [accepts]

/-- A fully masked element matches its own value only. -/
theorem accepts_of_all {e : SignatureElement} (h : e.all = true) {b : Byte} :
    e.accepts b = true ↔ b = e.value := by
  have hm : e.mask = 0xFF#8 := by simpa [all] using h
  rw [accepts_iff, hm, show (0xFF#8 : Byte) = BitVec.allOnes 8 from rfl, BitVec.and_allOnes]

/-- The vector comparison: the bits that differ from the value miss the mask.
This is the element's own comparison because the value is masked. -/
theorem accepts_iff_xor {e : SignatureElement} {b : Byte} :
    e.accepts b = true ↔ (b ^^^ e.value) &&& e.mask = 0#8 := by
  have hdistrib : (b ^^^ e.value) &&& e.mask = (b &&& e.mask) ^^^ (e.value &&& e.mask) := by
    ext i
    simp [Bool.and_xor_distrib_right]
  rw [accepts_iff, hdistrib, e.value_and_mask, BitVec.xor_eq_zero_iff]

theorem ofMasked_accepts {value mask b : Byte} :
    (ofMasked value mask).accepts b = true ↔ b &&& mask = value &&& mask := accepts_iff

end SignatureElement

/-- `signature`, and `signature_view` on one. -/
abbrev Signature := List SignatureElement

/-- A signature that can be scanned for: some element is fully masked. -/
def HasFullByte (signature : Signature) : Prop := ∃ e ∈ signature, e.all = true

theorem HasFullByte.ne_nil {signature : Signature} (h : HasFullByte signature) :
    signature ≠ [] := by
  obtain ⟨e, he, _⟩ := h
  exact List.ne_nil_of_mem he

/-- `signature[i]`. -/
def elementAt (signature : Signature) (i : Nat) : Exec SignatureElement :=
  match signature[i]? with
  | some e => .ok e
  | none => .error (.index i)

/-- The bytes from `p` on match the elements of the signature. -/
def MatchesAt (m : Memory) (signature : Signature) (p : Nat) : Prop :=
  ∀ (j : Nat) (h : j < signature.length), ∃ b, m (p + j) = some b ∧ signature[j].accepts b = true

/-- A match only looks at the bytes of the signature's length. -/
theorem matchesAt_restrict {m : Memory} {signature : Signature} {p first last : Nat}
    (h : first ≤ p) (h' : p + signature.length ≤ last) :
    MatchesAt (m.restrict first last) signature p ↔ MatchesAt m signature p := by
  apply forall₂_congr
  intro j hj
  rw [Memory.restrict_eq (by omega) (by omega)]

/-- `std::equal(signature.begin(), signature.end(), p)`. -/
def stdEqual (m : Memory) : Signature → Nat → Exec Bool
  | [], _ => pure true
  | e :: rest, p => do
    let b ← m.read p
    if e.accepts b then stdEqual m rest (p + 1) else pure false

theorem matchesAt_nil (m : Memory) (p : Nat) : MatchesAt m [] p :=
  fun _ h => absurd h (Nat.not_lt_zero _)

theorem matchesAt_cons {m : Memory} {e : SignatureElement} {rest : Signature} {p : Nat} :
    MatchesAt m (e :: rest) p ↔
      (∃ b, m p = some b ∧ e.accepts b = true) ∧ MatchesAt m rest (p + 1) := by
  constructor
  · intro h
    refine ⟨h 0 (by simp), fun j hj => ?_⟩
    have hj' := h (j + 1) (by simpa using hj)
    rwa [show p + 1 + j = p + (j + 1) by omega]
  · intro h' j hj
    obtain ⟨h0, h⟩ := h'
    cases j with
    | zero => exact h0
    | succ j =>
      have hj' := h j (by simpa using hj)
      rwa [show p + 1 + j = p + (j + 1) by omega] at hj'

/-- **The element-wise comparison decides the match** where the bytes are readable. -/
theorem stdEqual_eq {m : Memory} : ∀ {signature : Signature} {p : Nat},
    m.Readable p (p + signature.length) →
      ∃ r, stdEqual m signature p = .ok r ∧ (r = true ↔ MatchesAt m signature p) := by
  intro signature
  induction signature with
  | nil => intro p _; exact ⟨true, rfl, by simp [matchesAt_nil]⟩
  | cons e rest ih =>
    intro p hread
    obtain ⟨b, hb⟩ := hread p le_rfl (by simp)
    rw [stdEqual, Memory.read_of_some hb, ok_bind, matchesAt_cons]
    by_cases he : e.accepts b = true
    · rw [if_pos he]
      obtain ⟨r, hr, hiff⟩ := ih (hread.mono (Nat.le_succ p) (by simp; omega))
      refine ⟨r, hr, hiff.trans ⟨fun h => ⟨⟨b, hb, he⟩, h⟩, fun h => h.2⟩⟩
    · rw [if_neg he]
      refine ⟨false, rfl, ?_⟩
      simp [hb, he]

end Libhat

import Libhat.Memory
import Mathlib

/-!
# Integers from text

`parse_int` reads an integer of any integral type in any base up to 36.  Its
arithmetic is the arithmetic of C++: operands narrower than `int` are promoted to
it, signed arithmetic that leaves its type is a fault, and the result is brought
back to the integral type, where unsigned values wrap around.

`digitOf_eq_some` says which characters are digits; what the whole of `parse_int` computes is
said in `ParseInt.lean`.
-/

namespace Libhat

/-- A `char`; only characters of the ASCII range are ever compared with. -/
abbrev Text := List Char

/-- An integral type that has a width: any but `bool`. -/
structure IntType where
  width : Nat
  signed : Bool
  deriving DecidableEq, Repr

namespace IntType

def uint8 : IntType := ⟨8, false⟩

def int : IntType := ⟨32, true⟩

/-- A conversion to the type: modulo `2 ^ width`. -/
def convert (t : IntType) (x : Int) : Int :=
  if t.signed then x.bmod (2 ^ t.width) else x % (2 ^ t.width : Nat)

/-- The type in which a value of the type and an `int` are combined. -/
def promote (t : IntType) : IntType := if t.width < int.width then int else t

/-- The result of an operation whose exact value is `x`. -/
def arith (t : IntType) (x : Int) : Exec Int :=
  if t.signed then
    if -2 ^ (t.width - 1) ≤ x ∧ x < 2 ^ (t.width - 1) then .ok x else .error .overflow
  else
    .ok (t.convert x)

/-- `value op= operand`, whose exact result is `x`. -/
def assign (t : IntType) (x : Int) : Exec Int := do
  let r ← t.promote.arith x
  return t.convert r

end IntType

/-- `parse_int_error`. -/
inductive ParseIntError where
  | invalidBase
  | illegalChar
  deriving DecidableEq, Repr

/-- The digit that the chain of comparisons in `parse_int` gives a character. -/
def digitOf (base : Nat) (ch : Char) : Option Nat :=
  let digits := if base < 10 then base else 10
  let letters := if base > 10 then base - 10 else 0
  if '0'.toNat ≤ ch.toNat ∧ ch.toNat < '0'.toNat + digits then
    some (ch.toNat - '0'.toNat)
  else if 'A'.toNat ≤ ch.toNat ∧ ch.toNat < 'A'.toNat + letters then
    some (ch.toNat - 'A'.toNat + 10)
  else if 'a'.toNat ≤ ch.toNat ∧ ch.toNat < 'a'.toNat + letters then
    some (ch.toNat - 'a'.toNat + 10)
  else
    none

/-- The loop of `parse_int` over the characters that are left. -/
def parseDigits (t : IntType) (base : Nat) : Text → Int → Exec (Except ParseIntError Int)
  | [], value => pure (.ok value)
  | ch :: rest, value => do
    let value ← t.assign (value * base)
    match digitOf base ch with
    | some digit => do
      let value ← t.assign (value + t.convert digit)
      parseDigits t base rest value
    | none => pure (.error .illegalChar)

/-- The sign in front, for a signed type, and the characters after it. -/
def parseSign (t : IntType) (str : Text) : Int × Text :=
  match str with
  | '+' :: rest => if t.signed then (1, rest) else (1, str)
  | '-' :: rest => if t.signed then (-1, rest) else (1, str)
  | _ => (1, str)

/-- `parse_int<Integer>`. -/
def parseInt (t : IntType) (str : Text) (base : Nat) : Exec (Except ParseIntError Int) := do
  if base < 2 ∨ base > 36 then
    return .error .invalidBase
  let (sign, digits) := parseSign t str
  match ← parseDigits t base digits 0 with
  | .ok value => do
    let r ← t.assign (sign * value)
    return .ok r
  | .error e => return .error e

/-! ### Digits -/

theorem ite_some_eq_iff {α : Type} {p : Prop} [Decidable p] {x d : α} {o : Option α} :
    (if p then some x else o) = some d ↔ (p ∧ x = d) ∨ (¬ p ∧ o = some d) := by
  by_cases hp : p
  · simp [hp]
  · simp [hp]

/-- The three ranges of characters. -/
theorem digitOf_eq_some {base : Nat} {c : Char} {d : Nat} : digitOf base c = some d ↔
    (48 ≤ c.toNat ∧ c.toNat < 48 + min base 10 ∧ d = c.toNat - 48) ∨
      (65 ≤ c.toNat ∧ c.toNat < 65 + (base - 10) ∧ d = c.toNat - 65 + 10) ∨
      (97 ≤ c.toNat ∧ c.toNat < 97 + (base - 10) ∧ ¬ c.toNat < 65 + (base - 10) ∧
        d = c.toNat - 97 + 10) := by
  have h0 : '0'.toNat = 48 := rfl
  have hA : 'A'.toNat = 65 := rfl
  have ha : 'a'.toNat = 97 := rfl
  have hdigits : (if base < 10 then base else 10) = min base 10 := by split <;> omega
  have hletters : (if base > 10 then base - 10 else 0) = base - 10 := by split <;> omega
  simp only [digitOf, h0, hA, ha, hdigits, hletters, ite_some_eq_iff, reduceCtorEq, and_false,
    or_false]
  omega

theorem isSome_digitOf_iff {base : Nat} {c : Char} : (digitOf base c).isSome = true ↔
    (48 ≤ c.toNat ∧ c.toNat < 48 + min base 10) ∨
      (65 ≤ c.toNat ∧ c.toNat < 65 + (base - 10)) ∨
      (97 ≤ c.toNat ∧ c.toNat < 97 + (base - 10)) := by
  rw [Option.isSome_iff_exists]
  constructor
  · intro h
    obtain ⟨d, hd⟩ := h
    rw [digitOf_eq_some] at hd
    omega
  · intro h
    rcases h with h | h | h
    · exact ⟨c.toNat - 48, digitOf_eq_some.mpr (by omega)⟩
    · exact ⟨c.toNat - 65 + 10, digitOf_eq_some.mpr (by omega)⟩
    · by_cases hupper : c.toNat < 65 + (base - 10)
      · exact ⟨c.toNat - 65 + 10, digitOf_eq_some.mpr (by omega)⟩
      · exact ⟨c.toNat - 97 + 10, digitOf_eq_some.mpr (by omega)⟩

theorem digitOf_lt {base : Nat} {ch : Char} {d : Nat} (h : digitOf base ch = some d) :
    d < base := by
  rw [digitOf_eq_some] at h
  omega

end Libhat

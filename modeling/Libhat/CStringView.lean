import Libhat.Lib.Runs
import Libhat.Memory
import Mathlib.Algebra.Ring.Nat
import Mathlib.Logic.Function.Basic

/-!
# Views of null-terminated strings

`basic_cstring_view` wraps a `std::basic_string_view`, and is to be a view with a null
character behind its last one.  The views that a program makes stand at places, and the
strings that they look at stay as they are.

* `always_terminated_iff`: in a run of operations all views are null-terminated at all
  times if and only if none of them is default constructed.
-/

namespace Libhat

open Runs

/-- The characters that can be read, by address; addresses count characters. -/
abbrev Characters (CharT : Type) := Nat → Option CharT

section

variable {CharT : Type} [Zero CharT]

/-! ### The classes -/

/-- `std::basic_string_view`. -/
structure StringView where
  data : Nat
  size : Nat

namespace StringView

/-- The default constructor. -/
def empty : StringView := ⟨0, 0⟩

/-- `substr(pos)`, which throws past the end. -/
def substr (v : StringView) (pos : Nat) : Option StringView :=
  if pos > v.size then none else some ⟨v.data + pos, v.size - pos⟩

/-- `remove_prefix`. -/
def removePrefix (v : StringView) (n : Nat) : StringView := ⟨v.data + n, v.size - n⟩

end StringView

/-- `basic_cstring_view`. -/
structure CStringView where
  impl : StringView

namespace CStringView

/-- The default constructor. -/
def default : CStringView := ⟨.empty⟩

/-- `basic_cstring_view(null_terminated, c_str, size)`. -/
def ofNullTerminated (p size : Nat) : CStringView := ⟨⟨p, size⟩⟩

/-- `basic_cstring_view(str)`, for a string with these values of `data()` and `size()`. -/
def ofString (data size : Nat) : CStringView := ⟨⟨data, size⟩⟩

/-- `c_str`. -/
def cStr (v : CStringView) : Nat := v.impl.data

/-- `size`. -/
def size (v : CStringView) : Nat := v.impl.size

/-- `substr` with one argument. -/
def substr (v : CStringView) (pos : Nat) : Option CStringView := (v.impl.substr pos).map .mk

/-- `remove_prefix`. -/
def removePrefix (v : CStringView) (n : Nat) : CStringView := ⟨v.impl.removePrefix n⟩

/-- The null-terminator invariant. -/
def Terminated (m : Characters CharT) (v : CStringView) : Prop :=
  v.cStr ≠ 0 ∧ m (v.cStr + v.size) = some 0

variable {m : Characters CharT} {v : CStringView}

theorem not_terminated_default : ¬ default.Terminated m := fun h => h.1 rfl

theorem Terminated.substr (h : v.Terminated m) {pos : Nat} {w : CStringView}
    (hw : v.substr pos = some w) : w.Terminated m := by
  rw [CStringView.substr, StringView.substr] at hw
  by_cases hpos : pos > v.impl.size
  · rw [if_pos hpos] at hw
    exact absurd hw (by simp)
  · rw [if_neg hpos, Option.map_some, Option.some.injEq] at hw
    obtain ⟨hdata, hend⟩ := h
    rw [← hw]
    refine ⟨fun hzero => hdata (by simp only [cStr] at hzero ⊢; omega), ?_⟩
    rw [← hend]
    congr 1
    simp only [cStr, size]
    omega

theorem Terminated.removePrefix (h : v.Terminated m) {n : Nat} (hn : n ≤ v.size) :
    (v.removePrefix n).Terminated m := by
  obtain ⟨hdata, hend⟩ := h
  refine ⟨fun hzero => hdata ?_, ?_⟩
  · simp only [cStr, CStringView.removePrefix, StringView.removePrefix] at hzero ⊢
    omega
  · rw [← hend]
    congr 1
    simp only [cStr, size, CStringView.removePrefix, StringView.removePrefix] at hn ⊢
    omega

end CStringView

/-- The views of a program, by their places. -/
abbrev Views := Nat → Option CStringView

/-- Every view is null-terminated. -/
def AllTerminated (m : Characters CharT) (views : Views) : Prop :=
  ∀ place v, views place = some v → v.Terminated m

variable {m : Characters CharT} {views : Views}

theorem AllTerminated.update (h : AllTerminated m views) {v : CStringView}
    (hv : v.Terminated m) (target : Nat) :
    AllTerminated m (Function.update views target (some v)) := by
  intro place w hw
  by_cases hplace : place = target
  · rw [hplace, Function.update_self, Option.some.injEq] at hw
    exact hw ▸ hv
  · rw [Function.update_of_ne hplace] at hw
    exact h place w hw

variable [DecidableEq CharT]

/-! ### C strings -/

/-- `Traits::length`: the distance from `p` to the first null character. -/
def traitsLength (m : Characters CharT) : Nat → Nat → Exec Nat
  | 0, _ => .error .budget
  | budget + 1, p =>
    match m p with
    | none => .error (.read p)
    | some c => if c = 0 then .ok 0 else do
      let n ← traitsLength m budget (p + 1)
      return n + 1

/-- A C string of `n` characters at `p`. -/
def IsCString (m : Characters CharT) (p n : Nat) : Prop :=
  p ≠ 0 ∧ n < 2 ^ 64 ∧ (∀ i < n, ∃ c, m (p + i) = some c ∧ c ≠ 0) ∧ m (p + n) = some 0

theorem traitsLength_ok : ∀ {n p budget : Nat}, n < budget →
    (∀ i < n, ∃ c, m (p + i) = some c ∧ c ≠ 0) → m (p + n) = some 0 →
    traitsLength m budget p = .ok n := by
  intro n
  induction n with
  | zero =>
    intro p budget hbudget _ hend
    obtain ⟨budget, rfl⟩ : ∃ b, budget = b + 1 := ⟨budget - 1, by omega⟩
    rw [Nat.add_zero] at hend
    rw [traitsLength, hend]
    exact if_pos rfl
  | succ n ih =>
    intro p budget hbudget hchars hend
    obtain ⟨budget, rfl⟩ : ∃ b, budget = b + 1 := ⟨budget - 1, by omega⟩
    obtain ⟨c, hc, hne⟩ := hchars 0 (by omega)
    have hrest : traitsLength m budget (p + 1) = .ok n := by
      refine ih (by omega) (fun i hi => ?_) ?_
      · rw [Nat.add_assoc, Nat.add_comm 1 i]
        exact hchars (i + 1) (by omega)
      · rw [Nat.add_assoc, Nat.add_comm 1 n]
        exact hend
    rw [traitsLength, show m p = some c from hc]
    show (if c = 0 then _ else _) = _
    rw [if_neg hne, hrest]
    rfl

/-- `basic_cstring_view(c_str)`. -/
def CStringView.ofCStr (m : Characters CharT) (p : Nat) : Exec CStringView := do
  let n ← traitsLength m (2 ^ 64) p
  return ⟨⟨p, n⟩⟩

/-- **A C string** gives a view that ends at its terminator. -/
theorem CStringView.ofCStr_ok {p n : Nat} (h : IsCString m p n) :
    ofCStr m p = .ok (ofNullTerminated p n) ∧ (ofNullTerminated p n).Terminated m := by
  obtain ⟨hp, hn, hchars, hend⟩ := h
  refine ⟨?_, hp, hend⟩
  rw [ofCStr, traitsLength_ok hn hchars hend]
  rfl

/-! ### Runs -/

/-- What can happen to views.  A result is stored at `target`. -/
inductive ViewEvent where
  | default (target : Nat)
  | ofCStr (target p : Nat)
  | ofNullTerminated (target p size : Nat)
  | ofString (target data size : Nat)
  | copy (source target : Nat)
  | swap (left right : Nat)
  | substr (source target pos : Nat)
  | removePrefix (place n : Nat)

/-- One event.  An operation that throws leaves the views as they are. -/
def viewStep (m : Characters CharT) (views : Views) : ViewEvent → Views
  | .default target => Function.update views target (some .default)
  | .ofCStr target p =>
    match CStringView.ofCStr m p with
    | .ok v => Function.update views target (some v)
    | .error _ => views
  | .ofNullTerminated target p size =>
    Function.update views target (some (.ofNullTerminated p size))
  | .ofString target data size => Function.update views target (some (.ofString data size))
  | .copy source target =>
    match views source with
    | some v => Function.update views target (some v)
    | none => views
  | .swap left right =>
    match views left, views right with
    | some v, some w => Function.update (Function.update views left (some w)) right (some v)
    | _, _ => views
  | .substr source target pos =>
    match (views source).bind fun v => v.substr pos with
    | some v => Function.update views target (some v)
    | none => views
  | .removePrefix place n =>
    match views place with
    | some v => Function.update views place (some (v.removePrefix n))
    | none => views

/-- What the operations ask of their callers. -/
def ViewEvent.Valid (m : Characters CharT) (views : Views) : ViewEvent → Prop
  | .ofCStr _ p => ∃ n, IsCString m p n
  | .ofNullTerminated _ p size => p ≠ 0 ∧ m (p + size) = some 0
  -- `data()[size()]` of a `std::basic_string` is a null character
  | .ofString _ data size => data ≠ 0 ∧ m (data + size) = some 0
  | .removePrefix place n => ∀ v, views place = some v → n ≤ v.size
  | _ => True

/-- **One event** keeps all views null-terminated unless it is a default construction. -/
theorem viewStep_terminated_iff (e : ViewEvent) (h : AllTerminated m views)
    (hvalid : e.Valid m views) :
    AllTerminated m (viewStep m views e) ↔ ∀ target, e ≠ .default target := by
  cases e with
  | default target =>
    refine iff_of_false (fun hall => ?_) (fun hne => hne target rfl)
    exact CStringView.not_terminated_default (hall target .default (Function.update_self _ _ _))
  | ofCStr target p =>
    obtain ⟨n, hn⟩ := hvalid
    obtain ⟨hview, hterminated⟩ := CStringView.ofCStr_ok hn
    refine iff_of_true ?_ (by simp)
    rw [viewStep, hview]
    exact h.update hterminated target
  | ofNullTerminated target p size =>
    refine iff_of_true (h.update ?_ target) (by simp)
    exact hvalid
  | ofString target data size =>
    refine iff_of_true (h.update ?_ target) (by simp)
    exact hvalid
  | copy source target =>
    refine iff_of_true ?_ (by simp)
    rw [viewStep]
    cases hsource : views source with
    | none => exact h
    | some v => exact h.update (h source v hsource) target
  | swap left right =>
    refine iff_of_true ?_ (by simp)
    rw [viewStep]
    cases hleft : views left with
    | none => exact h
    | some v =>
      cases hright : views right with
      | none => exact h
      | some w => exact (h.update (h right w hright) left).update (h left v hleft) right
  | substr source target pos =>
    refine iff_of_true ?_ (by simp)
    rw [viewStep]
    cases hsource : views source with
    | none => exact h
    | some v =>
      rw [Option.bind_some]
      cases hw : v.substr pos with
      | none => exact h
      | some w => exact h.update ((h source v hsource).substr hw) target
  | removePrefix place n =>
    refine iff_of_true ?_ (by simp)
    rw [viewStep]
    cases hplace : views place with
    | none => exact h
    | some v => exact h.update ((h place v hplace).removePrefix (hvalid v hplace)) place

/-- **The null-terminator invariant.**  In a run that begins without views and whose
operations are used as they ask for, every view is null-terminated at all times if and only
if no view is default constructed. -/
theorem always_terminated_iff (m : Characters CharT) (run : List ViewEvent)
    (hvalid : Steps (viewStep m) (fun views e => e.Valid m views) (fun _ => none) run) :
    Always (viewStep m) (AllTerminated m) (fun _ => none) run ↔
      Steps (viewStep m) (fun _ e => ∀ target, e ≠ .default target) (fun _ => none) run :=
  always_iff_steps (fun _ e h hv => viewStep_terminated_iff e h hv) (by simp [AllTerminated])
    hvalid

end

/-- The string `"ab"` at address 100. -/
def abString : Characters Nat := fun p => if p = 100 then some 97 else if p = 101 then some 98
  else if p = 102 then some 0 else none

theorem always_terminated_iff_sample :
    Always (viewStep abString) (AllTerminated abString) (fun _ => none)
      [.ofNullTerminated 0 100 2, .substr 0 1 1, .removePrefix 1 1, .swap 0 1] := by
  refine (always_terminated_iff abString _ ?_).mpr ?_
  · refine ⟨⟨by decide, rfl⟩, trivial, ?_, trivial, trivial⟩
    intro v hv
    rw [← Option.some.inj hv]
    decide
  · exact ⟨by simp, by simp, by simp, by simp, trivial⟩

/-- A view that is default constructed has a null pointer for a C string. -/
theorem default_not_terminated :
    Steps (viewStep abString) (fun views e => e.Valid abString views) (fun _ => none)
      [.default 0] ∧
    after (viewStep abString) (fun _ => none) [.default 0] 0 = some .default ∧
    CStringView.default.cStr = 0 ∧
    ¬ Always (viewStep abString) (AllTerminated abString) (fun _ => none) [.default 0] := by
  refine ⟨⟨trivial, trivial⟩, rfl, rfl, ?_⟩
  intro hall
  exact CStringView.not_terminated_default (hall.2 0 .default rfl)

end Libhat

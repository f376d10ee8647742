import Mathlib.Order.Basic

/-!
# Loops that can fail

A loop of an imperative program is a body, run again and again on a state until
it leaves with a result.  `run` gives the body a budget of passes and an error
for the case that the budget is spent, so a statement that a run is `.ok` says
that the loop ends, with that result, within the budget.

`heads` lists the states in which the body is entered.

* `run_ok`: an invariant and a measure that every further pass lowers give the
  total correctness of the loop.
* `run_cursor`: a cursor that passes over what has a property until it is at the end tells
  whether all of a range has it.
-/

namespace Loop

variable {σ α ε : Type}

/-- What one pass through a loop body decides. -/
inductive Step (σ α : Type) where
  | next (s : σ)
  | done (a : α)

/-- Run `body` from `s`, at most `budget` times. -/
def run (spent : ε) (body : σ → Except ε (Step σ α)) : Nat → σ → Except ε α
  | 0, _ => .error spent
  | budget + 1, s =>
    match body s with
    | .error e => .error e
    | .ok (.done a) => .ok a
    | .ok (.next s') => run spent body budget s'

/-- The states in which `run` enters the body, in order. -/
def heads (body : σ → Except ε (Step σ α)) : Nat → σ → List σ
  | 0, _ => []
  | budget + 1, s =>
    s :: match body s with
      | .ok (.next s') => heads body budget s'
      | _ => []

variable {spent : ε} {body : σ → Except ε (Step σ α)}

theorem run_done {s : σ} {a : α} {budget : Nat} (h : body s = .ok (.done a)) :
    run spent body (budget + 1) s = .ok a := by
  rw [run, h]

theorem run_next {s s' : σ} {budget : Nat} (h : body s = .ok (.next s')) :
    run spent body (budget + 1) s = run spent body budget s' := by
  rw [run, h]

theorem heads_done {s : σ} {a : α} {budget : Nat} (h : body s = .ok (.done a)) :
    heads body (budget + 1) s = [s] := by
  rw [heads, h]

theorem heads_next {s s' : σ} {budget : Nat} (h : body s = .ok (.next s')) :
    heads body (budget + 1) s = s :: heads body budget s' := by
  rw [heads, h]

/-- **Total correctness of a loop.**  From a state with the invariant `I` the
body either leaves with a result in `Q` or goes on to a state with `I` and a
smaller measure. -/
theorem run_ok {I : σ → Prop} {Q : α → Prop} (measure : σ → Nat)
    (hstep : ∀ s, I s → (∃ a, body s = .ok (.done a) ∧ Q a) ∨
      ∃ s', body s = .ok (.next s') ∧ I s' ∧ measure s' < measure s) :
    ∀ {budget : Nat} {s : σ}, I s → measure s < budget →
      ∃ a, run spent body budget s = .ok a ∧ Q a := by
  intro budget
  induction budget with
  | zero => intro s _ hm; omega
  | succ budget ih =>
    intro s hs hm
    rcases hstep s hs with ⟨a, hb, hq⟩ | ⟨s', hb, hs', hlt⟩
    · exact ⟨a, run_done hb, hq⟩
    · rw [run_next hb]
      exact ih hs' (by omega)

/-- What a pass with the cursor at `pos s` does in a search for an address below `last` without
the property `P`: it is done at the end, or at such an address, or passes over addresses that
have the property. -/
def Passes (body : σ → Except ε (Step σ Bool)) (pos : σ → Nat) (P : Nat → Prop) (last : Nat)
    (s : σ) : Prop :=
  (last ≤ pos s ∧ body s = .ok (.done true)) ∨
  (pos s < last ∧ ¬ P (pos s) ∧ body s = .ok (.done false)) ∨
  (pos s < last ∧ ∃ s', pos s < pos s' ∧ (∀ a, pos s ≤ a → a < pos s' → P a) ∧
    body s = .ok (.next s'))

/-- **A loop with a cursor** ends, and tells whether all addresses up to `last` have the
property. -/
theorem run_cursor {body : σ → Except ε (Step σ Bool)} {pos : σ → Nat} {P : Nat → Prop}
    {last budget : Nat} (hpass : ∀ s, Passes body pos P last s) {s : σ}
    (hbudget : last - pos s < budget) :
    ∃ answer, run spent body budget s = .ok answer ∧
      (answer = true ↔ ∀ a, pos s ≤ a → a < last → P a) := by
  refine run_ok (I := fun t => pos s ≤ pos t ∧ ∀ a, pos s ≤ a → a < pos t → P a)
    (fun t => last - pos t) ?_ ⟨Nat.le_refl _, ?_⟩ hbudget
  · intro t hinv
    obtain ⟨hfirst, hpassed⟩ := hinv
    rcases hpass t with ⟨hge, hbody⟩ | ⟨hlt, hdenied, hbody⟩ | ⟨hlt, t', hnext, hrun, hbody⟩
    · refine Or.inl ⟨true, hbody, iff_of_true rfl fun a hlo hhi => hpassed a hlo ?_⟩
      omega
    · refine Or.inl ⟨false, hbody, iff_of_false (by simp) fun hall => hdenied ?_⟩
      exact hall (pos t) hfirst hlt
    · refine Or.inr ⟨t', hbody, ⟨by omega, fun a hlo hhi => ?_⟩, by omega⟩
      by_cases ha : a < pos t
      · exact hpassed a hlo ha
      · exact hrun a (Nat.le_of_not_lt ha) hhi
  · intro a hlo hhi
    omega

end Loop

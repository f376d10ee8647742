import Libhat.Lib.Visit

/-!
# Records that stand one after another

A program walks through records in memory: it calls something at the place of a record, and moves
on to the place of the next one.  `visitAt` is such a walk, which can fail and which a call can
stop, and `Chained` says which records stand where it comes by.

* `visitAt_chained`: a walk is a visit of the list of its records.
-/

namespace Visit

variable {ε κ α σ : Type}

/-- Calls `body` at `n` places, of which `next` tells the following one, until a call says to
stop. -/
def visitAt (body : κ → σ → Except ε (σ × Bool)) (next : κ → Except ε κ) :
    Nat → κ → σ → Except ε (σ × Bool)
  | 0, _, s => .ok (s, true)
  | n + 1, p, s => do
    let (s', goOn) ← body p s
    if goOn then do
      let q ← next p
      visitAt body next n q s'
    else return (s', false)

/-- The records of the list stand one after another, the first at `p`. -/
inductive Chained (stands : κ → α → Prop) (next : κ → Except ε κ) : κ → List α → Prop
  | nil (p : κ) : Chained stands next p []
  | cons {p q : κ} {a : α} {rest : List α} (ha : stands p a) (hnext : next p = .ok q)
      (hrest : Chained stands next q rest) : Chained stands next p (a :: rest)

/-- **A walk through records** is a visit of their list, if the call at the place of a record does
what `f` does with the record. -/
theorem visitAt_chained {body : κ → σ → Except ε (σ × Bool)} {next : κ → Except ε κ}
    {stands : κ → α → Prop} {f : α → σ → σ × Bool}
    (hbody : ∀ p a, stands p a → ∀ s, body p s = .ok (f a s)) {p : κ} {l : List α}
    (hl : Chained stands next p l) (s : σ) :
    visitAt body next l.length p s = .ok (visit f l s) := by
  induction hl generalizing s with
  | nil p => rfl
  | cons ha hnext hrest ih =>
    rw [List.length_cons, visitAt, hbody _ _ ha s, visit]
    rcases f _ s with ⟨s', goOn⟩
    cases goOn with
    | false => rfl
    | true =>
      show (do let q ← next _; visitAt body next _ q s') = _
      rw [hnext]
      exact ih s'

end Visit

import Mathlib.Logic.Basic

/-!
# Programs that raise, and that crash

A program of a language with exceptions runs in a state and ends with a value or with an
exception; or it crashes in code that is not its own, and then there is no end.

* `Ends x s Q`: from the state `s` the program `x` does not crash, and `Q` holds of its end.
* `Ends.bind`, `Ends.followedBy`: the rules for a sequence, and for a `with` statement, whose
  cleanup follows on its body also when that raises.
-/

namespace Raising

/-- A program with states `σ`, crashes `κ`, exceptions `ε` and values `α`. -/
def Program (κ σ ε α : Type) : Type := σ → Except κ (Except ε α × σ)

variable {κ σ ε α β : Type}

namespace Program

/-- A value, at once. -/
def ret (a : α) : Program κ σ ε α := fun s => .ok (.ok a, s)

/-- One program after the other, unless the first raises. -/
def andThen (x : Program κ σ ε α) (f : α → Program κ σ ε β) : Program κ σ ε β := fun s =>
  match x s with
  | .error k => .error k
  | .ok (.error e, s) => .ok (.error e, s)
  | .ok (.ok a, s) => f a s

instance : Monad (Program κ σ ε) where
  pure := ret
  bind := andThen

/-- An exception. -/
def raise (e : ε) : Program κ σ ε α := fun s => .ok (.error e, s)

/-- A foreign function that works on the state. -/
def foreign (f : σ → Except κ (α × σ)) : Program κ σ ε α := fun s =>
  match f s with
  | .error k => .error k
  | .ok (a, s) => .ok (.ok a, s)

/-- What can be read off the state. -/
def ask (f : σ → α) : Program κ σ ε α := fun s => .ok (.ok (f s), s)

/-- The state is changed. -/
def modify (f : σ → σ) : Program κ σ ε Unit := fun s => .ok (.ok (), f s)

/-- `cleanup` comes after `x` in any case. -/
def followedBy (x : Program κ σ ε α) (cleanup : Program κ σ ε Unit) : Program κ σ ε α := fun s =>
  match x s with
  | .error k => .error k
  | .ok (r, s) =>
    match cleanup s with
    | .error k => .error k
    | .ok (.error e, s) => .ok (.error e, s)
    | .ok (.ok _, s) => .ok (r, s)

/-- The program does not crash, and `Q` holds of its end. -/
def Ends (x : Program κ σ ε α) (s : σ) (Q : Except ε α → σ → Prop) : Prop :=
  ∃ r t, x s = .ok (r, t) ∧ Q r t

end Program

open Program

variable {x : Program κ σ ε α} {f : α → Program κ σ ε β} {s : σ}
  {Q Q' : Except ε α → σ → Prop} {R : Except ε β → σ → Prop}

/-- A sequence whose first part returns. -/
theorem bind_ok {a : α} {t : σ} (h : x s = .ok (.ok a, t)) : (x >>= f) s = f a t := by
  show andThen x f s = _
  rw [andThen, h]

/-- A sequence whose first part raises. -/
theorem bind_error {e : ε} {t : σ} (h : x s = .ok (.error e, t)) :
    (x >>= f) s = .ok (.error e, t) := by
  show andThen x f s = _
  rw [andThen, h]

theorem Program.Ends.imp (h : x.Ends s Q) (himp : ∀ r t, Q r t → Q' r t) : x.Ends s Q' := by
  obtain ⟨r, t, hrun, hend⟩ := h
  exact ⟨r, t, hrun, himp r t hend⟩

/-- How a program ends is what its run says. -/
theorem Program.Ends.with_run (h : x.Ends s Q) :
    x.Ends s fun r t => Q r t ∧ x s = .ok (r, t) := by
  obtain ⟨r, t, hrun, hend⟩ := h
  exact ⟨r, t, hrun, hend, hrun⟩

/-- Two programs that do the same from a state. -/
theorem Program.Ends.of_eq {y : Program κ σ ε α} (h : y.Ends s Q) (heq : x s = y s) :
    x.Ends s Q := by
  obtain ⟨r, t, hrun, hend⟩ := h
  exact ⟨r, t, heq.trans hrun, hend⟩

theorem ends_pure {a : α} (h : Q (.ok a) s) : (pure a : Program κ σ ε α).Ends s Q :=
  ⟨.ok a, s, rfl, h⟩

theorem ends_raise {e : ε} (h : Q (.error e) s) : (raise e : Program κ σ ε α).Ends s Q :=
  ⟨.error e, s, rfl, h⟩

theorem ends_ask {g : σ → α} (h : Q (.ok (g s)) s) : (ask g : Program κ σ ε α).Ends s Q :=
  ⟨.ok (g s), s, rfl, h⟩

theorem ends_modify {g : σ → σ} {Q : Except ε Unit → σ → Prop} (h : Q (.ok ()) (g s)) :
    (modify g : Program κ σ ε Unit).Ends s Q :=
  ⟨.ok (), g s, rfl, h⟩

/-- **A sequence**: an exception of the first part is one of the whole. -/
theorem Program.Ends.bind (hx : x.Ends s Q) (hraise : ∀ e t, Q (.error e) t → R (.error e) t)
    (hf : ∀ a t, Q (.ok a) t → (f a).Ends t R) : (x >>= f).Ends s R := by
  obtain ⟨r, t, hrun, hend⟩ := hx
  cases r with
  | error e => exact ⟨.error e, t, bind_error hrun, hraise e t hend⟩
  | ok a =>
    obtain ⟨r, u, hrest, hR⟩ := hf a t hend
    exact ⟨r, u, (bind_ok hrun).trans hrest, hR⟩

/-- **Cleanup** that does not raise comes after what was returned, and after what was raised. -/
theorem Program.Ends.followedBy {cleanup : Program κ σ ε Unit} (hx : x.Ends s Q)
    (hcleanup : ∀ r t, Q r t → cleanup.Ends t fun r' u => r' = .ok () ∧ Q' r u) :
    (x.followedBy cleanup).Ends s Q' := by
  obtain ⟨r, t, hrun, hend⟩ := hx
  obtain ⟨r', u, hclean, rfl, hQ'⟩ := hcleanup r t hend
  refine ⟨r, u, ?_, hQ'⟩
  rw [Program.followedBy, hrun]
  dsimp only
  rw [hclean]

end Raising

import Mathlib.Data.List.Basic

/-!
# Runs of a system

A system has states and takes steps; a run is a list of steps.  `Steps P` says that
every step of a run meets `P` in the state in which it is taken, and `Always P` that
`P` holds in every state of the run.

* `always_of_steps`: what every admissible step preserves holds always.
* `steps_congr`: two properties of steps that agree under an invariant agree on runs.
* `always_iff_steps`: when a step keeps `P` exactly if it meets `G`, the runs that
  always have `P` are those all of whose steps meet `G`.
-/

namespace Runs

variable {σ α : Type} (step : σ → α → σ)

/-- The state after a run. -/
def after (s : σ) (run : List α) : σ := run.foldl step s

/-- Every step of the run meets `P` in the state in which it is taken. -/
def Steps (P : σ → α → Prop) : σ → List α → Prop
  | _, [] => True
  | s, a :: run => P s a ∧ Steps P (step s a) run

/-- `P` holds in every state of the run. -/
def Always (P : σ → Prop) : σ → List α → Prop
  | s, [] => P s
  | s, a :: run => P s ∧ Always P (step s a) run

variable {step} {I P : σ → Prop} {V G H : σ → α → Prop} {s : σ} {run : List α}

theorem after_cons (s : σ) (a : α) (run : List α) :
    after step s (a :: run) = after step (step s a) run := rfl

theorem Steps.and (h : Steps step V s run) (h' : Steps step G s run) :
    Steps step (fun s a => V s a ∧ G s a) s run := by
  induction run generalizing s with
  | nil => trivial
  | cons a run ih => exact ⟨⟨h.1, h'.1⟩, ih h.2 h'.2⟩

/-- **What every admissible step preserves holds after the run.** -/
theorem after_of_steps (hstep : ∀ s a, I s → V s a → I (step s a)) (hs : I s)
    (hrun : Steps step V s run) : I (after step s run) := by
  induction run generalizing s with
  | nil => exact hs
  | cons a run ih =>
    rw [after_cons]
    exact ih (hstep s a hs hrun.1) hrun.2

/-- **What every admissible step preserves holds always.** -/
theorem always_of_steps (hstep : ∀ s a, I s → V s a → I (step s a)) (hs : I s)
    (hrun : Steps step V s run) : Always step I s run := by
  induction run generalizing s with
  | nil => exact hs
  | cons a run ih => exact ⟨hs, ih (hstep s a hs hrun.1) hrun.2⟩

/-- **What holds of every admissible step** under an invariant holds of the steps of a run. -/
theorem steps_of_steps (hstep : ∀ s a, I s → V s a → I (step s a) ∧ G s a) (hs : I s)
    (hrun : Steps step V s run) : Steps step G s run := by
  induction run generalizing s with
  | nil => trivial
  | cons a run ih =>
    have hnext := hstep s a hs hrun.1
    exact ⟨hnext.2, ih hnext.1 hrun.2⟩

theorem steps_true (s : σ) (run : List α) : Steps step (fun _ _ => True) s run := by
  induction run generalizing s with
  | nil => trivial
  | cons a run ih => exact ⟨trivial, ih (step s a)⟩

theorem steps_of_forall {p : α → Prop} (h : ∀ a ∈ run, p a) (s : σ) :
    Steps step (fun _ a => p a) s run := by
  induction run generalizing s with
  | nil => trivial
  | cons a run ih =>
    exact ⟨h a List.mem_cons_self, ih (fun b hb => h b (List.mem_cons_of_mem a hb)) (step s a)⟩

theorem Always.imp (himp : ∀ s, I s → P s) (h : Always step I s run) : Always step P s run := by
  induction run generalizing s with
  | nil => exact himp s h
  | cons a run ih => exact ⟨himp s h.1, ih h.2⟩

theorem Always.and (h : Always step I s run) (h' : Always step P s run) :
    Always step (fun s => I s ∧ P s) s run := by
  induction run generalizing s with
  | nil => exact ⟨h, h'⟩
  | cons a run ih => exact ⟨⟨h.1, h'.1⟩, ih h.2 h'.2⟩

/-- Two properties of steps that agree under an invariant agree on runs. -/
theorem steps_congr (hstep : ∀ s a, I s → V s a → I (step s a))
    (hiff : ∀ s a, I s → V s a → (G s a ↔ H s a)) (hs : I s) (hrun : Steps step V s run) :
    Steps step G s run ↔ Steps step H s run := by
  induction run generalizing s with
  | nil => exact Iff.rfl
  | cons a run ih => exact and_congr (hiff s a hs hrun.1) (ih (hstep s a hs hrun.1) hrun.2)

theorem Always.head (h : Always step P s run) : P s := by
  cases run with
  | nil => exact h
  | cons a run => exact h.1

/-- **The exact runs that keep a property.** -/
theorem always_iff_steps (hiff : ∀ s a, P s → V s a → (P (step s a) ↔ G s a)) (hs : P s)
    (hrun : Steps step V s run) : Always step P s run ↔ Steps step G s run := by
  induction run generalizing s with
  | nil => exact ⟨fun _ => trivial, fun _ => hs⟩
  | cons a run ih =>
    constructor
    · intro h
      have hnext := h.2.head
      exact ⟨(hiff s a hs hrun.1).mp hnext, (ih hnext hrun.2).mp h.2⟩
    · intro h
      have hnext := (hiff s a hs hrun.1).mpr h.1
      exact ⟨hs, (ih hnext hrun.2).mpr h.2⟩

end Runs

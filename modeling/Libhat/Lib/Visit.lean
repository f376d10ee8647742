import Mathlib.Data.List.Basic

/-!
# Going through a list with a callback that can stop

`visit f l s` calls `f` on the elements of `l` in turn, with the variables `s` that the
callback captures, until a call says to stop.

* `visit_flatMap`: nested visits, the inner of which stops the outer, are one visit.
* `visit_filter`: elements that are skipped.
* `visit_find?`: a visit that stops at the first hit and keeps its value;
  `find?_of_unique`: the only hit is the first.
* `visit_foldl`: a visit that never stops; `visit_append_all`: one that keeps everything it sees.
-/

namespace Visit

variable {α β γ σ : Type}

/-- The variables after the calls, and whether no call has said to stop. -/
def visit (f : α → σ → σ × Bool) : List α → σ → σ × Bool
  | [], s => (s, true)
  | a :: rest, s =>
    match f a s with
    | (s', true) => visit f rest s'
    | (s', false) => (s', false)

/-- A visit goes on with a second list unless it was stopped. -/
theorem visit_append (f : α → σ → σ × Bool) (l l' : List α) (s : σ) :
    visit f (l ++ l') s = match visit f l s with
      | (s', true) => visit f l' s'
      | (s', false) => (s', false) := by
  induction l generalizing s with
  | nil => rfl
  | cons a rest ih =>
    simp only [List.cons_append, visit]
    rcases f a s with ⟨s', goOn⟩
    cases goOn with
    | false => rfl
    | true => exact ih s'

/-- **Nested visits.** -/
theorem visit_flatMap (f : β → σ → σ × Bool) (g : α → List β) (l : List α) (s : σ) :
    visit f (l.flatMap g) s = visit (fun a => visit f (g a)) l s := by
  induction l generalizing s with
  | nil => rfl
  | cons a rest ih =>
    rw [List.flatMap_cons, visit_append, visit]
    rcases visit f (g a) s with ⟨s', goOn⟩
    cases goOn with
    | false => rfl
    | true => exact ih s'

theorem visit_singleton (f : α → σ → σ × Bool) (a : α) (s : σ) : visit f [a] s = f a s := by
  rw [visit]
  rcases f a s with ⟨s', goOn⟩
  cases goOn <;> rfl

theorem visit_map (f : β → σ → σ × Bool) (g : α → β) (l : List α) (s : σ) :
    visit f (l.map g) s = visit (fun a => f (g a)) l s := by
  rw [List.map_eq_flatMap, visit_flatMap]
  apply congrFun
  apply congrArg (visit · l)
  funext a s
  exact visit_singleton f (g a) s

/-- **Elements that are skipped.** -/
theorem visit_filter (p : α → Bool) (f : α → σ → σ × Bool) (l : List α) (s : σ) :
    visit f (l.filter p) s = visit (fun a s => if p a then f a s else (s, true)) l s := by
  induction l generalizing s with
  | nil => rfl
  | cons a rest ih =>
    by_cases ha : p a = true
    · rw [List.filter_cons_of_pos ha, visit, visit, if_pos ha]
      rcases f a s with ⟨s', goOn⟩
      cases goOn with
      | false => rfl
      | true => exact ih s'
    · rw [List.filter_cons_of_neg ha, visit, if_neg ha]
      exact ih s

/-- **A visit that stops at the first hit.** -/
theorem visit_find? (hit : α → Bool) (value : α → σ) (l : List α) (s : σ) :
    (visit (fun a s => if hit a then (value a, false) else (s, true)) l s).1 =
      ((l.find? hit).map value).getD s := by
  induction l with
  | nil => rfl
  | cons a rest ih =>
    by_cases ha : hit a = true
    · rw [visit, if_pos ha, List.find?_cons_of_pos ha]
      rfl
    · rw [visit, if_neg ha, List.find?_cons_of_neg ha]
      exact ih

/-- **The only hit of a search** is what it finds. -/
theorem find?_of_unique {hit : α → Bool} {l : List α} {a : α} (ha : a ∈ l)
    (hhit : hit a = true) (hunique : ∀ b ∈ l, hit b = true → b = a) : l.find? hit = some a := by
  cases hfind : l.find? hit with
  | none =>
    rw [List.find?_eq_none] at hfind
    exact absurd hhit (hfind a ha)
  | some b => rw [hunique b (List.mem_of_find?_eq_some hfind) (List.find?_some hfind)]

/-- **A visit that never stops.** -/
theorem visit_foldl (g : σ → α → σ) (l : List α) (s : σ) :
    visit (fun a s => (g s a, true)) l s = (l.foldl g s, true) := by
  induction l generalizing s with
  | nil => rfl
  | cons a rest ih =>
    rw [visit, List.foldl_cons]
    exact ih (g s a)

/-- **A visit that keeps everything it sees.** -/
theorem visit_append_all (value : α → γ) (l : List α) (seen : List γ) :
    visit (fun a seen => (seen ++ [value a], true)) l seen = (seen ++ l.map value, true) := by
  induction l generalizing seen with
  | nil => rw [visit, List.map_nil, List.append_nil]
  | cons a rest ih =>
    rw [visit]
    exact (ih (seen ++ [value a])).trans (by rw [List.append_assoc]; rfl)

end Visit

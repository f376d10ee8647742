import Libhat.Lib.CallOnce
import Libhat.Linux.SectionCache

/-!
# The sections of a Linux module on several threads

Copies of a module share its sections, and threads can ask for them at the same time.  The map is
returned by reference, so a thread reads it for as long as it likes after its call.

* `attempts`: `init_sections` as the steps of one thread, an entry of the map at a time.
* `sections_threads`: on any threads, what is returned is the map with all sections of the file,
  and nobody writes to it any more.
-/

namespace Libhat.Linux

open CallOnce Runs

/-- How far a call of `init_sections` has come. -/
inductive Attempt where
  | begins (env : Environment)
  /-- in the loop over the headers, at the offset `it` -/
  | loops (env : Environment) (t : Tables) (budget it : Nat)

namespace Attempt

variable (baseAddress : BitVec 64)

/-- The next step.  What comes before the loop touches nothing that is shared. -/
def step : Attempt → Sections → Sections × (Attempt ⊕ Run Unit)
  | begins env, names =>
    match prepareSections env.canAllocate env.file with
    | .error e => (names, .inr (.error e))
    | .ok none => (names, .inr (.ok ()))
    | .ok (some t) => (names, .inl (loops env t (t.ehdr.eShnum.toNat + 1) 0))
  | loops _ _ 0 _, names => (names, .inr (.error (.fault .budget)))
  | loops env t (budget + 1) it, names =>
    if it = t.table.length then (names, .inr (.ok ()))
    else
      match headerEntry baseAddress t.table t.strings it with
      | .error e => (names, .inr (.error e))
      | .ok none => (names, .inl (loops env t budget (it + t.ehdr.eShentsize.toNat)))
      | .ok (some entry) =>
        if env.canEmplace it then
          (names.emplace entry.1 entry.2,
            .inl (loops env t budget (it + t.ehdr.eShentsize.toNat)))
        else (names, .inr (.error .badAlloc))

/-- What is left of the call. -/
def whole : Attempt → Sections → Sections × Run Unit
  | begins env, names => initSections env.toHeap baseAddress env.file names
  | loops env t budget it, names =>
    loadHeaders env.canEmplace baseAddress t budget it names

/-- **A step** does the first part of what is left. -/
theorem whole_eq (place : Attempt) (names : Sections) :
    place.whole baseAddress names =
      match place.step baseAddress names with
      | (names, .inl place) => place.whole baseAddress names
      | (names, .inr result) => (names, result) := by
  cases place with
  | begins env =>
    rw [whole, initSections, step]
    cases prepareSections env.canAllocate env.file with
    | error e => rfl
    | ok r => cases r <;> rfl
  | loops env t budget it =>
    cases budget with
    | zero => rfl
    | succ budget =>
      rw [whole, loadHeaders, step]
      by_cases hend : it = t.table.length
      · rw [if_pos hend, if_pos hend]
      · rw [if_neg hend, if_neg hend]
        cases headerEntry baseAddress t.table t.strings it with
        | error e => rfl
        | ok r =>
          cases r with
          | none => rfl
          | some entry =>
            dsimp only
            by_cases hnode : env.canEmplace it = true
            · rw [if_pos hnode, if_pos hnode]
              rfl
            · rw [if_neg hnode, if_neg hnode]

end Attempt

/-- `init_sections` as a thread runs it. -/
def attempts (baseAddress : BitVec 64) : Worker Sections Environment Attempt Abort where
  begins := .begins
  step := Attempt.step baseAddress
  whole := Attempt.whole baseAddress
  whole_inl {place names names' place'} hstep := by
    rw [Attempt.whole_eq, hstep]
  whole_inr {place names names' result} hstep := by
    rw [Attempt.whole_eq, hstep]

variable {baseAddress : BitVec 64} {file : Option File}

/-- What threads rely on that share the sections of a module. -/
structure Shared (baseAddress : BitVec 64) (file : Option File)
    (s : State Sections Attempt Abort) : Prop where
  /-- a call in `init_sections` is the only one, and no thread has the map -/
  exclusive : Exclusive s
  complete : .returned ∈ s.calls → s.data = allSections baseAddress file
  raised : ∀ e, .raised e ∈ s.calls → e.isException = true
  /-- a call that waits can go on, or another one is in `init_sections` -/
  not_stuck : ∀ i env, s.calls[i]? = some .waiting →
    ((attempts baseAddress).next s (.enter i env)).calls[i]? ≠ some .waiting ∨
      ∃ j place, s.RunsAt j place

end Libhat.Linux

import Libhat.Lib.RefCount
import Libhat.Lib.Visit
import Libhat.Strconv

/-!
# The dynamic loader

The modules of a process are objects of the dynamic loader, which counts the references to
each of them and unloads an object when the last one is closed.  `dlopen` is always called
with `RTLD_NOLOAD`, so that it opens an object only if it is loaded already.

* `closeHandle_dlopen`: a handle that is opened and closed again leaves nothing behind.
* `visit_search`: the search that `get_module` makes takes the first of the images whose name
  opens the object that it looks for, and no other reference.
* `visit_take`: the search for an image that is known by something else opens it by its name.
-/

namespace Libhat

open RefCount Visit

/-- The number of references to each object; an object without one is not loaded. -/
abbrev References := Nat → Nat

/-- The object that a path names, if there is one; no path is a null pointer. -/
abbrev ObjectNames := Option Text → Option Nat

/-- `dlopen(path, RTLD_LAZY | RTLD_NOLOAD)`: the handle, which is the object. -/
def dlopen (names : ObjectNames) (path : Option Text) (refs : References) :
    Option Nat × References :=
  match names path with
  | none => (none, refs)
  | some object => if refs object = 0 then (none, refs) else (some object, acquire refs object)

/-- `dlclose`. -/
def dlclose (object : Nat) (refs : References) : References := release refs object

/-- The destructor of a `Handle`. -/
def closeHandle (handle : Option Nat) (refs : References) : References :=
  match handle with
  | none => refs
  | some object => dlclose object refs

/-- A `std::string` as the C functions see it. -/
def cStr (str : Text) : Text := str.takeWhile (· ≠ '\x00')

section

variable {names : ObjectNames} {path : Option Text} {refs : References} {object : Nat}

theorem dlopen_snd (names : ObjectNames) (path : Option Text) (refs : References) :
    (dlopen names path refs).2 = acquireSome refs (dlopen names path refs).1 := by
  rw [dlopen]
  cases names path with
  | none => rfl
  | some object =>
    dsimp only
    by_cases h : refs object = 0
    · rw [if_pos h]
      rfl
    · rw [if_neg h]
      rfl

/-- **A handle that is opened and closed again.** -/
theorem closeHandle_dlopen (names : ObjectNames) (path : Option Text) (refs : References) :
    closeHandle (dlopen names path refs).1 (dlopen names path refs).2 = refs := by
  rw [dlopen_snd]
  cases (dlopen names path refs).1 with
  | none => rfl
  | some object => exact release_acquire refs object

theorem dlopen_eq_some_iff :
    (dlopen names path refs).1 = some object ↔ names path = some object ∧ refs object ≠ 0 := by
  rw [dlopen]
  cases names path with
  | none => simp
  | some other =>
    dsimp only
    by_cases h : refs other = 0
    · rw [if_pos h]
      simp only [Option.some.injEq]
      constructor
      · intro hnone
        exact absurd hnone (by simp)
      · intro hother
        exact absurd (hother.1 ▸ h) hother.2
    · rw [if_neg h]
      simp only [Option.some.injEq]
      constructor
      · rintro rfl
        exact ⟨rfl, h⟩
      · exact And.left

end

/-! ### Searching the images -/

/-- One image, in the search for the one whose name opens `object`: `passes` is what the system
asks of an image before it is opened, and `module` is made of the one that is found. -/
def searchImage {ι μ : Type} (names : ObjectNames) (name : ι → Option Text) (passes : ι → Bool)
    (make : Option Nat → ι → μ) (object : Nat) (image : ι) (s : References × Option μ) :
    (References × Option μ) × Bool :=
  if passes image then
    let (h, refs) := dlopen names (name image) s.1
    if h = some object then ((refs, some (make h image)), false)
    else ((closeHandle h refs, s.2), true)
  else (s, true)

/-- **The search** finds the first image whose name opens the object, and takes one reference to
it; the handles of all others are closed. -/
theorem visit_search {ι μ : Type} {names : ObjectNames} {name : ι → Option Text}
    {passes : ι → Bool} {make : Option Nat → ι → μ} {object : Nat} {refs : References}
    (hloaded : refs object ≠ 0) (images : List ι) :
    (visit (searchImage names name passes make object) images (refs, none)).1 =
      match images.find? fun image => passes image && names (name image) == some object with
      | none => (refs, none)
      | some image => (acquire refs object, some (make (some object) image)) := by
  induction images with
  | nil => rfl
  | cons image rest ih =>
    rw [visit]
    by_cases hpasses : passes image = true
    · rw [searchImage, if_pos hpasses]
      by_cases hname : names (name image) = some object
      · have hopen : (dlopen names (name image) refs).1 = some object :=
          dlopen_eq_some_iff.mpr ⟨hname, hloaded⟩
        have hrefs := dlopen_snd names (name image) refs
        rw [List.find?_cons_of_pos (by simp [hpasses, hname])]
        dsimp only
        rw [if_pos hopen, hrefs, hopen]
        rfl
      · have hopen : (dlopen names (name image) refs).1 ≠ some object :=
          fun h => hname (dlopen_eq_some_iff.mp h).1
        rw [List.find?_cons_of_neg (by simp [hname])]
        dsimp only
        rw [if_neg hopen, closeHandle_dlopen]
        exact ih
    · rw [searchImage, if_neg hpasses, List.find?_cons_of_neg (by simp [hpasses])]
      exact ih

/-- One image, in a search that knows the one it looks for. -/
def takeImage {ι μ : Type} (names : ObjectNames) (name : ι → Option Text) (hit : ι → Bool)
    (make : Option Nat → ι → μ) (image : ι) (s : References × Option μ) :
    (References × Option μ) × Bool :=
  if hit image then
    let (h, refs) := dlopen names (name image) s.1
    ((refs, some (make h image)), false)
  else (s, true)

/-- **A search for a known image** takes a reference to the first one, if its name opens it. -/
theorem visit_take {ι μ : Type} (names : ObjectNames) (name : ι → Option Text) (hit : ι → Bool)
    (make : Option Nat → ι → μ) (refs : References) (images : List ι) :
    (visit (takeImage names name hit make) images (refs, none)).1 =
      match images.find? hit with
      | none => (refs, none)
      | some image => ((dlopen names (name image) refs).2,
          some (make (dlopen names (name image) refs).1 image)) := by
  induction images with
  | nil => rfl
  | cons image rest ih =>
    rw [visit, takeImage]
    by_cases hhit : hit image = true
    · rw [if_pos hhit, List.find?_cons_of_pos hhit]
    · rw [if_neg hhit, List.find?_cons_of_neg hhit]
      exact ih

end Libhat

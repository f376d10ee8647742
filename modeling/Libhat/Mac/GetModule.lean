import Libhat.Loader
import Libhat.Memory

/-!
# The modules of a macOS process

The images of a process are those of `dyld`, by their index.  `get_process_module` takes the
first one that is a program, `get_module` the first one whose name opens the handle that it
looks for, and `module_at` the one whose header is at the address that `dladdr` says.

* `images_accounted`: an image is not unloaded while there is a module that holds its handle,
  and nothing stays open behind the last one.
-/

namespace Libhat.Mac

open RefCount Runs Visit

def mhMagic64 : BitVec 32 := 0xFEEDFACF#32
def mhCigam64 : BitVec 32 := 0xCFFAEDFE#32
def mhExecute : BitVec 32 := 2#32

/-- What `dyld` says of an image: its header, its name and its slide. -/
structure DyldImage where
  object : Nat
  header : BitVec 64
  magic : BitVec 32
  filetype : BitVec 32
  name : Text
  slide : BitVec 64

/-- `dyld`. -/
structure Dyld where
  names : ObjectNames
  /-- the images in the order of their indices; those that are loaded are counted -/
  images : List DyldImage
  /-- `dladdr`: the `dli_fbase` of the image that the address is in -/
  dladdr : References → BitVec 64 → Option (BitVec 64)

/-- `module_implementation`. -/
structure LoadedModule where
  handle : Option Nat
  header : BitVec 64
  slide : BitVec 64

/-- The constructor of `module_implementation`. -/
def LoadedModule.make (handle : Option Nat) (image : DyldImage) : LoadedModule :=
  ⟨handle, image.header, image.slide⟩

/-- `is_valid_header`. -/
def isValidHeader (image : DyldImage) : Bool :=
  image.header ≠ 0 && (image.magic = mhMagic64 || image.magic = mhCigam64)

namespace Dyld

/-- The images that are counted by `_dyld_image_count`. -/
def loaded (dyld : Dyld) (refs : References) : List DyldImage :=
  dyld.images.filter fun image => refs image.object ≠ 0

/-- A search for a known image. -/
def take (dyld : Dyld) (hit : DyldImage → Bool) (refs : References) :
    Option LoadedModule × References :=
  let found := (visit (takeImage dyld.names (fun image => some image.name) hit LoadedModule.make)
    (dyld.loaded refs) (refs, none)).1
  (found.2, found.1)

/-- `get_process_module`; `none` is `std::abort`. -/
def getProcessModule (dyld : Dyld) (refs : References) : Option (LoadedModule × References) :=
  match dyld.take (fun image => isValidHeader image && image.filetype = mhExecute) refs with
  | (none, _) => none
  | (some mod, refs) => some (mod, refs)

/-- `get_module`; the first `none` is the `std::abort` of `get_process_module`. -/
def getModule (dyld : Dyld) (name : Text) (refs : References) :
    Option (Option LoadedModule × References) :=
  if name = [] then
    (dyld.getProcessModule refs).map fun found => (some found.1, found.2)
  else
    match dlopen dyld.names (some (cStr name)) refs with
    | (none, refs) => some (none, refs)
    | (some handle, refs) =>
      let found := (visit (searchImage dyld.names (fun image => some image.name) isValidHeader
        LoadedModule.make handle) (dyld.loaded refs) (refs, none)).1
      some (found.2, closeHandle (some handle) found.1)

/-- `module_at`. -/
def moduleAt (dyld : Dyld) (address : BitVec 64) (refs : References) :
    Option LoadedModule × References :=
  match dyld.dladdr refs address with
  | none => (none, refs)
  | some dliFbase => dyld.take (fun image => image.header = dliFbase) refs

/-! ### What is found -/

section

variable {dyld : Dyld} {refs : References} {object : Nat} {name : Text}

theorem loaded_acquire (h : refs object ≠ 0) :
    dyld.loaded (acquire refs object) = dyld.loaded refs := by
  rw [loaded, loaded]
  apply List.filter_congr
  intro image _
  exact decide_eq_decide.mpr (acquire_ne_zero_iff h image.object)

theorem take_eq (dyld : Dyld) (hit : DyldImage → Bool) (refs : References) :
    dyld.take hit refs =
      match (dyld.loaded refs).find? hit with
      | none => (none, refs)
      | some image => (some (.make (dlopen dyld.names (some image.name) refs).1 image),
          (dlopen dyld.names (some image.name) refs).2) := by
  rw [take, visit_take]
  cases (dyld.loaded refs).find? hit <;> rfl

theorem getModule_of_none (hname : name ≠ [])
    (h : (dlopen dyld.names (some (cStr name)) refs).1 = none) :
    dyld.getModule name refs = some (none, refs) := by
  have hrefs := dlopen_snd dyld.names (some (cStr name)) refs
  rw [h] at hrefs
  rw [getModule, if_neg hname, ← Prod.mk.eta (p := dlopen dyld.names (some (cStr name)) refs), h,
    hrefs]
  rfl

/-- **`get_module`** takes the first image with a valid header whose name opens the same
handle, and one reference to it. -/
theorem getModule_of_some (hname : name ≠ [])
    (h : (dlopen dyld.names (some (cStr name)) refs).1 = some object) :
    dyld.getModule name refs = some
      (match (dyld.loaded refs).find? fun image =>
        isValidHeader image && dyld.names (some image.name) == some object with
      | none => (none, refs)
      | some image => (some (.make (some object) image), acquire refs object)) := by
  have hloaded := (dlopen_eq_some_iff.mp h).2
  have hrefs := dlopen_snd dyld.names (some (cStr name)) refs
  rw [h] at hrefs
  have hpos : acquire refs object object ≠ 0 := (acquire_ne_zero_iff hloaded object).mpr hloaded
  rw [getModule, if_neg hname, ← Prod.mk.eta (p := dlopen dyld.names (some (cStr name)) refs), h,
    hrefs]
  dsimp only [acquireSome]
  rw [visit_search hpos, loaded_acquire hloaded]
  congr 1
  cases (dyld.loaded refs).find? fun image =>
      isValidHeader image && dyld.names (some image.name) == some object with
  | none => exact congrArg (Prod.mk none) (release_acquire refs object)
  | some image => exact congrArg (Prod.mk _) (release_acquire (acquire refs object) object)

end

/-! ### References -/

/-- A call that looks for a module. -/
inductive Query where
  | getProcessModule
  | getModule (name : Text)
  | moduleAt (address : BitVec 64)

/-- The module that a call finds; an abort is taken for one that finds none. -/
def search (dyld : Dyld) : Search Nat LoadedModule Query
  | .getProcessModule, refs =>
    match dyld.getProcessModule refs with
    | none => (none, refs)
    | some (mod, refs) => (some mod, refs)
  | .getModule name, refs => (dyld.getModule name refs).getD (none, refs)
  | .moduleAt address, refs => dyld.moduleAt address refs

/-- **A search for a known image** takes one reference, if the name of the image opens it. -/
theorem take_snd (dyld : Dyld) (hit : DyldImage → Bool) (refs : References) :
    (dyld.take hit refs).2 =
      acquireSome refs ((dyld.take hit refs).1.bind LoadedModule.handle) := by
  rw [take_eq]
  cases (dyld.loaded refs).find? hit with
  | none => rfl
  | some image => exact dlopen_snd dyld.names (some image.name) refs

theorem getProcessModule_snd {dyld : Dyld} {refs : References}
    {found : LoadedModule × References} (h : dyld.getProcessModule refs = some found) :
    found.2 = acquireSome refs found.1.handle := by
  have htake := dyld.take_snd (fun image => isValidHeader image && image.filetype = mhExecute) refs
  rw [getProcessModule] at h
  rcases hfound : dyld.take (fun image => isValidHeader image && image.filetype = mhExecute) refs
    with ⟨result, refs'⟩
  rw [hfound] at htake h
  cases result with
  | none => exact absurd h (by simp)
  | some mod =>
    obtain rfl := Option.some.inj h
    exact htake

theorem search_lawful (dyld : Dyld) : dyld.search.Lawful LoadedModule.handle := by
  intro query refs
  cases query with
  | getProcessModule =>
    rw [search]
    cases hfound : dyld.getProcessModule refs with
    | none => rfl
    | some found => exact getProcessModule_snd hfound
  | getModule name =>
    by_cases hname : name = []
    · rw [search, getModule, if_pos hname]
      cases hfound : dyld.getProcessModule refs with
      | none => rfl
      | some found => exact getProcessModule_snd hfound
    · rw [search]
      cases hopen : (dlopen dyld.names (some (cStr name)) refs).1 with
      | none =>
        rw [getModule_of_none hname hopen]
        rfl
      | some object =>
        rw [getModule_of_some hname hopen]
        cases (dyld.loaded refs).find? fun image =>
          isValidHeader image && dyld.names (some image.name) == some object <;> rfl
  | moduleAt address =>
    rw [search, moduleAt]
    cases dyld.dladdr refs address with
    | none => rfl
    | some dliFbase => exact dyld.take_snd _ refs

end Dyld

/-- **Modules keep their images loaded.**  In every run of look-ups, copies and drops of
modules, an image has the references that it had at first, one for each
`module_implementation` that holds its handle, and those of the rest of the program.  So what
a module holds is loaded, and after the last module nothing stays open. -/
theorem images_accounted (dyld : Dyld) (refs : References)
    (run : List (Event Nat Dyld.Query)) :
    Always (Shared.step dyld.search LoadedModule.handle)
      (Shared.Accounted refs LoadedModule.handle) (Shared.start refs) run :=
  Shared.always_accounted dyld.search_lawful refs run

end Libhat.Mac

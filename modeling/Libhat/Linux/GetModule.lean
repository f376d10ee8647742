import Libhat.Linux.Sections
import Libhat.Loader
import Mathlib.Data.List.Nodup

/-!
# The modules of a Linux process

A `module` is a shared pointer to a `module_implementation`, which keeps the object of the
dynamic linker that it belongs to open.  `get_module` opens the object that a name stands
for, and then goes through all objects to find the one that is the same; `module_at` goes
through them to find the one at the address that `dladdr` says.

* `objects_accounted`: whatever modules are looked up, copied and dropped, an object is not
  unloaded while there is a module of it, and nothing stays open behind the last one.
* `getModule_found_iff`: which names have a module; `getProcessModule_aborts_iff`: a program
  that is not loaded at an address of the linker's choice has no process module.
* `moduleAt_getModule`: an address in a module that was found by its name finds that module.
-/

namespace Libhat.Linux

open RefCount Runs Visit

/-- `dl_phdr_info`, and the object that it describes. -/
structure DlPhdrInfo where
  object : Nat
  dlpiAddr : BitVec 64
  dlpiName : Option Text
  dlpiPhdr : List Phdr

/-- The dynamic linker. -/
structure DynamicLinker where
  names : ObjectNames
  /-- `dl_iterate_phdr` goes through those that are loaded, in this order -/
  images : List DlPhdrInfo
  /-- `dladdr`: the `dli_fbase` of the object that the address is in -/
  dladdr : References → BitVec 64 → Option (BitVec 64)

/-- `module_implementation`, with the handle that it owns. -/
structure LoadedModule where
  handle : Option Nat
  baseAddress : BitVec 64
  path : Text
  programHeaders : List Phdr

/-- `"/proc/self/exe"`. -/
def procSelfExe : Text := "/proc/self/exe".toList

namespace LoadedModule

/-- The constructor of `module_implementation`. -/
def make (handle : Option Nat) (info : DlPhdrInfo) : LoadedModule where
  handle := handle
  baseAddress := info.dlpiAddr
  path := match info.dlpiName with
    | none => procSelfExe
    | some name => if name = [] then procSelfExe else name
  programHeaders := info.dlpiPhdr

/-- What the functions of a module work on; `files` are those that can be opened. -/
def implementation (files : Text → Option File) (mod : LoadedModule) : ModuleImplementation :=
  ⟨mod.baseAddress, files mod.path, mod.programHeaders⟩

end LoadedModule

namespace DynamicLinker

/-- The objects that `dl_iterate_phdr` goes through. -/
def loaded (linker : DynamicLinker) (refs : References) : List DlPhdrInfo :=
  linker.images.filter fun info => refs info.object ≠ 0

/-- The callback of `get_module`. -/
def getModuleCallback (linker : DynamicLinker) : Nat → DlPhdrInfo →
    References × Option LoadedModule → (References × Option LoadedModule) × Bool :=
  searchImage linker.names DlPhdrInfo.dlpiName (fun info => info.dlpiAddr ≠ 0) LoadedModule.make

/-- The path that `get_module` opens. -/
def namedPath (name : Text) : Option Text := if name = [] then none else some (cStr name)

/-- `get_module`. -/
def getModule (linker : DynamicLinker) (name : Text) (refs : References) :
    Option LoadedModule × References :=
  match dlopen linker.names (namedPath name) refs with
  | (none, refs) => (none, refs)
  | (some handle, refs) =>
    let found := (visit (linker.getModuleCallback handle) (linker.loaded refs) (refs, none)).1
    (found.2, closeHandle (some handle) found.1)

/-- `get_process_module`; `none` is `std::abort`. -/
def getProcessModule (linker : DynamicLinker) (refs : References) :
    Option (LoadedModule × References) :=
  match linker.getModule [] refs with
  | (none, _) => none
  | (some mod, refs) => some (mod, refs)

/-- The callback of `module_at`. -/
def moduleAtCallback (linker : DynamicLinker) (dliFbase : BitVec 64) : DlPhdrInfo →
    References × Option LoadedModule → (References × Option LoadedModule) × Bool :=
  takeImage linker.names DlPhdrInfo.dlpiName (fun info => info.dlpiAddr = dliFbase)
    LoadedModule.make

/-- `module_at`. -/
def moduleAt (linker : DynamicLinker) (address : BitVec 64) (refs : References) :
    Option LoadedModule × References :=
  match linker.dladdr refs address with
  | none => (none, refs)
  | some dliFbase =>
    let found := (visit (linker.moduleAtCallback dliFbase) (linker.loaded refs) (refs, none)).1
    (found.2, found.1)

/-! ### What is found -/

section

variable {linker : DynamicLinker} {refs : References} {object : Nat} {name : Text}

theorem loaded_acquire (h : refs object ≠ 0) :
    linker.loaded (acquire refs object) = linker.loaded refs := by
  rw [loaded, loaded]
  apply List.filter_congr
  intro info _
  exact decide_eq_decide.mpr (acquire_ne_zero_iff h info.object)

theorem getModule_of_none (h : (dlopen linker.names (namedPath name) refs).1 = none) :
    linker.getModule name refs = (none, refs) := by
  have hrefs := dlopen_snd linker.names (namedPath name) refs
  rw [h] at hrefs
  rw [getModule, ← Prod.mk.eta (p := dlopen linker.names (namedPath name) refs), h, hrefs]
  rfl

/-- **`get_module`** takes the first loaded object with an address whose name opens the same
handle, and one reference to it. -/
theorem getModule_of_some (h : (dlopen linker.names (namedPath name) refs).1 = some object) :
    linker.getModule name refs =
      match (linker.loaded refs).find? fun info =>
        decide (info.dlpiAddr ≠ 0) && linker.names info.dlpiName == some object with
      | none => (none, refs)
      | some info => (some (.make (some object) info), acquire refs object) := by
  have hloaded := (dlopen_eq_some_iff.mp h).2
  have hrefs := dlopen_snd linker.names (namedPath name) refs
  rw [h] at hrefs
  have hpos : acquire refs object object ≠ 0 := (acquire_ne_zero_iff hloaded object).mpr hloaded
  rw [getModule, ← Prod.mk.eta (p := dlopen linker.names (namedPath name) refs), h, hrefs]
  dsimp only [acquireSome]
  rw [getModuleCallback, visit_search hpos, loaded_acquire hloaded]
  cases (linker.loaded refs).find? fun info =>
      decide (info.dlpiAddr ≠ 0) && linker.names info.dlpiName == some object with
  | none => exact congrArg (Prod.mk none) (release_acquire refs object)
  | some info => exact congrArg (Prod.mk _) (release_acquire (acquire refs object) object)

/-- **`module_at`** takes the first loaded object at the address that `dladdr` says. -/
theorem moduleAt_of_some {address dliFbase : BitVec 64}
    (h : linker.dladdr refs address = some dliFbase) :
    linker.moduleAt address refs =
      match (linker.loaded refs).find? fun info => info.dlpiAddr = dliFbase with
      | none => (none, refs)
      | some info => (some (.make (dlopen linker.names info.dlpiName refs).1 info),
          (dlopen linker.names info.dlpiName refs).2) := by
  rw [moduleAt, h]
  dsimp only
  rw [moduleAtCallback, visit_take]
  cases (linker.loaded refs).find? fun info => info.dlpiAddr = dliFbase <;> rfl

end

/-! ### References -/

/-- A call that looks for a module. -/
inductive Query where
  | getProcessModule
  | getModule (name : Text)
  | moduleAt (address : BitVec 64)

/-- The module that a call finds; an abort is taken for one that finds none. -/
def search (linker : DynamicLinker) : Search Nat LoadedModule Query
  | .getProcessModule, refs =>
    match linker.getProcessModule refs with
    | none => (none, refs)
    | some (mod, refs) => (some mod, refs)
  | .getModule name, refs => linker.getModule name refs
  | .moduleAt address, refs => linker.moduleAt address refs

/-- **`get_module` takes one reference**, to what the module holds, and closes all else. -/
theorem getModule_snd (linker : DynamicLinker) (name : Text) (refs : References) :
    (linker.getModule name refs).2 =
      acquireSome refs ((linker.getModule name refs).1.bind LoadedModule.handle) := by
  cases hopen : (dlopen linker.names (namedPath name) refs).1 with
  | none =>
    rw [getModule_of_none hopen]
    rfl
  | some object =>
    rw [getModule_of_some hopen]
    cases (linker.loaded refs).find? fun info =>
      decide (info.dlpiAddr ≠ 0) && linker.names info.dlpiName == some object <;> rfl

/-- **`module_at` takes one reference**, if it can open the object by its name. -/
theorem moduleAt_snd (linker : DynamicLinker) (address : BitVec 64) (refs : References) :
    (linker.moduleAt address refs).2 =
      acquireSome refs ((linker.moduleAt address refs).1.bind LoadedModule.handle) := by
  cases hbase : linker.dladdr refs address with
  | none =>
    rw [moduleAt, hbase]
    rfl
  | some dliFbase =>
    rw [moduleAt_of_some hbase]
    cases (linker.loaded refs).find? fun info => info.dlpiAddr = dliFbase with
    | none => rfl
    | some info => exact dlopen_snd linker.names info.dlpiName refs

theorem search_lawful (linker : DynamicLinker) : linker.search.Lawful LoadedModule.handle := by
  intro query refs
  cases query with
  | getProcessModule =>
    have hmodule := linker.getModule_snd [] refs
    rw [search, getProcessModule]
    rcases hget : linker.getModule [] refs with ⟨result, refs'⟩
    rw [hget] at hmodule
    cases result with
    | none => rfl
    | some mod => exact hmodule
  | getModule name => exact linker.getModule_snd name refs
  | moduleAt address => exact linker.moduleAt_snd address refs

end DynamicLinker

/-- **Modules keep their objects loaded.**  In every run of look-ups, copies and drops of
modules, an object has the references that it had at first, one for each
`module_implementation` that holds its handle, and those of the rest of the program.  So what
a module holds is loaded, and after the last module nothing stays open. -/
theorem objects_accounted (linker : DynamicLinker) (refs : References)
    (run : List (Event Nat DynamicLinker.Query)) :
    Always (Shared.step linker.search LoadedModule.handle)
      (Shared.Accounted refs LoadedModule.handle) (Shared.start refs) run :=
  Shared.always_accounted linker.search_lawful refs run

/-! ### Which modules there are -/

/-- Every loaded object is listed once, and its name opens it. -/
structure DynamicLinker.Consistent (linker : DynamicLinker) (refs : References) : Prop where
  names_eq : ∀ info ∈ linker.loaded refs, linker.names info.dlpiName = some info.object
  unique : ∀ info ∈ linker.loaded refs, ∀ other ∈ linker.loaded refs,
    info.object = other.object → info = other

namespace DynamicLinker

variable {linker : DynamicLinker} {refs : References} {name : Text}

theorem Consistent.find?_eq (h : linker.Consistent refs) {object : Nat} {info : DlPhdrInfo} :
    (linker.loaded refs).find? (fun info =>
        decide (info.dlpiAddr ≠ 0) && linker.names info.dlpiName == some object) = some info ↔
      info ∈ linker.loaded refs ∧ info.object = object ∧ info.dlpiAddr ≠ 0 := by
  have htest : ∀ other ∈ linker.loaded refs, (decide (other.dlpiAddr ≠ 0) &&
      linker.names other.dlpiName == some object) = true ↔
        other.dlpiAddr ≠ 0 ∧ other.object = object := by
    intro other hother
    simp [h.names_eq other hother]
  constructor
  · intro hfind
    have hmem := List.mem_of_find?_eq_some hfind
    have hhit := List.find?_some hfind
    obtain ⟨haddr, hobject⟩ := (htest info hmem).mp hhit
    exact ⟨hmem, hobject, haddr⟩
  · intro hinfo
    obtain ⟨hmem, hobject, haddr⟩ := hinfo
    refine find?_of_unique hmem ((htest info hmem).mpr ⟨haddr, hobject⟩) fun other hother hhit => ?_
    exact h.unique other hother info hmem (((htest other hother).mp hhit).2.trans hobject.symm)

/-- **Which modules `get_module` finds**: those of the loaded objects that the name opens, unless
the object is at its preferred address. -/
theorem getModule_iff (h : linker.Consistent refs) (name : Text) {mod : LoadedModule} :
    (linker.getModule name refs).1 = some mod ↔
      ∃ info ∈ linker.loaded refs, linker.names (namedPath name) = some info.object ∧
        info.dlpiAddr ≠ 0 ∧ mod = .make (some info.object) info := by
  cases hopen : (dlopen linker.names (namedPath name) refs).1 with
  | none =>
    rw [getModule_of_none hopen]
    refine iff_of_false (by simp) fun hinfo => ?_
    obtain ⟨info, hmem, hname, _⟩ := hinfo
    have hloaded : refs info.object ≠ 0 := by simpa using (List.mem_filter.mp hmem).2
    rw [dlopen_eq_some_iff.mpr ⟨hname, hloaded⟩] at hopen
    exact absurd hopen (by simp)
  | some object =>
    have hname := (dlopen_eq_some_iff.mp hopen).1
    rw [getModule_of_some hopen, hname]
    cases hfind : (linker.loaded refs).find? fun info =>
        decide (info.dlpiAddr ≠ 0) && linker.names info.dlpiName == some object with
    | none =>
      refine iff_of_false (by simp) fun hinfo => ?_
      obtain ⟨info, hmem, hobject, haddr, _⟩ := hinfo
      rw [h.find?_eq.mpr ⟨hmem, (Option.some.inj hobject).symm, haddr⟩] at hfind
      exact absurd hfind (by simp)
    | some info =>
      obtain ⟨hmem, hobject, haddr⟩ := h.find?_eq.mp hfind
      constructor
      · intro hmod
        have hname := (Option.some.inj hmod).symm
        exact ⟨info, hmem, by rw [hobject], haddr, by rw [hobject]; exact hname⟩
      · intro hinfo
        obtain ⟨other, hother, hobject', _, rfl⟩ := hinfo
        have hsame := h.unique info hmem other hother (hobject.trans (Option.some.inj hobject'))
        rw [← hsame, hobject]

/-- **When `get_process_module` aborts**: exactly if the program itself is loaded at the
address that it was linked for, as a program is that is not position independent. -/
theorem getProcessModule_aborts_iff (h : linker.Consistent refs) {main : DlPhdrInfo}
    (hmain : main ∈ linker.loaded refs) (hnames : linker.names none = some main.object) :
    linker.getProcessModule refs = none ↔ main.dlpiAddr = 0 := by
  have hnone : linker.getProcessModule refs = none ↔ (linker.getModule [] refs).1 = none := by
    rw [getProcessModule]
    rcases linker.getModule [] refs with ⟨result, refs'⟩
    cases result <;> simp
  rw [hnone]
  constructor
  · intro habort
    by_contra haddr
    have hfound := (getModule_iff h []).mpr ⟨main, hmain, hnames, haddr, rfl⟩
    rw [habort] at hfound
    exact absurd hfound (by simp)
  · intro haddr
    cases hfound : (linker.getModule [] refs).1 with
    | none => rfl
    | some mod =>
      obtain ⟨info, hmem, hname, hne, _⟩ := (getModule_iff h []).mp hfound
      have hobject : main.object = info.object := Option.some.inj (hnames.symm.trans hname)
      rw [h.unique main hmain info hmem hobject] at haddr
      exact absurd haddr hne

/-- **An address in a module** that was found by its name finds that module, with the same
handle, if no two objects are at one address. -/
theorem moduleAt_getModule (h : linker.Consistent refs) (name : Text)
    (haddrs : ∀ info ∈ linker.loaded refs, ∀ other ∈ linker.loaded refs,
      info.dlpiAddr = other.dlpiAddr → info = other)
    {mod : LoadedModule} (hfound : (linker.getModule name refs).1 = some mod)
    {address : BitVec 64} (hbase : linker.dladdr refs address = some mod.baseAddress) :
    linker.moduleAt address refs = (some mod, (linker.getModule name refs).2) := by
  obtain ⟨info, hmem, _, _, rfl⟩ := (getModule_iff h name).mp hfound
  have hloaded : refs info.object ≠ 0 := by simpa using (List.mem_filter.mp hmem).2
  have hopen := dlopen_eq_some_iff.mpr ⟨h.names_eq info hmem, hloaded⟩
  have hfind : (linker.loaded refs).find? (fun other => other.dlpiAddr = info.dlpiAddr)
      = some info := by
    refine find?_of_unique hmem (by simp) fun other hother hhit => ?_
    exact haddrs other hother info hmem (by simpa using hhit)
  have hbase' : linker.dladdr refs address = some info.dlpiAddr := hbase
  rw [moduleAt_of_some hbase', hfind, getModule_snd, hfound]
  dsimp only
  rw [dlopen_snd, hopen]
  rfl

/-- A program at an address, and the C library. -/
def twoObjects (programAddr : BitVec 64) : DynamicLinker where
  names path :=
    if path = none ∨ path = some [] then some 1
    else if path = some "libc.so.6".toList then some 2 else none
  images := [⟨1, programAddr, some [], []⟩, ⟨2, 0x7F0000000000#64, some "libc.so.6".toList, []⟩]
  dladdr _ address :=
    if address < 0x7F0000000000#64 then some programAddr else some 0x7F0000000000#64

theorem twoObjects_consistent (programAddr : BitVec 64) :
    (twoObjects programAddr).Consistent fun _ => 1 where
  names_eq info hinfo := by
    rcases List.mem_cons.mp hinfo with rfl | hinfo
    · rfl
    · rw [List.mem_singleton.mp hinfo]
      rfl
  unique info hinfo other hother hobject := by
    have hnodup : (((twoObjects programAddr).loaded fun _ => 1).map DlPhdrInfo.object).Nodup := by
      show [1, 2].Nodup
      decide
    exact List.inj_on_of_nodup_map hnodup hinfo hother hobject

/-- A program that is not position independent. -/
theorem getProcessModule_aborts_iff_sample :
    (twoObjects 0).getProcessModule (fun _ => 1) = none ↔ (0 : BitVec 64) = 0 := by
  have hmain : (⟨1, 0, some [], []⟩ : DlPhdrInfo) ∈ (twoObjects 0).loaded fun _ => 1 :=
    List.mem_cons_self
  exact getProcessModule_aborts_iff (twoObjects_consistent 0) hmain rfl

theorem moduleAt_getModule_sample :
    (twoObjects 0x555500000000).moduleAt 0x7F0000001234#64 (fun _ => 1) =
      (some ⟨some 2, 0x7F0000000000#64, "libc.so.6".toList, []⟩,
        ((twoObjects 0x555500000000).getModule "libc.so.6".toList (fun _ => 1)).2) := by
  refine moduleAt_getModule (twoObjects_consistent 0x555500000000) "libc.so.6".toList ?_ rfl rfl
  intro info hinfo other hother haddr
  have hnodup :
      (((twoObjects 0x555500000000).loaded fun _ => 1).map DlPhdrInfo.dlpiAddr).Nodup := by decide
  exact List.inj_on_of_nodup_map hnodup hinfo hother haddr

end DynamicLinker

end Libhat.Linux

import Libhat.Loader
import Libhat.Win32.Process

/-!
# The modules of a Windows process

A `module` is a shared pointer to the `HMODULE` itself, which is the base address.  Its deleter
calls `FreeLibrary` if the module was looked up with `GetModuleHandleExW`, which counts a
reference, and does nothing for the process module, for which no reference was counted.

* `libraries_accounted`: whatever modules are looked up, copied and dropped, each reference that
  was counted is given back exactly once, and what a module refers to stays loaded.
-/

namespace Libhat.Win32

open RefCount Runs

/-- `HMODULE`. -/
abbrev HMODULE := BitVec 64

/-- The loader: the modules that it knows are not at the null address. -/
structure ModuleLoader where
  /-- the module that a name stands for; no name is a null pointer -/
  names : Option Text → Option HMODULE
  /-- the module in which an address is -/
  fromAddress : BitVec 64 → Option HMODULE
  /-- the program, which is the module without a name -/
  program : HMODULE
  /-- `MultiByteToWideChar` from UTF-8; there is nothing if it fails -/
  toWide : Text → Text
  names_none : names none = some program
  names_ne_zero : ∀ file, names file ≠ some 0
  fromAddress_ne_zero : ∀ address, fromAddress address ≠ some 0

/-- The references to each module; a module without one is not loaded. -/
abbrev ModuleReferences := HMODULE → Nat

/-- `GetModuleHandleExW`, after it has found which module is meant. -/
def getModuleHandleEx (meant : Option HMODULE) (refs : ModuleReferences) :
    Option HMODULE × ModuleReferences :=
  match meant with
  | none => (none, refs)
  | some out => if refs out = 0 then (none, refs) else (some out, acquire refs out)

/-- What `create_impl` makes: the pointer, and which of the deleters it has. -/
structure Impl where
  module : HMODULE
  owning : Bool

/-- The reference that the deleter gives to `FreeLibrary`. -/
def Impl.freed (impl : Impl) : Option HMODULE :=
  if impl.owning && impl.module ≠ 0 then some impl.module else none

namespace ModuleLoader

/-- `get_process_module`. -/
def getProcessModule (loader : ModuleLoader) : Impl := ⟨loader.program, false⟩

/-- The end of `get_module` and of `module_at`. -/
def owningModule (meant : Option HMODULE) (refs : ModuleReferences) :
    Option Impl × ModuleReferences :=
  match getModuleHandleEx meant refs with
  | (some out, refs) => (some ⟨out, true⟩, refs)
  | (none, refs) => (none, refs)

/-- `get_module`. -/
def getModule (loader : ModuleLoader) (name : Text) (refs : ModuleReferences) :
    Option Impl × ModuleReferences :=
  let buffer := if name = [] then [] else loader.toWide name
  if name ≠ [] ∧ buffer = [] then (none, refs)
  else
    let file := if buffer = [] then none else some (cStr buffer)
    owningModule (loader.names file) refs

/-- `module_at`. -/
def moduleAt (loader : ModuleLoader) (address : BitVec 64) (refs : ModuleReferences) :
    Option Impl × ModuleReferences :=
  owningModule (loader.fromAddress address) refs

/-- A call that looks for a module. -/
inductive Query where
  | getProcessModule
  | getModule (name : Text)
  | moduleAt (address : BitVec 64)

/-- The module that a call finds. -/
def search (loader : ModuleLoader) : Search HMODULE Impl Query
  | .getProcessModule, refs => (some loader.getProcessModule, refs)
  | .getModule name, refs => loader.getModule name refs
  | .moduleAt address, refs => loader.moduleAt address refs

/-! ### References -/

/-- What `GetModuleHandleExW` counts is what the deleter gives back. -/
theorem owningModule_snd {meant : Option HMODULE} (hmeant : meant ≠ some 0)
    (refs : ModuleReferences) :
    (owningModule meant refs).2 =
      acquireSome refs ((owningModule meant refs).1.bind Impl.freed) := by
  cases meant with
  | none => rfl
  | some out =>
    have hout : out ≠ 0 := fun h => hmeant (h ▸ rfl)
    rw [owningModule, getModuleHandleEx]
    by_cases hloaded : refs out = 0
    · rw [if_pos hloaded]
      rfl
    · rw [if_neg hloaded]
      show acquire refs out = acquireSome refs (Impl.freed ⟨out, true⟩)
      rw [Impl.freed, if_pos (by simpa using hout)]
      rfl

/-- A module that owns a reference is not the null pointer, and so its deleter gives it back. -/
theorem freed_owningModule {meant : Option HMODULE} (hmeant : meant ≠ some 0)
    {refs : ModuleReferences} {impl : Impl} (h : (owningModule meant refs).1 = some impl) :
    impl.freed = some impl.module := by
  cases meant with
  | none => exact absurd h (by simp [owningModule, getModuleHandleEx])
  | some out =>
    have hout : out ≠ 0 := fun heq => hmeant (heq ▸ rfl)
    rw [owningModule, getModuleHandleEx] at h
    by_cases hloaded : refs out = 0
    · rw [if_pos hloaded] at h
      exact absurd h (by simp)
    · rw [if_neg hloaded] at h
      obtain rfl := Option.some.inj h
      rw [Impl.freed, if_pos (by simpa using hout)]

variable (loader : ModuleLoader)

/-- `get_module` fails without a look-up, or it is a look-up. -/
theorem getModule_eq (name : Text) (refs : ModuleReferences) :
    ∃ meant, meant ≠ some 0 ∧ loader.getModule name refs = owningModule meant refs := by
  rw [getModule]
  by_cases hfail : name ≠ [] ∧ (if name = [] then [] else loader.toWide name) = []
  · rw [if_pos hfail]
    exact ⟨none, by simp, rfl⟩
  · rw [if_neg hfail]
    exact ⟨_, loader.names_ne_zero _, rfl⟩

theorem search_lawful : loader.search.Lawful Impl.freed := by
  intro query refs
  cases query with
  | getProcessModule =>
    show refs = acquireSome refs (Impl.freed ⟨loader.program, false⟩)
    rw [Impl.freed, if_neg (by simp)]
    rfl
  | getModule name =>
    obtain ⟨meant, hmeant, heq⟩ := loader.getModule_eq name refs
    rw [search, heq]
    exact owningModule_snd hmeant refs
  | moduleAt address => exact owningModule_snd (loader.fromAddress_ne_zero address) refs

/-- A module is the process module, which is not counted, or its deleter gives it back. -/
theorem search_values (query : Query) (refs : ModuleReferences) (impl : Impl)
    (h : (loader.search query refs).1 = some impl) :
    impl.freed = some impl.module ∨ impl.module = loader.program := by
  cases query with
  | getProcessModule =>
    obtain rfl := Option.some.inj h
    exact Or.inr rfl
  | getModule name =>
    obtain ⟨meant, hmeant, heq⟩ := loader.getModule_eq name refs
    rw [search, heq] at h
    exact Or.inl (freed_owningModule hmeant h)
  | moduleAt address =>
    exact Or.inl (freed_owningModule (loader.fromAddress_ne_zero address) h)

end ModuleLoader

/-- **Modules keep what they refer to loaded.**  In every run of look-ups, copies and drops of
modules in a program that is loaded, a module of the system has the references that it had at
first, one for each shared pointer that will free it, and those of the rest of the program.  So
what any `module` refers to is loaded, also the process module, which counts nothing, and after
the last `module` nothing is left of them. -/
theorem libraries_accounted (loader : ModuleLoader) (refs : ModuleReferences)
    (hprogram : refs loader.program ≠ 0) (run : List (Event HMODULE ModuleLoader.Query)) :
    Always (Shared.step loader.search Impl.freed)
      (fun s => s.Accounted refs Impl.freed ∧
        ∀ i ∈ s.owners, ∃ impl, (i, impl) ∈ s.values ∧ s.counts impl.module ≠ 0)
      (Shared.start refs) run := by
  refine Always.imp (fun s h => ⟨h.1, fun i hi => ?_⟩)
    ((Shared.always_accounted loader.search_lawful refs run).and
      (Shared.always_values loader.search_values refs run))
  obtain ⟨haccounted, hvalues⟩ := h
  obtain ⟨impl, hmem, hcounted⟩ := haccounted.living i hi
  refine ⟨impl, hmem, ?_⟩
  rcases hvalues _ hmem with hfreed | hself
  · exact hcounted _ hfreed
  · -- the program had a reference at first, and has it still
    have hcounts := haccounted.counts_eq impl.module
    rw [hself] at hcounts ⊢
    omega

/-- A program, and a library that is looked up by its name. -/
def programAndLibrary : ModuleLoader where
  names
    | none => some 0x140000000#64
    | some file => if file = "user32.dll".toList then some 0x7FF800000000#64 else none
  fromAddress address := if address < 0x7FF800000000#64 then none else some 0x7FF800000000#64
  program := 0x140000000#64
  toWide name := name
  names_none := rfl
  names_ne_zero file := by
    cases file with
    | none => decide
    | some file =>
      dsimp only
      by_cases h : file = "user32.dll".toList
      · rw [if_pos h]
        decide
      · rw [if_neg h]
        simp
  fromAddress_ne_zero address := by
    by_cases h : address < 0x7FF800000000#64
    · rw [if_pos h]
      simp
    · rw [if_neg h]
      decide

theorem libraries_accounted_sample :
    Always (Shared.step programAndLibrary.search Impl.freed)
      (fun s => s.Accounted (fun _ => 1) Impl.freed ∧
        ∀ i ∈ s.owners, ∃ impl, (i, impl) ∈ s.values ∧ s.counts impl.module ≠ 0)
      (Shared.start fun _ => 1)
      [.find (.getModule "user32.dll".toList), .find .getProcessModule, .copy 0, .drop 0,
        .drop 0] :=
  libraries_accounted programAndLibrary (fun _ => 1) (by decide) _

end Libhat.Win32

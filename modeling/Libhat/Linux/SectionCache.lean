import Libhat.Lib.Runs
import Libhat.Linux.Elf

/-!
# The cached sections of a Linux module

A module loads its sections when they are first asked for: `sections()` calls `init_sections`
through `std::call_once`, which calls it again as long as it ends with an exception.  An exception
in the loop over the headers leaves the entries that were made before it, and the next attempt
adds to them.

* `sections_initial`: what the first call has.
* `sections_cached`: every call has the sections of the file or ends with an exception, whatever
  stopped the calls before, and whatever becomes of the file after the first call that returned.
-/

namespace Libhat.Linux

open Runs

/-! ### The cache -/

/-- What a call of `sections()` meets: what can be allocated, and the file at the path. -/
structure Environment extends Heap where
  file : Option File

/-- `init_sections_flag`, whether a call of `init_sections` has returned, and `name_to_section`. -/
structure SectionCache where
  called : Bool
  names : Sections

def SectionCache.initial : SectionCache := ⟨false, .empty⟩

/-- `sections()`: the cache after it, and the sections, unless an exception leaves it. -/
def SectionCache.sections (baseAddress : BitVec 64) (c : SectionCache) (env : Environment) :
    SectionCache × Run Sections :=
  if c.called then (c, .ok c.names)
  else
    match initSections env.toHeap baseAddress env.file c.names with
    | (names, .ok ()) => (⟨true, names⟩, .ok names)
    | (names, .error e) => (⟨false, names⟩, .error e)

/-- The cache after a call. -/
def SectionCache.step (baseAddress : BitVec 64) (c : SectionCache) (env : Environment) :
    SectionCache := (c.sections baseAddress env).1

/-! ### What an attempt adds -/

section

variable {env : Environment} {baseAddress : BitVec 64} {names : Sections}

/-- The sections of a file, the first one for each name. -/
def allSections (baseAddress : BitVec 64) (file : Option File) : Sections :=
  OrderedMap.empty.emplaceAll (fileSections baseAddress file)

/-- Parts of the sections of a file, the first ones. -/
def PartOf (baseAddress : BitVec 64) (file : Option File) (names : Sections) : Prop :=
  ∃ l, l <+: fileSections baseAddress file ∧ names = OrderedMap.empty.emplaceAll l

/-- **Starting again** with a part of the sections, an attempt returns with all of them, or an
exception leaves a part of them. -/
theorem initSections_partOf (hfits : TableFits env.file)
    (h : PartOf baseAddress env.file names) :
    initSections env.toHeap baseAddress env.file names
        = (allSections baseAddress env.file, .ok ()) ∨
      ∃ names' e, initSections env.toHeap baseAddress env.file names = (names', .error e) ∧
        e.isException = true ∧ PartOf baseAddress env.file names' := by
  obtain ⟨l, hl, rfl⟩ := h
  obtain ⟨l', hl', hnew, hend, hraise⟩ :=
    initSections_ok env.toHeap baseAddress env.file (OrderedMap.empty.emplaceAll l)
  cases hresult : initSections env.toHeap baseAddress env.file
      (OrderedMap.empty.emplaceAll l) with
  | mk names' result =>
    rw [hresult] at hnew hend hraise
    cases result with
    | ok _ =>
      left
      rw [hend rfl] at hnew
      rw [show names' = _ from hnew, OrderedMap.emplaceAll_emplaceAll_of_prefix _ hl]
      rfl
    | error e =>
      refine Or.inr ⟨names', e, rfl, hraise hfits e rfl, ?_⟩
      -- both attempts have added parts of the same list
      rcases List.prefix_or_prefix_of_prefix hl hl' with hle | hle
      · exact ⟨l', hl', hnew.trans (OrderedMap.emplaceAll_emplaceAll_of_prefix _ hle)⟩
      · exact ⟨l, hl, hnew.trans (OrderedMap.emplaceAll_emplaceAll_of_subset _ hle.subset)⟩

/-- What holds of the cache of a module whose file is `file` until the first call returns. -/
structure SectionCache.Loads (baseAddress : BitVec 64) (file : Option File) (c : SectionCache) :
    Prop where
  part : PartOf baseAddress file c.names
  all : c.called = true → c.names = allSections baseAddress file

/-- **The first call** ends as `init_sections` does, and has what the file defines if it
returns. -/
theorem SectionCache.sections_initial (baseAddress : BitVec 64) (env : Environment) :
    (initial.sections baseAddress env).2 =
      (initSections env.toHeap baseAddress env.file .empty).2.map fun _ =>
        allSections baseAddress env.file := by
  obtain ⟨l, _, hnames, hend, _⟩ := initSections_ok env.toHeap baseAddress env.file .empty
  rw [sections, if_neg (by simp [initial]), initial]
  cases hresult : initSections env.toHeap baseAddress env.file .empty with
  | mk names result =>
    rw [hresult] at hnames hend
    cases result with
    | error e => rfl
    | ok _ =>
      rw [show names = _ from hnames, hend rfl]
      rfl

/-- What a call ends with: all sections, or an exception. -/
def Answers (baseAddress : BitVec 64) (file : Option File) : Run Sections → Prop
  | .ok names => names = allSections baseAddress file
  | .error e => e.isException = true

/-- **One call** keeps what holds of the cache, and has all sections if it returns. -/
theorem SectionCache.Loads.step {c : SectionCache} {file : Option File} (hfits : TableFits file)
    (h : c.Loads baseAddress file) (hfile : c.called = false → env.file = file) :
    (c.step baseAddress env).Loads baseAddress file ∧
      Answers baseAddress file (c.sections baseAddress env).2 := by
  unfold SectionCache.step SectionCache.sections
  cases hcalled : c.called with
  | true =>
    rw [if_pos rfl]
    exact ⟨h, h.all hcalled⟩
  | false =>
    rw [if_neg (by simp)]
    obtain rfl := hfile hcalled
    rcases initSections_partOf hfits h.part with hrun | ⟨names, e, hrun, he, hpart⟩
    · rw [hrun]
      exact ⟨⟨⟨_, List.prefix_rfl, rfl⟩, fun _ => rfl⟩, rfl⟩
    · rw [hrun]
      exact ⟨⟨hpart, fun htrue => by cases htrue⟩, he⟩

/-- **The sections are loaded once.**  The file at the path is `file` for as long as no call has
returned.  Then each call has the sections that `file` defines, or it ends with an exception: the
entries that calls left behind which ended with one do no harm, and later changes of the file do
not matter. -/
theorem sections_cached (baseAddress : BitVec 64) {file : Option File} (hfits : TableFits file)
    (run : List Environment)
    (hrun : Steps (SectionCache.step baseAddress) (fun c env => c.called = false → env.file = file)
      .initial run) :
    Steps (SectionCache.step baseAddress)
      (fun c env => Answers baseAddress file (c.sections baseAddress env).2) .initial run := by
  refine steps_of_steps (I := SectionCache.Loads baseAddress file) (fun c env h hfile => ?_) ?_ hrun
  · exact h.step hfits hfile
  · exact ⟨⟨[], List.nil_prefix, rfl⟩, fun htrue => by cases htrue⟩

/-- The second call runs out of memory at the second section, the third one returns, and then
the file is gone. -/
theorem sections_cached_sample :
    Steps (SectionCache.step 0)
      (fun c env => Answers 0 (some codeFile) (c.sections 0 env).2) .initial
      [⟨⟨fun _ => false, fun _ => true⟩, some codeFile⟩,
        ⟨⟨fun _ => true, fun it => it != 128⟩, some codeFile⟩,
        ⟨kilobyte, some codeFile⟩, ⟨kilobyte, none⟩] := by
  refine sections_cached 0 codeFile_tableFits _ ?_
  refine ⟨fun _ => rfl, fun _ => rfl, fun _ => rfl, fun h => absurd h ?_, trivial⟩
  decide +kernel

end

end Libhat.Linux

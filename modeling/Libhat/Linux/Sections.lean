import Libhat.Lib.Visit
import Libhat.Linux.SectionCache
import Libhat.Scan

/-!
# The sections of a Linux module

A module knows its sections by name.  `get_section_data` looks a name up,
`for_each_section` goes through all of them, and `get_executable_data` falls back on the
first one with the protection of machine code when there is no `.text`.

The sections are kept in the order of their names, not in that of the file.

* `sections_defined`: the sections are those that the file defines, and what is
  enumerated is what is looked up.
* `find_pattern_quiet_iff`: which files make the `noexcept` `find_pattern` terminate.
* `getExecutableData_first_iff`: when the first executable section by name is the first one
  of the file.
-/

namespace Libhat.Linux

open Visit

/-- `elf_phdr_t`. -/
structure Phdr where
  pType : BitVec 32
  pFlags : BitVec 32
  pVaddr : BitVec 64
  pMemsz : BitVec 64

def pfX : BitVec 32 := 1#32
def pfW : BitVec 32 := 2#32
def pfR : BitVec 32 := 4#32

/-- `module_implementation`; `file` is what can be opened at its `path`. -/
structure ModuleImplementation where
  baseAddress : BitVec 64
  file : Option File
  programHeaders : List Phdr

namespace ModuleImplementation

/-- `sections()`, which no call has loaded before. -/
def sections (heap : Heap) (mimpl : ModuleImplementation) : Run Sections :=
  (SectionCache.initial.sections mimpl.baseAddress ⟨heap, mimpl.file⟩).2

/-- `get_section_data`. -/
def getSectionData (heap : Heap) (mimpl : ModuleImplementation)
    (name : SectionName) : Run ByteSpan := do
  let sections ← mimpl.sections heap
  match sections.find name with
  | some found => return found.data
  | none => return .none

/-- `for_each_section`; the callback carries the variables that it captures. -/
def forEachSection {σ : Type} (heap : Heap) (mimpl : ModuleImplementation)
    (callback : SectionName → ByteSpan → Protection → σ → σ × Bool) (s : σ) : Run σ := do
  let sections ← mimpl.sections heap
  return (visit (fun p => callback p.1 p.2.data p.2.prot) sections.entries s).1

/-- The protection of machine code. -/
def readExecute : Protection := Protection.read ||| Protection.execute

/-- `get_executable_data`. -/
def getExecutableData (heap : Heap) (mimpl : ModuleImplementation) :
    Run ByteSpan := do
  let text ← mimpl.getSectionData heap (.ofString ".text")
  if !text.empty then return text
  let sections ← mimpl.sections heap
  match sections.entries.find? fun p => p.2.prot = readExecute with
  | some p => return p.2.data
  | none =>
    match mimpl.programHeaders.find? fun header => header.pFlags &&& pfR ≠ 0
        ∧ header.pFlags &&& pfW = 0 ∧ header.pFlags &&& pfX ≠ 0 with
    | some header => return ⟨mimpl.baseAddress + header.pVaddr, header.pMemsz⟩
    | none => return .none

end ModuleImplementation

/-- A function that is `noexcept`. -/
def noexcept {α : Type} : Run α → Run α
  | .error .lengthError => .error .terminate
  | .error .badAlloc => .error .terminate
  | r => r

/-- `find_pattern` in a section of a module, whose sections may have to be loaded. -/
def findPatternSection (heap : Heap) (target : Target) (m : Memory)
    (signature : Signature) (name : SectionName) (mimpl : ModuleImplementation)
    (alignment : ScanAlignment) (hints : ScanHint) : Run ScanResult :=
  noexcept do
    let data ← mimpl.getSectionData heap name
    match findPattern target m data.data.toNat (data.data.toNat + data.size.toNat) signature
        alignment hints with
    | .ok result => .ok result
    | .error fault => .error (.fault fault)

/-! ### What the sections are -/

namespace ModuleImplementation

variable {heap : Heap} {mimpl : ModuleImplementation} {names : Sections}

/-- The tables of the module's file. -/
def tables (mimpl : ModuleImplementation) : Option Tables := mimpl.file.bind File.tables

/-- The sections that a module has are those of its file. -/
theorem sections_eq (h : mimpl.sections heap = .ok names) :
    names = allSections mimpl.baseAddress mimpl.file := by
  rw [sections, SectionCache.sections_initial] at h
  cases hresult : (initSections heap mimpl.baseAddress mimpl.file .empty).2 with
  | error e =>
    rw [hresult] at h
    cases h
  | ok _ =>
    rw [hresult] at h
    exact (Except.ok.inj h).symm

/-- A name belongs to the first header that defines a section with it. -/
theorem lookup_sections (baseAddress : BitVec 64) (t : Tables) (name : SectionName) :
    OrderedMap.lookup name (t.sections baseAddress) =
      (t.headers.find? fun header => header.Defines t.strings ∧ header.name t.strings = name).map
        (Shdr.sectionData baseAddress) := by
  rw [Tables.sections]
  induction t.headers with
  | nil => rfl
  | cons header rest ih =>
    rw [← List.singleton_append, definedBy_append, definedBy_singleton]
    by_cases hdef : header.Defines t.strings
    · rw [if_pos hdef, List.singleton_append, List.singleton_append]
      by_cases hname : header.name t.strings = name
      · rw [List.find?_cons_of_pos (by simpa using ⟨hdef, hname⟩), ← hname,
          OrderedMap.lookup_cons_self]
        rfl
      · rw [List.find?_cons_of_neg (by simp [hname]), OrderedMap.lookup_cons_of_ne hname]
        exact ih
    · rw [if_neg hdef, List.nil_append, List.singleton_append,
        List.find?_cons_of_neg (by simp [hdef])]
      exact ih

theorem find_sections (h : mimpl.sections heap = .ok names) {t : Tables}
    (ht : mimpl.tables = some t) (name : SectionName) :
    names.find name = OrderedMap.lookup name (t.sections mimpl.baseAddress) := by
  rw [tables] at ht
  rw [sections_eq h, allSections, fileSections, ht, OrderedMap.find_emplaceAll]
  exact Option.none_or

theorem getSectionData_eq (h : mimpl.sections heap = .ok names) (name : SectionName) :
    mimpl.getSectionData heap name = .ok (match names.find name with
      | some found => found.data
      | none => .none) := by
  rw [getSectionData, h, run_bind]
  cases names.find name <;> rfl

/-- The callback that keeps what it sees, and never stops. -/
def keep (name : SectionName) (data : ByteSpan) (prot : Protection)
    (seen : List (SectionName × SectionData)) : List (SectionName × SectionData) × Bool :=
  (seen ++ [(name, ⟨data, prot⟩)], true)

theorem forEachSection_keep (h : mimpl.sections heap = .ok names) :
    mimpl.forEachSection heap keep [] = .ok names.entries := by
  have hall := visit_append_all (fun p : SectionName × SectionData => p) names.entries []
  rw [List.map_id', List.nil_append] at hall
  rw [forEachSection, h, run_bind]
  exact congrArg (fun r => Except.ok r.1) hall

theorem getSectionData_of_mem (h : mimpl.sections heap = .ok names)
    {p : SectionName × SectionData} (hp : p ∈ names.entries) :
    mimpl.getSectionData heap p.1 = .ok p.2.data := by
  rw [getSectionData_eq h, OrderedMap.mem_entries_iff.mp hp]

end ModuleImplementation

open ModuleImplementation

/-- **When the sections of a module are loaded.** -/
theorem sections_returns_iff (heap : Heap) (baseAddress : BitVec 64) (file : File)
    (programHeaders : List Phdr) :
    (∃ names, sections heap ⟨baseAddress, some file, programHeaders⟩ = .ok names) ↔
      file.Loadable heap.canAllocate ∧ file.Emplaceable heap.canEmplace := by
  rw [← initSections_returns_iff heap baseAddress file .empty, sections,
    SectionCache.sections_initial]
  cases (initSections heap baseAddress (some file) .empty).2 with
  | error e => exact iff_of_false (fun ⟨_, h⟩ => by cases h) (fun h => by cases h)
  | ok _ => exact iff_of_true ⟨_, rfl⟩ rfl

/-- **The sections are those that the file defines**: for each name the first one, in the
order of the section header table.  What `for_each_section` enumerates is what
`get_section_data` returns.  Where an entry of the map cannot be had, with its node and its copy
of the name, `std::bad_alloc` ends the call, and nothing else does. -/
theorem sections_defined {heap : Heap} {file : File} (h : file.Loadable heap.canAllocate)
    (baseAddress : BitVec 64) (programHeaders : List Phdr) :
    (∀ e, sections heap ⟨baseAddress, some file, programHeaders⟩ = .error e →
      e = .badAlloc ∧ ¬ file.Emplaceable heap.canEmplace) ∧
    (file.Emplaceable heap.canEmplace →
      ∃ names, sections heap ⟨baseAddress, some file, programHeaders⟩ = .ok names ∧
        (file.tables = none → ∀ name, names.find name = none) ∧
        (∀ t, file.tables = some t → ∀ name, names.find name =
          (t.headers.find? fun header =>
            header.Defines t.strings ∧ header.name t.strings = name).map
              (Shdr.sectionData baseAddress)) ∧
        forEachSection heap ⟨baseAddress, some file, programHeaders⟩ keep [] =
          .ok names.entries ∧
        ∀ p ∈ names.entries,
          getSectionData heap ⟨baseAddress, some file, programHeaders⟩ p.1 = .ok p.2.data) := by
  constructor
  · intro e he
    rw [sections, SectionCache.sections_initial] at he
    rcases initSections_of_loadable h baseAddress .empty with ⟨hok, _⟩ | ⟨herror, hnot⟩
    · simp only [hok] at he
      cases he
    · simp only [herror] at he
      exact ⟨(Except.error.inj he).symm, hnot⟩
  · intro hentries
    obtain ⟨names, hsections⟩ :=
      (sections_returns_iff heap baseAddress file programHeaders).mpr ⟨h, hentries⟩
    refine ⟨names, hsections, fun hnone name => ?_, fun t ht name => ?_,
      forEachSection_keep hsections, fun p hp => getSectionData_of_mem hsections hp⟩
    · rw [sections_eq hsections, allSections, fileSections, Option.bind_some, hnone]
      rfl
    · rw [find_sections hsections ht, lookup_sections]

theorem sections_defined_sample :
    ∃ names, sections kilobyte ⟨0, some codeFile, []⟩ = .ok names ∧
      (codeFile.tables = none → ∀ name, names.find name = none) ∧
      (∀ t, codeFile.tables = some t → ∀ name, names.find name =
        (t.headers.find? fun header =>
          header.Defines t.strings ∧ header.name t.strings = name).map
            (Shdr.sectionData 0)) ∧
      forEachSection kilobyte ⟨0, some codeFile, []⟩ keep [] = .ok names.entries ∧
      ∀ p ∈ names.entries, getSectionData kilobyte ⟨0, some codeFile, []⟩ p.1 = .ok p.2.data :=
  (sections_defined codeFile_loadable 0 []).2 fun _ _ _ _ _ => rfl

/-! ### Files that cannot be loaded -/

/-- A module whose sections are there does not terminate a search in one of them. -/
theorem findPatternSection_ne_terminate {heap : Heap}
    {mimpl : ModuleImplementation} {names : Sections}
    (h : mimpl.sections heap = .ok names) (target : Target) (m : Memory)
    (signature : Signature) (name : SectionName) (alignment : ScanAlignment) (hints : ScanHint) :
    findPatternSection heap target m signature name mimpl alignment hints ≠
      .error .terminate := by
  rw [findPatternSection, getSectionData_eq h, run_bind]
  generalize (match names.find name with
    | some found => found.data
    | none => .none) = data
  cases findPattern target m data.data.toNat (data.data.toNat + data.size.toNat) signature
      alignment hints with
  | ok result => exact fun heq => by cases heq
  | error fault => exact fun heq => by cases heq

/-- **Which files are rejected quietly.**  `init_sections` returns, and a search in a section
does not terminate, exactly for the files that can be loaded, buffers and entries. -/
theorem find_pattern_quiet_iff (heap : Heap) (baseAddress : BitVec 64) (file : File)
    (programHeaders : List Phdr) :
    ((∃ names, sections heap ⟨baseAddress, some file, programHeaders⟩ = .ok names) ∧
      ∀ (target : Target) (m : Memory) (signature : Signature) (name : SectionName)
        (alignment : ScanAlignment) (hints : ScanHint),
        findPatternSection heap target m signature name
          ⟨baseAddress, some file, programHeaders⟩ alignment hints ≠ .error .terminate) ↔
      file.Loadable heap.canAllocate ∧ file.Emplaceable heap.canEmplace := by
  rw [← sections_returns_iff heap baseAddress file programHeaders]
  refine and_iff_left_of_imp fun h => ?_
  obtain ⟨names, hnames⟩ := h
  exact findPatternSection_ne_terminate hnames

/-- A file whose string table claims to have `2 ^ 64 - 1` bytes. -/
def corruptFile : File :=
  sampleFile (sampleEhdr 64 1 0 ++ sampleShdr 0 3 0 0 128 (2 ^ 64 - 1))

theorem corrupt_file_terminates :
    sections kilobyte ⟨0, some corruptFile, []⟩ = .error .lengthError ∧
      findPatternSection kilobyte default (fun _ => none) [] (.ofString ".text")
        ⟨0, some corruptFile, []⟩ .x1 0 = .error .terminate :=
  ⟨rfl, rfl⟩

/-! ### Executable sections -/

/-- The sections of a module, in the order in which its file defines them. -/
def Tables.enumerated (baseAddress : BitVec 64) (t : Tables) :
    List (SectionName × SectionData) :=
  (t.sections baseAddress).filter fun p =>
    OrderedMap.lookup p.1 (t.sections baseAddress) = some p.2

/-- Those that have the protection of machine code. -/
def Tables.executable (baseAddress : BitVec 64) (t : Tables) : List (SectionName × SectionData) :=
  (t.enumerated baseAddress).filter fun p => p.2.prot = readExecute

theorem mem_of_lookup {name : SectionName} {found : SectionData}
    {l : List (SectionName × SectionData)} (h : OrderedMap.lookup name l = some found) :
    (name, found) ∈ l := by
  obtain ⟨p, hp, hsnd⟩ := Option.map_eq_some_iff.mp h
  have hfst : p.1 = name := by simpa using List.find?_some hp
  rw [← hfst, ← hsnd]
  exact List.mem_of_find?_eq_some hp

section

variable {heap : Heap} {mimpl : ModuleImplementation} {names : Sections} {t : Tables}

/-- The sections that are kept by name are the same. -/
theorem mem_enumerated_iff (h : mimpl.sections heap = .ok names)
    (ht : mimpl.tables = some t) {p : SectionName × SectionData} :
    p ∈ t.enumerated mimpl.baseAddress ↔ p ∈ names.entries := by
  obtain ⟨name, found⟩ := p
  rw [Tables.enumerated, List.mem_filter, OrderedMap.mem_entries_iff, find_sections h ht,
    decide_eq_true_iff]
  exact and_iff_right_of_imp mem_of_lookup

theorem mem_executable_iff (h : mimpl.sections heap = .ok names)
    (ht : mimpl.tables = some t) {p : SectionName × SectionData} :
    p ∈ t.executable mimpl.baseAddress ↔ p ∈ names.entries ∧ p.2.prot = readExecute := by
  rw [Tables.executable, List.mem_filter, mem_enumerated_iff h ht, decide_eq_true_iff]

/-- Without a `.text` section, the executable section with the least name is taken. -/
theorem getExecutableData_least (h : mimpl.sections heap = .ok names)
    (ht : mimpl.tables = some t)
    (htext : ∃ text, mimpl.getSectionData heap (.ofString ".text") = .ok text ∧
      text.empty = true) (hne : t.executable mimpl.baseAddress ≠ []) :
    ∃ least ∈ t.executable mimpl.baseAddress,
      (∀ p ∈ t.executable mimpl.baseAddress, least.1 ≤ p.1) ∧
        mimpl.getExecutableData heap = .ok least.2.data := by
  obtain ⟨text, htext, hempty⟩ := htext
  obtain ⟨p, hp⟩ := List.exists_mem_of_ne_nil _ hne
  obtain ⟨hmem, hprot⟩ := (mem_executable_iff h ht).mp hp
  rw [getExecutableData, htext, h, run_bind, run_bind]
  cases hfind : names.entries.find? fun p => decide (p.2.prot = readExecute) with
  | none => exact absurd (by simpa using hprot) (List.find?_eq_none.mp hfind p hmem)
  | some least =>
    obtain ⟨⟨hleast, hrx⟩, hle⟩ := OrderedMap.find?_entries hfind
    refine ⟨least, (mem_executable_iff h ht).mpr ⟨hleast, by simpa using hrx⟩, fun q hq => ?_, ?_⟩
    · obtain ⟨hq, hqrx⟩ := (mem_executable_iff h ht).mp hq
      exact hle q hq (by simpa using hqrx)
    · simp [hempty]

/-- Sections with one name are one section. -/
theorem eq_of_mem_executable {p q : SectionName × SectionData}
    (hp : p ∈ t.executable mimpl.baseAddress) (hq : q ∈ t.executable mimpl.baseAddress)
    (hname : p.1 = q.1) : p = q := by
  have hlookup : ∀ p ∈ t.executable mimpl.baseAddress,
      OrderedMap.lookup p.1 (t.sections mimpl.baseAddress) = some p.2 := by
    intro p hp
    simpa using (List.mem_filter.mp (List.mem_filter.mp hp).1).2
  have h := hlookup q hq
  rw [← hname, hlookup p hp] at h
  exact Prod.ext hname (Option.some.inj h)

end

/-- **The executable data of a module without `.text`** is that of the first executable section
of the file exactly if the one with the least name has the same data. -/
theorem getExecutableData_first_iff {heap : Heap} {mimpl : ModuleImplementation}
    {t : Tables} {first : SectionName × SectionData} {rest : List (SectionName × SectionData)}
    (ht : mimpl.tables = some t)
    (htext : ∃ text, mimpl.getSectionData heap (.ofString ".text") = .ok text ∧
      text.empty = true)
    (hfirst : t.executable mimpl.baseAddress = first :: rest) :
    mimpl.getExecutableData heap = .ok first.2.data ↔
      ∀ least ∈ first :: rest, (∀ p ∈ first :: rest, least.1 ≤ p.1) →
        least.2.data = first.2.data := by
  obtain ⟨names, h, _⟩ := bind_eq_ok htext.choose_spec.1
  obtain ⟨least, hmem, hle, hdata⟩ := getExecutableData_least h ht htext (by rw [hfirst]; simp)
  rw [hdata]
  constructor
  · intro heq least' hmem' hle'
    have hsame : least' = least := by
      rw [← hfirst] at hmem' hle'
      exact eq_of_mem_executable hmem' hmem (le_antisymm (hle' least hmem) (hle least' hmem'))
    rw [hsame]
    exact Except.ok.inj heq
  · intro hall
    rw [hfirst] at hmem hle
    rw [hall least hmem hle]

/-- The module of that file with the sections `b` and `a`. -/
def codeModule : ModuleImplementation := ⟨0, some codeFile, []⟩

def codeTables : Tables :=
  ⟨Ehdr.ofBytes codeFile.content, (codeFile.content.drop 64).take 192, codeFile.content.drop 256⟩

def sectionB : SectionName × SectionData := (.ofString "b", ⟨⟨0x1000, 16⟩, readExecute⟩)
def sectionA : SectionName × SectionData := (.ofString "a", ⟨⟨0x2000, 32⟩, readExecute⟩)

theorem getExecutableData_first_iff_sample :
    codeModule.getExecutableData kilobyte = .ok sectionB.2.data ↔
      ∀ least ∈ [sectionB, sectionA], (∀ p ∈ [sectionB, sectionA], least.1 ≤ p.1) →
        least.2.data = sectionB.2.data := by
  have htables : codeModule.tables = some codeTables := by decide +kernel
  have hexecutable : codeTables.executable 0 = [sectionB, sectionA] := by decide +kernel
  have htext : codeModule.getSectionData kilobyte (.ofString ".text") = .ok .none := by
    decide +kernel
  exact getExecutableData_first_iff htables ⟨.none, htext, rfl⟩ hexecutable

/-- The file defines `b` before `a`, and the executable data is that of `a`. -/
theorem getExecutableData_of_second :
    codeModule.tables = some codeTables ∧ codeTables.executable 0 = [sectionB, sectionA] ∧
      codeModule.getSectionData kilobyte (.ofString ".text") = .ok .none ∧
      codeModule.getExecutableData kilobyte = .ok sectionA.2.data ∧
      sectionA.2.data ≠ sectionB.2.data := by
  decide +kernel

end Libhat.Linux

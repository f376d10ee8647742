import Libhat.Lib.Visit
import Libhat.Mac.Regions

/-!
# The sections of a macOS module

A module is an image in memory: the load commands of its header, some of which are
segments, and behind each segment command its sections.  `for_each_section` goes through
the segments with one callback and through the sections of each with another; a stop of
the inner one stops both.

* `forEachSection_eq`: that is one visit of the list of the sections that it does not skip.
* `getExecutableData_iff`: the fallback of `get_executable_data` does not return what it finds,
  so it is right only where there is no section of machine code.
-/

namespace Libhat.Mac

open Visit

/-! ### Images -/

/-- A name field, `char[16]`. -/
structure NameField where
  bytes : List Byte
  length_eq : bytes.length = 16
  deriving DecidableEq

/-- The string in it: up to a null character, if there is one. -/
def NameField.view (field : NameField) : List Byte := field.bytes.takeWhile (· ≠ 0)

/-- `section_t`. -/
structure MachSection where
  sectname : NameField
  addr : BitVec 64
  size : BitVec 64
  flags : BitVec 32

/-- `segment_command_t`, and the `nsects` sections that follow it. -/
structure SegmentCommand where
  segname : NameField
  vmsize : BitVec 64
  initprot : VmProt
  sections : List MachSection

/-- `load_command`. -/
inductive LoadCommand where
  | segment (seg : SegmentCommand)
  | other

/-- `module_implementation`: the `ncmds` load commands of the header, and the slide. -/
structure ModuleImplementation where
  commands : List LoadCommand
  slide : BitVec 64

/-- `S_ATTR_PURE_INSTRUCTIONS`. -/
def sAttrPureInstructions : BitVec 32 := 0x80000000#32

namespace ModuleImplementation

/-- `module_implementation::for_each_segment`; the callback carries the variables that it
captures. -/
def forEachSegment {σ : Type} (mimpl : ModuleImplementation)
    (callback : SegmentCommand → σ → σ × Bool) (s : σ) : σ :=
  (visit (fun cmd s =>
    match cmd with
    | .segment seg => if seg.vmsize ≠ 0 ∧ seg.initprot ≠ 0 then callback seg s else (s, true)
    | .other => (s, true)) mimpl.commands s).1

/-- `module_implementation::for_each_section`. -/
def forEachSection {σ : Type} (mimpl : ModuleImplementation)
    (callback : SegmentCommand → MachSection → σ → σ × Bool) (s : σ) : σ :=
  mimpl.forEachSegment (fun seg =>
    visit (fun sec s => if sec.addr ≠ 0 then callback seg sec s else (s, true)) seg.sections) s

/-- Where a section is loaded. -/
def sectionData (mimpl : ModuleImplementation) (sec : MachSection) : ByteSpan :=
  ⟨sec.addr + mimpl.slide, sec.size⟩

/-- The test of `get_section_data`: `"SEGMENT,SECTION"`, or the section's own name. -/
def isNamed (name : List Byte) (seg : SegmentCommand) (sec : MachSection) : Bool :=
  let segmentName := seg.segname.view
  let sectionName := sec.sectname.view
  let qualified := name.length == segmentName.length + sectionName.length + 1
    && segmentName.isPrefixOf name
    && name[segmentName.length]? == some 0x2C
    && sectionName.isSuffixOf name
  qualified || sectionName == name

/-- `get_section_data`. -/
def getSectionData (mimpl : ModuleImplementation) (name : List Byte) : ByteSpan :=
  mimpl.forEachSection (fun seg sec data =>
    if isNamed name seg sec then (mimpl.sectionData sec, false) else (data, true)) .none

/-- A section of machine code. -/
def isCode (seg : SegmentCommand) (sec : MachSection) : Bool :=
  seg.initprot &&& vmProtRead ≠ 0 && seg.initprot &&& vmProtWrite = 0
    && seg.initprot &&& vmProtExecute ≠ 0 && sec.flags &&& sAttrPureInstructions ≠ 0

/-- What the fallback of `get_executable_data` leaves in `data`. -/
def codeData (mimpl : ModuleImplementation) : ByteSpan :=
  mimpl.forEachSection (fun seg sec data =>
    if isCode seg sec then (mimpl.sectionData sec, false) else (data, true)) .none

/-- The bytes of a literal. -/
def literal (s : String) : List Byte := s.toList.map fun c => BitVec.ofNat 8 c.toNat

/-- `get_executable_data`.  The fallback computes `data`, and returns `{}`. -/
def getExecutableData (mimpl : ModuleImplementation) : ByteSpan :=
  let text := mimpl.getSectionData (literal "__TEXT,__text")
  if !text.empty then text
  else
    let _data := mimpl.codeData
    .none

end ModuleImplementation

/-! ### The list of sections -/

namespace LoadCommand

/-- The segment that the command loads, if any. -/
def loaded : LoadCommand → List SegmentCommand
  | .segment seg => if seg.vmsize ≠ 0 ∧ seg.initprot ≠ 0 then [seg] else []
  | .other => []

end LoadCommand

namespace ModuleImplementation

/-- The segments of the image, in the order of the load commands. -/
def segments (mimpl : ModuleImplementation) : List SegmentCommand :=
  mimpl.commands.flatMap LoadCommand.loaded

/-- The sections that `for_each_section` does not skip with their segments, in the order of the
load commands. -/
def sections (mimpl : ModuleImplementation) : List (SegmentCommand × MachSection) :=
  mimpl.segments.flatMap fun seg =>
    (seg.sections.filter fun sec => sec.addr ≠ 0).map fun sec => (seg, sec)

variable {σ : Type} (mimpl : ModuleImplementation)

theorem forEachSegment_eq (callback : SegmentCommand → σ → σ × Bool) (s : σ) :
    mimpl.forEachSegment callback s = (visit callback mimpl.segments s).1 := by
  rw [segments, visit_flatMap, forEachSegment]
  congr 2
  funext cmd s
  cases cmd with
  | other => rfl
  | segment seg =>
    by_cases hload : seg.vmsize ≠ 0 ∧ seg.initprot ≠ 0
    · simp only [LoadCommand.loaded, if_pos hload, visit_singleton]
    · simp only [LoadCommand.loaded, if_neg hload, visit]

/-- **The two layers of callbacks are one visit** of all sections. -/
theorem forEachSection_eq (callback : SegmentCommand → MachSection → σ → σ × Bool) (s : σ) :
    mimpl.forEachSection callback s =
      (visit (fun p => callback p.1 p.2) mimpl.sections s).1 := by
  rw [forEachSection, forEachSegment_eq, sections, visit_flatMap]
  congr 2
  funext seg s
  rw [visit_map, visit_filter]
  simp only [decide_eq_true_eq]

/-- **A search** through the sections finds the first hit. -/
theorem forEachSection_first (hit : SegmentCommand → MachSection → Bool) :
    mimpl.forEachSection (fun seg sec data =>
      if hit seg sec then (mimpl.sectionData sec, false) else (data, true)) .none =
      ((mimpl.sections.find? fun p => hit p.1 p.2).map fun p =>
        mimpl.sectionData p.2).getD .none := by
  rw [forEachSection_eq]
  exact visit_find? (fun p : SegmentCommand × MachSection => hit p.1 p.2)
    (fun p => mimpl.sectionData p.2) mimpl.sections .none

/-- **A lookup** finds the first section with the name. -/
theorem getSectionData_eq (name : List Byte) :
    mimpl.getSectionData name =
      ((mimpl.sections.find? fun p => isNamed name p.1 p.2).map fun p =>
        mimpl.sectionData p.2).getD .none :=
  mimpl.forEachSection_first (isNamed name)

/-- All sections behind the segment commands with their segments, in the order of the load
commands, also those that `for_each_section` skips. -/
def allSections (mimpl : ModuleImplementation) : List (SegmentCommand × MachSection) :=
  mimpl.commands.flatMap fun cmd =>
    match cmd with
    | .segment seg => seg.sections.map fun sec => (seg, sec)
    | .other => []

/-- What the executable data is to be where no `__TEXT,__text` is found: the first section of
machine code, and empty only without one. -/
structure IsFirstCode (mimpl : ModuleImplementation) (data : ByteSpan) : Prop where
  first : ∀ p, (mimpl.allSections.find? fun p => isCode p.1 p.2) = some p →
    data = mimpl.sectionData p.2
  none_of_empty : data.empty = true → (mimpl.allSections.find? fun p => isCode p.1 p.2) = none

/-- **The executable data of a module without `__TEXT,__text`** is right exactly if no section
has machine code. -/
theorem getExecutableData_iff {mimpl : ModuleImplementation}
    (htext : (mimpl.getSectionData (literal "__TEXT,__text")).empty = true) :
    mimpl.IsFirstCode mimpl.getExecutableData ↔
      ∀ p ∈ mimpl.allSections, isCode p.1 p.2 = false := by
  have hnone : mimpl.getExecutableData = .none := by
    rw [getExecutableData, htext]
    rfl
  have hfind : (mimpl.allSections.find? fun p => isCode p.1 p.2) = none ↔
      ∀ p ∈ mimpl.allSections, isCode p.1 p.2 = false := by
    simp [List.find?_eq_none]
  rw [hnone, ← hfind]
  refine ⟨fun h => h.none_of_empty rfl, fun h => ⟨fun p hp => ?_, fun _ => h⟩⟩
  rw [h] at hp
  cases hp

/-- A name in a field of 16 bytes. -/
def sampleName (s : String) : NameField where
  bytes := (literal s ++ List.replicate 16 0).take 16
  length_eq := by simp

/-- An image whose only section of machine code has another name. -/
def renamedImage : ModuleImplementation where
  commands := [.other, .segment ⟨sampleName "__TEXT", 0x4000, vmProtRead ||| vmProtExecute,
    [⟨sampleName "__const", 0x800, 0x100, 0⟩,
      ⟨sampleName "__code", 0x1000, 0x200, sAttrPureInstructions⟩]⟩]
  slide := 0x100000

theorem getExecutableData_iff_sample :
    renamedImage.IsFirstCode renamedImage.getExecutableData ↔
      ∀ p ∈ renamedImage.allSections, isCode p.1 p.2 = false :=
  getExecutableData_iff (by decide)

/-- The fallback finds the section, and the result is empty all the same. -/
theorem renamed_code_is_dropped :
    (renamedImage.getSectionData (literal "__TEXT,__text")).empty = true ∧
      renamedImage.codeData = ⟨0x101000, 0x200⟩ ∧
      renamedImage.getExecutableData = .none ∧
      ¬ renamedImage.IsFirstCode renamedImage.getExecutableData := by
  refine ⟨by decide, by decide, by decide, fun h => ?_⟩
  have hempty := h.none_of_empty (by decide)
  cases hempty

end ModuleImplementation

end Libhat.Mac

import Libhat.Lib.Records
import Libhat.Linux.ModuleData
import Libhat.Mac.SectionNames
import Libhat.MemoryReads

/-!
# The load commands of a Mach-O image

A module is the address of a Mach-O header, behind which the load commands stand, and the slide
of the image.  A load command has its size in it, and the command of a segment is followed by the
sections of the segment.

* `walkSegments_ok`, `walkSections_ok`: the two loops go through the segments and sections of the
  image.
* `image_refines`: the functions of a module are those over its list of load commands.
* `getModuleData_covers`: the module data end where the last of the segments does.
-/

namespace Libhat.Mac

open Visit
open Libhat.Linux (Protection stdMax)

/-- `LC_SEGMENT_64`. -/
def lcSegment : BitVec 32 := 0x19#32

namespace Mapped

/-! ### The walk through the load commands -/

section

variable {σ : Type} (m : Memory) (header slide : BitVec 64)

/-- The load command behind another one. -/
def nextCommand (cmd : Nat) : Exec Nat := do
  let cmdsize ← m.readInt 4 (cmd + 4)
  return cmd + cmdsize.toNat

/-- `module_implementation::for_each_segment`. -/
def walkSegments (callback : Nat → σ → Exec (σ × Bool)) (s : σ) : Exec σ := do
  let ncmds ← m.readInt 4 (header.toNat + 16)
  let (s, _) ← visitAt (fun cmd s => do
    let kind ← m.readInt 4 cmd
    if kind ≠ lcSegment then return (s, true)
    let vmsize ← m.readInt 8 (cmd + 32)
    if vmsize = 0 then return (s, true)
    let initprot ← m.readInt 4 (cmd + 60)
    if initprot = 0 then return (s, true)
    callback cmd s) (nextCommand m) ncmds.toNat (header.toNat + 32) s
  return s

/-- `module_implementation::for_each_section`. -/
def walkSections (callback : Nat → Nat → σ → Exec (σ × Bool)) (s : σ) : Exec σ :=
  walkSegments m header (fun seg s => do
    let nsects ← m.readInt 4 (seg + 64)
    visitAt (fun sec s => do
      let addr ← m.readInt 8 (sec + 32)
      if addr ≠ 0 then callback seg sec s else return (s, true))
      (fun sec => .ok (sec + 80)) nsects.toNat (seg + 72) s) s

/-- The data of a section. -/
def sectionData (sec : Nat) : Exec ByteSpan := do
  let addr ← m.readInt 8 (sec + 32)
  let size ← m.readInt 8 (sec + 40)
  return ⟨addr + slide, size⟩

/-- The test of `get_section_data` for the names of a section and its segment. -/
def nameMatches (name segmentName sectionName : List Byte) : Bool :=
  let qualified := name.length == segmentName.length + sectionName.length + 1
    && segmentName.isPrefixOf name
    && name[segmentName.length]? == some 0x2C
    && sectionName.isSuffixOf name
  qualified || sectionName == name

/-- `get_section_data`. -/
def getSectionData (name : List Byte) : Exec ByteSpan :=
  walkSections m header (fun seg sec data => do
    let segmentName ← m.readName 16 (seg + 8)
    let sectionName ← m.readName 16 sec
    let found ← sectionData m slide sec
    return if nameMatches name segmentName sectionName then (found, false) else (data, true)) .none

/-- A segment that can be read and executed, and not written. -/
def isCodeProt (initprot : VmProt) : Bool :=
  initprot &&& vmProtRead ≠ 0 && initprot &&& vmProtWrite = 0 && initprot &&& vmProtExecute ≠ 0

/-- `get_executable_data`.  The fallback computes `data`, and returns `{}`. -/
def getExecutableData : Exec ByteSpan := do
  let text ← getSectionData m header slide (ModuleImplementation.literal "__TEXT,__text")
  if !text.empty then return text
  let _data ← walkSections m header (fun seg sec data => do
    let initprot ← m.readInt 4 (seg + 60)
    if isCodeProt initprot then do
      let flags ← m.readInt 4 (sec + 64)
      if flags &&& sAttrPureInstructions ≠ 0 then do
        let found ← sectionData m slide sec
        return (found, false)
      else return (data, true)
    else return (data, true)) ByteSpan.none
  return .none

/-- `for_each_section`. -/
def forEachSection (callback : List Byte → ByteSpan → Protection → σ → σ × Bool) (s : σ) : Exec σ :=
  walkSections m header (fun seg sec s => do
    let segmentName ← m.readName 16 (seg + 8)
    let sectionName ← m.readName 16 sec
    let data ← sectionData m slide sec
    let initprot ← m.readInt 4 (seg + 60)
    return callback (segmentName ++ ModuleImplementation.comma :: sectionName) data
      (toHatProt initprot) s) s

/-- `for_each_segment`. -/
def forEachSegment (callback : ByteSpan → Protection → σ → σ × Bool) (s : σ) : Exec σ :=
  walkSegments m header (fun seg s => do
    let vmaddr ← m.readInt 8 (seg + 24)
    let vmsize ← m.readInt 8 (seg + 32)
    let initprot ← m.readInt 4 (seg + 60)
    return callback ⟨vmaddr + slide, vmsize⟩ (toHatProt initprot) s) s

/-- `get_module_data`. -/
def getModuleData : Exec ByteSpan := do
  let offset := slide - header
  let max ← walkSegments m header (fun seg max => do
    let vmaddr ← m.readInt 8 (seg + 24)
    let vmsize ← m.readInt 8 (seg + 32)
    return (stdMax max (vmaddr + vmsize + offset), true)) 0
  return ⟨header, max⟩

end

/-! ### Images -/

/-- A `section_t` stands at `p`. -/
structure SectionAt (m : Memory) (p : Nat) (sec : MachSection) : Prop where
  sectname : m.Holds p sec.sectname.bytes
  addr : m.Holds (p + 32) (LittleEndian.bytes 8 sec.addr)
  size : m.Holds (p + 40) (LittleEndian.bytes 8 sec.size)
  flags : m.Holds (p + 64) (LittleEndian.bytes 4 sec.flags)

/-- `segment_command_t`, with its address. -/
structure ImageSegment extends SegmentCommand where
  vmaddr : BitVec 64
  sections_lt : sections.length < 2 ^ 32

/-- A `segment_command_t` and the sections of the segment stand at `p`. -/
structure SegmentAt (m : Memory) (p : Nat) (seg : ImageSegment) : Prop where
  segname : m.Holds (p + 8) seg.segname.bytes
  vmaddr : m.Holds (p + 24) (LittleEndian.bytes 8 seg.vmaddr)
  vmsize : m.Holds (p + 32) (LittleEndian.bytes 8 seg.vmsize)
  initprot : m.Holds (p + 60) (LittleEndian.bytes 4 seg.initprot)
  nsects : m.Holds (p + 64) (LittleEndian.bytes 4 (BitVec.ofNat 32 seg.sections.length))
  sections : Chained (SectionAt m) (fun sec => (.ok (sec + 80) : Exec Nat)) (p + 72) seg.sections

/-- A load command. -/
inductive ImageCommand where
  | segment (seg : ImageSegment)
  | other (cmd : BitVec 32) (hcmd : cmd ≠ lcSegment)

/-- The load command stands at `p`. -/
def CommandAt (m : Memory) (p : Nat) : ImageCommand → Prop
  | .segment seg => m.Holds p (LittleEndian.bytes 4 lcSegment) ∧ SegmentAt m p seg
  | .other cmd _ => m.Holds p (LittleEndian.bytes 4 cmd)

/-- The load commands of an image. -/
structure Image where
  commands : List ImageCommand
  commands_lt : commands.length < 2 ^ 32

/-- The header of the image is in memory, and its load commands are behind it. -/
structure Image.Laid (m : Memory) (header : BitVec 64) (image : Image) : Prop where
  ncmds : m.Holds (header.toNat + 16)
    (LittleEndian.bytes 4 (BitVec.ofNat 32 image.commands.length))
  commands : Chained (CommandAt m) (nextCommand m) (header.toNat + 32) image.commands

/-- The segment that the command loads, if any. -/
def ImageCommand.loaded : ImageCommand → List ImageSegment
  | .segment seg => if seg.vmsize ≠ 0 ∧ seg.initprot ≠ 0 then [seg] else []
  | .other _ _ => []

/-- The segments of the image. -/
def Image.segments (image : Image) : List ImageSegment := image.commands.flatMap ImageCommand.loaded

/-- The sections of the image. -/
def Image.sections (image : Image) : List (ImageSegment × MachSection) :=
  image.segments.flatMap fun seg =>
    (seg.sections.filter fun sec => sec.addr ≠ 0).map fun sec => (seg, sec)

/-! ### The loops -/

section

variable {σ : Type} {m : Memory} {header : BitVec 64} {image : Image}

/-- **The loop over the segments.** -/
theorem walkSegments_ok (h : image.Laid m header) {callback : Nat → σ → Exec (σ × Bool)}
    {f : ImageSegment → σ → σ × Bool}
    (hcallback : ∀ p seg, SegmentAt m p seg → ∀ s, callback p s = .ok (f seg s)) (s : σ) :
    walkSegments m header callback s = .ok (visit f image.segments s).1 := by
  have hcount : (BitVec.ofNat 32 image.commands.length).toNat = image.commands.length := by
    rw [BitVec.toNat_ofNat, Nat.mod_eq_of_lt image.commands_lt]
  have hbody : ∀ p cmd, CommandAt m p cmd → ∀ s, (do
      let kind ← m.readInt 4 p
      if kind ≠ lcSegment then return (s, true)
      let vmsize ← m.readInt 8 (p + 32)
      if vmsize = 0 then return (s, true)
      let initprot ← m.readInt 4 (p + 60)
      if initprot = 0 then return (s, true)
      callback p s) = .ok (visit f cmd.loaded s) := by
    intro p cmd hcmd s
    cases cmd with
    | other cmd hne =>
      rw [Memory.readInt_ok_iff.mpr hcmd, ok_bind, if_pos hne]
      rfl
    | segment seg =>
      obtain ⟨hkind, hseg⟩ := hcmd
      rw [Memory.readInt_ok_iff.mpr hkind, ok_bind, if_neg (not_not_intro rfl),
        Memory.readInt_ok_iff.mpr hseg.vmsize, ok_bind, ImageCommand.loaded]
      by_cases hvmsize : seg.vmsize = 0
      · rw [if_pos hvmsize, if_neg (fun h => h.1 hvmsize)]
        rfl
      · rw [if_neg hvmsize, Memory.readInt_ok_iff.mpr hseg.initprot, ok_bind]
        by_cases hinitprot : seg.initprot = 0
        · rw [if_pos hinitprot, if_neg (fun h => h.2 hinitprot)]
          rfl
        · rw [if_neg hinitprot, if_pos ⟨hvmsize, hinitprot⟩, visit_singleton,
            hcallback p seg hseg]
  rw [walkSegments, Memory.readInt_ok_iff.mpr h.ncmds, ok_bind, hcount,
    visitAt_chained hbody h.commands, ok_bind, Image.segments, visit_flatMap]
  rfl

/-- **The two nested loops** over the sections. -/
theorem walkSections_ok (h : image.Laid m header) {callback : Nat → Nat → σ → Exec (σ × Bool)}
    {f : ImageSegment → MachSection → σ → σ × Bool}
    (hcallback : ∀ p q seg sec, SegmentAt m p seg → SectionAt m q sec → ∀ s,
      callback p q s = .ok (f seg sec s)) (s : σ) :
    walkSections m header callback s = .ok (visit (fun x => f x.1 x.2) image.sections s).1 := by
  rw [Image.sections, visit_flatMap]
  refine walkSegments_ok h (fun p seg hseg s => ?_) s
  have hcount : (BitVec.ofNat 32 seg.sections.length).toNat = seg.sections.length := by
    rw [BitVec.toNat_ofNat, Nat.mod_eq_of_lt seg.sections_lt]
  rw [Memory.readInt_ok_iff.mpr hseg.nsects, ok_bind, hcount, visit_map, visit_filter]
  refine visitAt_chained (fun q sec hsec s => ?_) hseg.sections s
  rw [Memory.readInt_ok_iff.mpr hsec.addr, ok_bind]
  by_cases haddr : sec.addr = 0
  · rw [if_neg (not_not_intro haddr), if_neg (by simpa using haddr)]
    rfl
  · rw [if_pos haddr, if_pos (by simpa using haddr), hcallback p q seg sec hseg hsec]

/-! ### The functions of a module -/

/-- The load command, in a list of load commands. -/
def ImageCommand.toLoadCommand : ImageCommand → LoadCommand
  | .segment seg => .segment seg.toSegmentCommand
  | .other _ _ => .other

/-- The module, as a list of load commands. -/
def Image.toImplementation (image : Image) (slide : BitVec 64) : ModuleImplementation :=
  ⟨image.commands.map ImageCommand.toLoadCommand, slide⟩

theorem segments_toImplementation (image : Image) (slide : BitVec 64) :
    (image.toImplementation slide).segments =
      image.segments.map ImageSegment.toSegmentCommand := by
  rw [ModuleImplementation.segments, Image.toImplementation, Image.segments, List.flatMap_map,
    List.map_flatMap]
  refine List.flatMap_congr fun cmd _ => ?_
  cases cmd with
  | other cmd hne => rfl
  | segment seg =>
    rw [ImageCommand.toLoadCommand, LoadCommand.loaded, ImageCommand.loaded]
    by_cases hload : seg.vmsize ≠ 0 ∧ seg.initprot ≠ 0
    · rw [if_pos hload, if_pos hload]
      rfl
    · rw [if_neg hload, if_neg hload]
      rfl

theorem sections_toImplementation (image : Image) (slide : BitVec 64) :
    (image.toImplementation slide).sections =
      image.sections.map fun p => (p.1.toSegmentCommand, p.2) := by
  rw [ModuleImplementation.sections, segments_toImplementation, Image.sections, List.flatMap_map,
    List.map_flatMap]
  refine List.flatMap_congr fun seg _ => ?_
  rw [List.map_map]
  rfl

/-- **The loop over the sections** is that of the list of load commands. -/
theorem walkSections_eq (h : image.Laid m header) (slide : BitVec 64)
    {callback : Nat → Nat → σ → Exec (σ × Bool)} {f : SegmentCommand → MachSection → σ → σ × Bool}
    (hcallback : ∀ p q seg sec, SegmentAt m p seg → SectionAt m q sec → ∀ s,
      callback p q s = .ok (f seg.toSegmentCommand sec s)) (s : σ) :
    walkSections m header callback s =
      .ok ((image.toImplementation slide).forEachSection f s) := by
  rw [walkSections_ok h hcallback, ModuleImplementation.forEachSection_eq,
    sections_toImplementation, visit_map]

theorem SegmentAt.readName_ok {p : Nat} {seg : ImageSegment} (h : SegmentAt m p seg) :
    m.readName 16 (p + 8) = .ok seg.segname.view := by
  have hname := Memory.readName_ok h.segname
  rwa [seg.segname.length_eq] at hname

theorem SectionAt.readName_ok {p : Nat} {sec : MachSection} (h : SectionAt m p sec) :
    m.readName 16 p = .ok sec.sectname.view := by
  have hname := Memory.readName_ok h.sectname
  rwa [sec.sectname.length_eq] at hname

theorem SectionAt.sectionData_ok {p : Nat} {sec : MachSection} (h : SectionAt m p sec)
    (slide : BitVec 64) : sectionData m slide p = .ok ⟨sec.addr + slide, sec.size⟩ := by
  rw [sectionData, Memory.readInt_ok_iff.mpr h.addr, ok_bind, Memory.readInt_ok_iff.mpr h.size]
  rfl

theorem getSectionData_eq (h : image.Laid m header) (slide : BitVec 64) (name : List Byte) :
    getSectionData m header slide name =
      .ok ((image.toImplementation slide).getSectionData name) := by
  refine walkSections_eq h slide (fun p q seg sec hseg hsec data => ?_) ByteSpan.none
  rw [hseg.readName_ok, ok_bind, hsec.readName_ok, ok_bind, hsec.sectionData_ok slide]
  rfl

theorem forEachSection_eq (h : image.Laid m header) (slide : BitVec 64)
    (callback : List Byte → ByteSpan → Protection → σ → σ × Bool) (s : σ) :
    forEachSection m header slide callback s =
      .ok ((image.toImplementation slide).forEachNamedSection callback s) := by
  refine walkSections_eq h slide (fun p q seg sec hseg hsec s => ?_) s
  rw [hseg.readName_ok, ok_bind, hsec.readName_ok, ok_bind, hsec.sectionData_ok slide, ok_bind,
    Memory.readInt_ok_iff.mpr hseg.initprot]
  rfl

/-- The fallback of `get_executable_data` ends, and leaves nothing behind. -/
theorem getExecutableData_eq (h : image.Laid m header) (slide : BitVec 64) :
    getExecutableData m header slide =
      .ok (image.toImplementation slide).getExecutableData := by
  have hcode : walkSections m header (fun seg sec data => do
      let initprot ← m.readInt 4 (seg + 60)
      if isCodeProt initprot then do
        let flags ← m.readInt 4 (sec + 64)
        if flags &&& sAttrPureInstructions ≠ 0 then do
          let found ← sectionData m slide sec
          return (found, false)
        else return (data, true)
      else return (data, true)) ByteSpan.none =
        .ok (image.toImplementation slide).codeData := by
    refine walkSections_eq h slide (fun p q seg sec hseg hsec data => ?_) ByteSpan.none
    rw [Memory.readInt_ok_iff.mpr hseg.initprot, ok_bind, Memory.readInt_ok_iff.mpr hsec.flags,
      ok_bind, hsec.sectionData_ok slide]
    have hsplit : ModuleImplementation.isCode seg.toSegmentCommand sec
        = (isCodeProt seg.initprot && decide (sec.flags &&& sAttrPureInstructions ≠ 0)) := rfl
    rw [hsplit]
    cases isCodeProt seg.initprot with
    | false => rfl
    | true =>
      by_cases hflags : sec.flags &&& sAttrPureInstructions ≠ 0
      · rw [if_pos rfl, if_pos hflags, decide_eq_true hflags]
        rfl
      · rw [if_pos rfl, if_neg hflags, decide_eq_false hflags]
        rfl
  rw [getExecutableData, getSectionData_eq h, ok_bind, ModuleImplementation.getExecutableData]
  cases ((image.toImplementation slide).getSectionData
    (ModuleImplementation.literal "__TEXT,__text")).empty with
  | false => rfl
  | true =>
    show (do let _data ← _; return ByteSpan.none) = _
    rw [hcode]
    rfl

/-- **The functions of a module** do what they do over its list of load commands. -/
theorem image_refines (h : image.Laid m header) (slide : BitVec 64) :
    (∀ name, getSectionData m header slide name =
      .ok ((image.toImplementation slide).getSectionData name)) ∧
    getExecutableData m header slide = .ok (image.toImplementation slide).getExecutableData ∧
    ∀ {σ : Type} (callback : List Byte → ByteSpan → Protection → σ → σ × Bool) (s : σ),
      forEachSection m header slide callback s =
        .ok ((image.toImplementation slide).forEachNamedSection callback s) :=
  ⟨getSectionData_eq h slide, getExecutableData_eq h slide, forEachSection_eq h slide⟩

/-! ### The module data -/

/-- Where a segment ends. -/
def spanEnd (span : ByteSpan) : Nat := span.data.toNat + span.size.toNat

/-- The segment, as a callback gets it. -/
def ImageSegment.span (slide : BitVec 64) (seg : ImageSegment) : ByteSpan :=
  ⟨seg.vmaddr + slide, seg.vmsize⟩

/-- The segment is behind the header, and not past the end of the address space. -/
def ImageSegment.InPlace (header slide : BitVec 64) (seg : ImageSegment) : Prop :=
  header.toNat ≤ (seg.span slide).data.toNat ∧ spanEnd (seg.span slide) < 2 ^ 64

/-- The callback that keeps what it sees, and never stops. -/
def keepSpan (span : ByteSpan) (_prot : Protection) (seen : List ByteSpan) : List ByteSpan × Bool :=
  (seen ++ [span], true)

theorem forEachSegment_ok (h : image.Laid m header) (slide : BitVec 64)
    (callback : ByteSpan → Protection → σ → σ × Bool) (s : σ) :
    forEachSegment m header slide callback s = .ok (visit
      (fun seg => callback (seg.span slide) (toHatProt seg.initprot)) image.segments s).1 := by
  refine walkSegments_ok h (fun p seg hseg s => ?_) s
  rw [Memory.readInt_ok_iff.mpr hseg.vmaddr, ok_bind, Memory.readInt_ok_iff.mpr hseg.vmsize,
    ok_bind, Memory.readInt_ok_iff.mpr hseg.initprot]
  rfl

theorem forEachSegment_keep (h : image.Laid m header) (slide : BitVec 64) :
    forEachSegment m header slide keepSpan [] =
      .ok (image.segments.map (ImageSegment.span slide)) := by
  rw [forEachSegment_ok h]
  exact congrArg (fun r => Except.ok r.1)
    (visit_append_all (ImageSegment.span slide) image.segments [])

/-- From the header to the end of a segment in place. -/
theorem ImageSegment.InPlace.toNat_end {slide : BitVec 64} {seg : ImageSegment}
    (h : seg.InPlace header slide) :
    (seg.vmaddr + seg.vmsize + (slide - header)).toNat =
      spanEnd (seg.span slide) - header.toNat := by
  obtain ⟨hlo, hhi⟩ := h
  have hsum : seg.vmaddr + seg.vmsize + (slide - header)
      = (seg.vmaddr + slide) + seg.vmsize - header := by
    rw [BitVec.sub_eq_add_neg, BitVec.sub_eq_add_neg]
    ac_rfl
  have hend : ((seg.vmaddr + slide) + seg.vmsize).toNat = spanEnd (seg.span slide) := by
    rw [BitVec.toNat_add]
    exact Nat.mod_eq_of_lt hhi
  have hle : header ≤ (seg.vmaddr + slide) + seg.vmsize := by
    rw [BitVec.le_def, hend]
    exact Nat.le_trans hlo (Nat.le_add_right _ _)
  rw [hsum, BitVec.toNat_sub_of_le hle, hend]

theorem toNat_foldl_end {slide : BitVec 64} {segs : List ImageSegment}
    (h : ∀ seg ∈ segs, seg.InPlace header slide) (b : BitVec 64) :
    (segs.foldl (fun max seg => stdMax max (seg.vmaddr + seg.vmsize + (slide - header))) b).toNat
      = segs.foldl (fun n seg => max n (spanEnd (seg.span slide) - header.toNat)) b.toNat := by
  induction segs generalizing b with
  | nil => rfl
  | cons seg rest ih =>
    have hrest : ∀ other ∈ rest, other.InPlace header slide :=
      fun other hother => h other (List.mem_cons_of_mem seg hother)
    rw [List.foldl_cons, List.foldl_cons, ih hrest, Linux.toNat_stdMax,
      (h seg List.mem_cons_self).toNat_end]

theorem getModuleData_ok (h : image.Laid m header) (slide : BitVec 64) :
    getModuleData m header slide = .ok ⟨header, image.segments.foldl
      (fun max seg => stdMax max (seg.vmaddr + seg.vmsize + (slide - header))) 0⟩ := by
  have hwalk : walkSegments m header (fun seg max => do
      let vmaddr ← m.readInt 8 (seg + 24)
      let vmsize ← m.readInt 8 (seg + 32)
      return (stdMax max (vmaddr + vmsize + (slide - header)), true)) 0 =
        .ok (image.segments.foldl
          (fun max seg => stdMax max (seg.vmaddr + seg.vmsize + (slide - header))) 0) := by
    rw [walkSegments_ok h (f := fun seg max =>
      (stdMax max (seg.vmaddr + seg.vmsize + (slide - header)), true)), visit_foldl]
    intro p seg hseg max
    rw [Memory.readInt_ok_iff.mpr hseg.vmaddr, ok_bind, Memory.readInt_ok_iff.mpr hseg.vmsize]
    rfl
  rw [getModuleData]
  show (do let max ← _; return ByteSpan.mk header max) = _
  rw [hwalk]
  rfl

/-- **The module data end where the last of the segments does** that are enumerated: they start at
the header, and no segment ends past them. -/
theorem getModuleData_covers (h : image.Laid m header) {slide : BitVec 64}
    (hplace : ∀ seg ∈ image.segments, seg.InPlace header slide) :
    ∃ segs data, forEachSegment m header slide keepSpan [] = .ok segs ∧
      segs = image.segments.map (ImageSegment.span slide) ∧
      getModuleData m header slide = .ok data ∧ data.data = header ∧
      IsGreatest {last | last = header.toNat ∨ ∃ seg ∈ segs, last = spanEnd seg}
        (spanEnd data) := by
  refine ⟨_, _, forEachSegment_keep h slide, rfl, getModuleData_ok h slide, rfl, ?_⟩
  have hend : ∀ seg ∈ image.segments, header.toNat ≤ spanEnd (seg.span slide) :=
    fun seg hseg => Nat.le_trans (hplace seg hseg).1 (Nat.le_add_right _ _)
  have hgreatest := Linux.isGreatest_foldl_max
    (fun seg => spanEnd (ImageSegment.span slide seg) - header.toNat) image.segments 0
  have hstart : (0 : BitVec 64).toNat = 0 := rfl
  have hsize := toNat_foldl_end hplace 0
  rw [hstart] at hsize
  rw [← hsize] at hgreatest
  obtain ⟨hmem, hupper⟩ := hgreatest
  generalize image.segments.foldl
    (fun max seg => stdMax max (seg.vmaddr + seg.vmsize + (slide - header))) 0 = size
    at hmem hupper ⊢
  constructor
  · rcases hmem with hzero | ⟨seg, hseg, hlast⟩
    · left
      show header.toNat + size.toNat = header.toNat
      rw [hzero, Nat.add_zero]
    · right
      refine ⟨seg.span slide, List.mem_map_of_mem hseg, ?_⟩
      have hle := hend seg hseg
      show header.toNat + size.toNat = spanEnd (seg.span slide)
      omega
  · rintro last (rfl | ⟨span, hspan, rfl⟩)
    · exact Nat.le_add_right _ _
    · obtain ⟨seg, hseg, rfl⟩ := List.mem_map.mp hspan
      have hle := hupper (Or.inr ⟨seg, hseg, rfl⟩)
      show spanEnd (seg.span slide) ≤ header.toNat + size.toNat
      omega

/-! ### A small image -/

def smallSection : MachSection :=
  ⟨ModuleImplementation.sampleName "__text", 0x4100, 0x80, sAttrPureInstructions⟩

def smallSegment : ImageSegment :=
  ⟨⟨ModuleImplementation.sampleName "__TEXT", 0x4000, vmProtRead ||| vmProtExecute,
    [smallSection]⟩, 0x4000, by decide⟩

/-- An image with an `LC_UUID` and a segment. -/
def smallImage : Image := ⟨[.other 0x1B (by decide), .segment smallSegment], by decide⟩

def smallBytes : List Byte :=
  List.replicate 16 0 ++ LittleEndian.bytes 4 (2#32) ++ List.replicate 12 0 ++
  (LittleEndian.bytes 4 (0x1B#32) ++ LittleEndian.bytes 4 (24#32) ++ List.replicate 16 0) ++
  (LittleEndian.bytes 4 lcSegment ++ LittleEndian.bytes 4 (152#32) ++ smallSegment.segname.bytes ++
    LittleEndian.bytes 8 smallSegment.vmaddr ++ LittleEndian.bytes 8 smallSegment.vmsize ++
    List.replicate 20 0 ++ LittleEndian.bytes 4 smallSegment.initprot ++
    LittleEndian.bytes 4 (1#32) ++ List.replicate 4 0) ++
  (smallSection.sectname.bytes ++ smallSegment.segname.bytes ++
    LittleEndian.bytes 8 smallSection.addr ++ LittleEndian.bytes 8 smallSection.size ++
    List.replicate 16 0 ++ LittleEndian.bytes 4 smallSection.flags ++ List.replicate 12 0)

theorem smallImage_laid : smallImage.Laid (Memory.ofBytes 0x10000 smallBytes) 0x10000 where
  ncmds := by unfold Memory.Holds; decide
  commands :=
    .cons (q := 0x10038) (by unfold CommandAt Memory.Holds; decide) (by decide)
      (.cons (q := 0x100D0)
        ⟨by unfold Memory.Holds; decide,
          ⟨by unfold Memory.Holds; decide, by unfold Memory.Holds; decide,
            by unfold Memory.Holds; decide, by unfold Memory.Holds; decide,
            by unfold Memory.Holds; decide,
            .cons
              ⟨by unfold Memory.Holds; decide, by unfold Memory.Holds; decide,
                by unfold Memory.Holds; decide, by unfold Memory.Holds; decide⟩ rfl
              (.nil _)⟩⟩ (by decide) (.nil _))

theorem image_refines_sample :
    (∀ name, getSectionData (Memory.ofBytes 0x10000 smallBytes) 0x10000 0xC000 name =
      .ok ((smallImage.toImplementation 0xC000).getSectionData name)) ∧
    getExecutableData (Memory.ofBytes 0x10000 smallBytes) 0x10000 0xC000 =
      .ok (smallImage.toImplementation 0xC000).getExecutableData ∧
    ∀ {σ : Type} (callback : List Byte → ByteSpan → Protection → σ → σ × Bool) (s : σ),
      forEachSection (Memory.ofBytes 0x10000 smallBytes) 0x10000 0xC000 callback s =
        .ok ((smallImage.toImplementation 0xC000).forEachNamedSection callback s) :=
  image_refines smallImage_laid 0xC000

theorem getModuleData_covers_sample :
    ∃ segs data,
      forEachSegment (Memory.ofBytes 0x10000 smallBytes) 0x10000 0xC000 keepSpan [] = .ok segs ∧
      segs = smallImage.segments.map (ImageSegment.span 0xC000) ∧
      getModuleData (Memory.ofBytes 0x10000 smallBytes) 0x10000 0xC000 = .ok data ∧
      data.data = 0x10000 ∧
      IsGreatest {last | last = (0x10000 : BitVec 64).toNat ∨ ∃ seg ∈ segs, last = spanEnd seg}
        (spanEnd data) := by
  refine getModuleData_covers smallImage_laid fun seg hseg => ?_
  obtain rfl : seg = smallSegment := List.mem_singleton.mp hseg
  exact ⟨by decide, by decide⟩

end

end Mapped

end Libhat.Mac

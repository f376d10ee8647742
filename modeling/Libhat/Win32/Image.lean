import Libhat.Lib.Records
import Libhat.Linux.MemoryProtector
import Libhat.MemoryReads
import Libhat.Win32.Process
import Libhat.Win32.Vtable

/-!
# The headers of a Windows image

A module is the address that its image is loaded at.  The DOS header there has the offset of the
NT headers, and the section headers follow the optional header, whose size the NT headers tell.

* `getSectionData_laid`: the lookup of a section, as it is assumed in a search for a table.
* `getSectionData_finds`: it has the first section with the name that `for_each_section`
  enumerates.
* `getExecutableData_finds`: where `.text` is missing or empty, the executable data are the first
  section that is enumerated with the protection of machine code.
-/

namespace Libhat.Win32

open Visit
open Libhat.Linux (Protection)

def imageScnMemExecute : DWORD := 0x20000000#32
def imageScnMemRead : DWORD := 0x40000000#32
def imageScnMemWrite : DWORD := 0x80000000#32

/-! ### The walk through the section headers -/

section

variable {σ : Type} (m : Memory) (address : BitVec 64)

/-- `getNTHeaders`: `e_lfanew` is a `LONG`. -/
def getNTHeaders : Exec Nat := do
  let lfanew ← m.readInt 4 (address.toNat + 60)
  return (address + lfanew.signExtend 64).toNat

/-- `IMAGE_FIRST_SECTION`. -/
def imageFirstSection (ntHeaders : Nat) : Exec Nat := do
  let sizeOfOptionalHeader ← m.readInt 2 (ntHeaders + 20)
  return ntHeaders + 24 + sizeOfOptionalHeader.toNat

/-- The loop over the `NumberOfSections` section headers, from the first one on. -/
def forEachHeader (body : Nat → σ → Exec (σ × Bool)) (s : σ) : Exec σ := do
  let ntHeaders ← getNTHeaders m address
  let sectionHeader ← imageFirstSection m ntHeaders
  let numberOfSections ← m.readInt 2 (ntHeaders + 6)
  let (s, _) ← visitAt body (fun header => .ok (header + 40)) numberOfSections.toNat sectionHeader s
  return s

/-- The data of a section, from the header of it. -/
def headerData (header : Nat) : Exec ByteSpan := do
  let virtualAddress ← m.readInt 4 (header + 12)
  let virtualSize ← m.readInt 4 (header + 8)
  return ⟨address + virtualAddress.setWidth 64, virtualSize.setWidth 64⟩

/-- The `prot` of the callbacks. -/
def characteristicsProt (characteristics : DWORD) : Protection :=
  (if characteristics &&& imageScnMemRead ≠ 0 then Protection.read else 0) |||
    (if characteristics &&& imageScnMemWrite ≠ 0 then Protection.write else 0) |||
    (if characteristics &&& imageScnMemExecute ≠ 0 then Protection.execute else 0)

/-- A loop that returns the data of the first section whose header has what it looks for. -/
def findHeader (test : Nat → Exec Bool) : Exec ByteSpan :=
  forEachHeader m address (fun header data => do
    let hit ← test header
    if hit then do
      let found ← headerData m address header
      return (found, false)
    else return (data, true)) .none

/-- `get_section_data`. -/
def getSectionData (name : List Byte) : Exec ByteSpan :=
  findHeader m address fun header => do
    let sectionName ← m.readName 8 header
    return sectionName == name

/-- `".text"`. -/
def textSection : List Byte := [0x2E, 0x74, 0x65, 0x78, 0x74]

/-- A section that can be read and executed, and not written. -/
def isCode (characteristics : DWORD) : Bool :=
  characteristics &&& imageScnMemRead ≠ 0 && characteristics &&& imageScnMemWrite = 0
    && characteristics &&& imageScnMemExecute ≠ 0

/-- `get_executable_data`. -/
def getExecutableData : Exec ByteSpan := do
  let text ← getSectionData m address textSection
  if !text.empty then return text
  findHeader m address fun header => do
    let characteristics ← m.readInt 4 (header + 36)
    return isCode characteristics

/-- `for_each_section`. -/
def forEachSection (callback : List Byte → ByteSpan → Protection → σ → σ × Bool) (s : σ) : Exec σ :=
  forEachHeader m address (fun header s => do
    let name ← m.readName 8 header
    let data ← headerData m address header
    let characteristics ← m.readInt 4 (header + 36)
    return callback name data (characteristicsProt characteristics) s) s

end

/-! ### Images -/

/-- `IMAGE_SECTION_HEADER`, with its characteristics. -/
structure SectionHeader extends ImageSectionHeader where
  characteristics : DWORD

namespace SectionHeader

/-- The fields of the header stand at `p`. -/
structure StandsAt (m : Memory) (p : Nat) (header : SectionHeader) : Prop where
  name : m.Holds p header.name
  virtualSize : m.Holds (p + 8) (LittleEndian.bytes 4 header.virtualSize)
  virtualAddress : m.Holds (p + 12) (LittleEndian.bytes 4 header.virtualAddress)
  characteristics : m.Holds (p + 36) (LittleEndian.bytes 4 header.characteristics)

/-- The data of the section. -/
def data (address : BitVec 64) (header : SectionHeader) : ByteSpan :=
  ⟨address + header.virtualAddress.setWidth 64, header.virtualSize.setWidth 64⟩

/-- The protection of the section. -/
def prot (header : SectionHeader) : Protection := characteristicsProt header.characteristics

end SectionHeader

/-- An image: where it is loaded, what its headers tell, and its section headers. -/
structure Image where
  address : BitVec 64
  lfanew : BitVec 32
  sizeOfOptionalHeader : BitVec 16
  sections : List SectionHeader
  sections_lt : sections.length < 2 ^ 16

namespace Image

/-- The address of the NT headers. -/
def ntHeaders (image : Image) : Nat := (image.address + image.lfanew.signExtend 64).toNat

/-- The module, as a search for a table has it. -/
def toModule (image : Image) : Module :=
  ⟨image.address, image.sections.map SectionHeader.toImageSectionHeader⟩

/-- The headers of the image are in memory. -/
structure Laid (m : Memory) (image : Image) : Prop where
  lfanew : m.Holds (image.address.toNat + 60) (LittleEndian.bytes 4 image.lfanew)
  numberOfSections : m.Holds (image.ntHeaders + 6)
    (LittleEndian.bytes 2 (BitVec.ofNat 16 image.sections.length))
  sizeOfOptionalHeader : m.Holds (image.ntHeaders + 20)
    (LittleEndian.bytes 2 image.sizeOfOptionalHeader)
  sections : Chained (SectionHeader.StandsAt m) (fun header => (.ok (header + 40) : Exec Nat))
    (image.ntHeaders + 24 + image.sizeOfOptionalHeader.toNat) image.sections

end Image

section

variable {σ : Type} {m : Memory} {image : Image} {p : Nat} {header : SectionHeader}

theorem SectionHeader.StandsAt.headerData_ok (h : header.StandsAt m p) (address : BitVec 64) :
    headerData m address p = .ok (header.data address) := by
  rw [headerData, Memory.readInt_ok_iff.mpr h.virtualAddress, ok_bind,
    Memory.readInt_ok_iff.mpr h.virtualSize]
  rfl

theorem SectionHeader.StandsAt.readName_ok (h : header.StandsAt m p) :
    m.readName 8 p = .ok header.nameView := by
  have hname := Memory.readName_ok h.name
  rwa [header.name_length] at hname

theorem Image.Laid.getNTHeaders_ok (h : image.Laid m) :
    getNTHeaders m image.address = .ok image.ntHeaders := by
  rw [getNTHeaders, Memory.readInt_ok_iff.mpr h.lfanew]
  rfl

/-- **The walk through the headers** of an image. -/
theorem Image.Laid.forEachHeader_ok (h : image.Laid m) {body : Nat → σ → Exec (σ × Bool)}
    {f : SectionHeader → σ → σ × Bool}
    (hbody : ∀ p header, SectionHeader.StandsAt m p header → ∀ s, body p s = .ok (f header s))
    (s : σ) :
    forEachHeader m image.address body s = .ok (visit f image.sections s).1 := by
  have hcount : (BitVec.ofNat 16 image.sections.length).toNat = image.sections.length := by
    rw [BitVec.toNat_ofNat, Nat.mod_eq_of_lt image.sections_lt]
  rw [forEachHeader, h.getNTHeaders_ok, ok_bind, imageFirstSection,
    Memory.readInt_ok_iff.mpr h.sizeOfOptionalHeader, ok_bind, pure_eq_ok, ok_bind,
    Memory.readInt_ok_iff.mpr h.numberOfSections, ok_bind, hcount,
    visitAt_chained hbody h.sections, ok_bind]
  rfl

/-- **A search through the headers** finds the first hit. -/
theorem Image.Laid.findHeader_ok (h : image.Laid m) {test : Nat → Exec Bool}
    {hit : SectionHeader → Bool}
    (htest : ∀ p header, SectionHeader.StandsAt m p header → test p = .ok (hit header)) :
    findHeader m image.address test =
      .ok (((image.sections.find? hit).map (SectionHeader.data image.address)).getD .none) := by
  rw [← visit_find? hit (SectionHeader.data image.address) image.sections .none]
  refine h.forEachHeader_ok (fun p header hheader data => ?_) ByteSpan.none
  rw [htest p header hheader, ok_bind, hheader.headerData_ok]
  cases hit header <;> rfl

/-! ### Lookups and enumerations -/

/-- **The lookup of a section** finds the first one with the name. -/
theorem getSectionData_ok (h : image.Laid m) (name : List Byte) :
    getSectionData m image.address name =
      .ok (((image.sections.find? (·.nameView == name)).map
        (SectionHeader.data image.address)).getD .none) := by
  refine h.findHeader_ok fun p header hheader => ?_
  rw [hheader.readName_ok]
  rfl

/-- It is the lookup of a search for a table. -/
theorem getSectionData_laid (h : image.Laid m) (name : List Byte) :
    getSectionData m image.address name = .ok (image.toModule.getSectionData name) := by
  rw [getSectionData_ok h, Module.getSectionData, Image.toModule, List.find?_map]
  refine congrArg Except.ok ?_
  have hfind : (fun header : SectionHeader => header.nameView == name)
      = (fun header => header.nameView == name) ∘ SectionHeader.toImageSectionHeader := rfl
  rw [hfind]
  cases image.sections.find? _ <;> rfl

/-- What a callback of `for_each_section` gets. -/
structure NamedSection where
  name : List Byte
  data : ByteSpan
  prot : Protection
  deriving DecidableEq

/-- The section of a header. -/
def SectionHeader.named (address : BitVec 64) (header : SectionHeader) : NamedSection :=
  ⟨header.nameView, header.data address, header.prot⟩

/-- The callback that keeps what it sees, and never stops. -/
def keep (name : List Byte) (data : ByteSpan) (prot : Protection) (seen : List NamedSection) :
    List NamedSection × Bool := (seen ++ [⟨name, data, prot⟩], true)

/-- **An enumeration** goes through the section headers in their order. -/
theorem forEachSection_ok (h : image.Laid m)
    (callback : List Byte → ByteSpan → Protection → σ → σ × Bool) (s : σ) :
    forEachSection m image.address callback s = .ok (visit
      (fun header => callback header.nameView (header.data image.address) header.prot)
      image.sections s).1 := by
  refine h.forEachHeader_ok (fun p header hheader s => ?_) s
  rw [hheader.readName_ok, ok_bind, hheader.headerData_ok, ok_bind,
    Memory.readInt_ok_iff.mpr hheader.characteristics]
  rfl

theorem forEachSection_keep_ok (h : image.Laid m) :
    forEachSection m image.address keep [] =
      .ok (image.sections.map (SectionHeader.named image.address)) := by
  rw [forEachSection_ok h]
  exact congrArg (fun r => Except.ok r.1)
    (visit_append_all (SectionHeader.named image.address) image.sections [])

/-- The protection of machine code. -/
def readExecute : Protection := Protection.read ||| Protection.execute

/-- **The test of `get_executable_data`** is one of the protection. -/
theorem isCode_iff (characteristics : DWORD) :
    isCode characteristics = true ↔ characteristicsProt characteristics = readExecute := by
  rw [isCode, characteristicsProt]
  by_cases hread : characteristics &&& imageScnMemRead = 0#32 <;>
    by_cases hwrite : characteristics &&& imageScnMemWrite = 0#32 <;>
    by_cases hexecute : characteristics &&& imageScnMemExecute = 0#32 <;>
    simp [hread, hwrite, hexecute, readExecute, Protection.read, Protection.write,
      Protection.execute]

/-- The data of the first section with a property. -/
def firstData (hit : NamedSection → Bool) (sections : List NamedSection) : ByteSpan :=
  ((sections.find? hit).map NamedSection.data).getD .none

theorem firstData_named (address : BitVec 64) (hit : NamedSection → Bool)
    (headers : List SectionHeader) :
    firstData hit (headers.map (SectionHeader.named address)) =
      ((headers.find? fun header => hit (header.named address)).map
        (SectionHeader.data address)).getD .none := by
  rw [firstData, List.find?_map]
  show ((Option.map _ (headers.find? fun header => hit (header.named address))).map _).getD _ = _
  rw [Option.map_map]
  rfl

/-- **A section is found under the name that it is enumerated with**, the first one if there are
more. -/
theorem getSectionData_finds (h : image.Laid m) (name : List Byte) :
    ∃ sections, forEachSection m image.address keep [] = .ok sections ∧
      sections = image.sections.map (SectionHeader.named image.address) ∧
      getSectionData m image.address name = .ok (firstData (·.name == name) sections) := by
  refine ⟨_, forEachSection_keep_ok h, rfl, ?_⟩
  rw [getSectionData_ok h, firstData_named]
  rfl

/-- **The executable data** are `.text`, or the first section that is enumerated with the
protection of machine code where `.text` is missing or empty. -/
theorem getExecutableData_finds (h : image.Laid m) :
    ∃ sections, forEachSection m image.address keep [] = .ok sections ∧
      sections = image.sections.map (SectionHeader.named image.address) ∧
      getExecutableData m image.address =
        .ok (if (firstData (·.name == textSection) sections).empty then
          firstData (·.prot == readExecute) sections
        else firstData (·.name == textSection) sections) := by
  obtain ⟨sections, hall, hsections, htext⟩ := getSectionData_finds h textSection
  refine ⟨sections, hall, hsections, ?_⟩
  have hcode : findHeader m image.address (fun header => do
      let characteristics ← m.readInt 4 (header + 36)
      return isCode characteristics) = .ok (firstData (·.prot == readExecute) sections) := by
    rw [hsections, firstData_named]
    refine h.findHeader_ok fun p header hheader => ?_
    rw [Memory.readInt_ok_iff.mpr hheader.characteristics, ok_bind, pure_eq_ok]
    refine congrArg Except.ok (Bool.eq_iff_iff.mpr ?_)
    rw [isCode_iff, beq_iff_eq]
    rfl
  rw [getExecutableData, htext, ok_bind]
  cases (firstData (·.name == textSection) sections).empty with
  | true => exact hcode
  | false => rfl

/-! ### An image with an empty `.text` -/

/-- The bytes of a section header. -/
def headerBytes (name : List Byte) (virtualSize virtualAddress characteristics : DWORD) :
    List Byte :=
  name ++ LittleEndian.bytes 4 virtualSize ++ LittleEndian.bytes 4 virtualAddress ++
    List.replicate 20 0 ++ LittleEndian.bytes 4 characteristics

def emptyText : SectionHeader := ⟨⟨textSection ++ [0, 0, 0], rfl, 0, 0x1000⟩, 0x60000020⟩

def packedCode : SectionHeader :=
  ⟨⟨[0x2E, 0x70, 0x61, 0x63, 0x6B, 0x65, 0x64, 0x30], rfl, 0x200, 0x2000⟩, 0x60000020⟩

def packedImage : Image where
  address := 0x10000
  lfanew := 64
  sizeOfOptionalHeader := 60
  sections := [emptyText, packedCode]
  sections_lt := by decide

def packedBytes : List Byte :=
  List.replicate 60 0 ++ LittleEndian.bytes 4 (64#32) ++
  (List.replicate 6 0 ++ LittleEndian.bytes 2 (2#16) ++ List.replicate 12 0 ++
    LittleEndian.bytes 2 (60#16) ++ List.replicate 62 0) ++
  (headerBytes emptyText.name 0 0x1000 0x60000020 ++
    headerBytes packedCode.name 0x200 0x2000 0x60000020)

theorem packedImage_laid : packedImage.Laid (Memory.ofBytes 0x10000 packedBytes) where
  lfanew := by unfold Memory.Holds; decide
  numberOfSections := by unfold Memory.Holds; decide
  sizeOfOptionalHeader := by unfold Memory.Holds; decide
  sections :=
    .cons
      ⟨by unfold Memory.Holds; decide, by unfold Memory.Holds; decide,
        by unfold Memory.Holds; decide, by unfold Memory.Holds; decide⟩ rfl
      (.cons
        ⟨by unfold Memory.Holds; decide, by unfold Memory.Holds; decide,
          by unfold Memory.Holds; decide, by unfold Memory.Holds; decide⟩ rfl (.nil _))

theorem getSectionData_finds_sample :
    ∃ sections,
      forEachSection (Memory.ofBytes 0x10000 packedBytes) packedImage.address keep [] =
        .ok sections ∧
      sections = packedImage.sections.map (SectionHeader.named packedImage.address) ∧
      getSectionData (Memory.ofBytes 0x10000 packedBytes) packedImage.address textSection =
        .ok (firstData (·.name == textSection) sections) :=
  getSectionData_finds packedImage_laid textSection

theorem getExecutableData_finds_sample :
    ∃ sections,
      forEachSection (Memory.ofBytes 0x10000 packedBytes) packedImage.address keep [] =
        .ok sections ∧
      sections = packedImage.sections.map (SectionHeader.named packedImage.address) ∧
      getExecutableData (Memory.ofBytes 0x10000 packedBytes) packedImage.address =
        .ok (if (firstData (·.name == textSection) sections).empty then
          firstData (·.prot == readExecute) sections
        else firstData (·.name == textSection) sections) :=
  getExecutableData_finds packedImage_laid

end

end Libhat.Win32

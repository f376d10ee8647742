import Libhat.Lib.Chase
import Libhat.Lib.LittleEndian
import Libhat.Win32.Vtable

/-!
# The chain to a virtual table

`find_vtable` follows a chain through the sections of a module: from the name of a class to the
object that has a pointer to it, and from there to the table.

* `findVtableGnu_yields`: the answers of `find_vtable<compiler_type::GNU>`.
* `findVtableMsvc_yields`: those of `find_vtable<compiler_type::MSVC>`, whose object locators have
  another signature on x86-64 than elsewhere.

The element for the `V` of a class or the `U` of a struct is to become a wildcard with
`sig[3] = {}`.  But `{}` is a `std::byte` there, since the assignment of a byte is the better
match for it, and the element becomes a null character: `findVtableMsvc_none` says that no class
is found by its name.
-/

namespace Libhat.Win32

open FirstHit

/-! ### A search for bytes -/

/-- The bytes of a pointer. -/
def pointerBytes (target : Target) (pointer : Nat) : List Byte :=
  LittleEndian.bytes (sizeofPointer target) (BitVec.ofNat 64 pointer)

theorem sizeofPointer_pos (target : Target) : 0 < sizeofPointer target := by
  rw [sizeofPointer]
  cases target.arch <;> decide

theorem objectToSignature_eq (target : Target) (pointer : Nat) :
    objectToSignature target pointer
      = (pointerBytes target pointer).map SignatureElement.ofByte := by
  rw [pointerBytes, LittleEndian.bytes, List.map_map]
  rfl

section

variable {target : Target} {m : Memory} {mod : Module} {className sectionName : List Byte}

/-- **A search for bytes in a section** finds the first place where they stand. -/
theorem findPatternSection_yields {bytes : List Byte} (hne : bytes ≠ [])
    (hread : SectionReadable m (mod.getSectionData sectionName)) :
    Yields (findPatternSection target m (bytes.map SignatureElement.ofByte) sectionName mod)
      (IsLeast (Occurrences m (mod.getSectionData sectionName) bytes)) := by
  have hfull : HasFullByte (bytes.map SignatureElement.ofByte) := by
    obtain ⟨b, rest, rfl⟩ := List.exists_cons_of_ne_nil hne
    exact ⟨.ofByte b, List.mem_cons_self, rfl⟩
  refine .of_isFirst ?_
  rw [← hits_ofByte]
  exact findPattern_ok target .x1 0 hfull (masksDefined_x1 _ _ _ _) hread

/-- **A search for a pointer.** -/
theorem findPointer_yields (target : Target) (pointer : Nat)
    (hread : SectionReadable m (mod.getSectionData sectionName)) :
    Yields (findPatternSection target m (objectToSignature target pointer) sectionName mod)
      (IsLeast (Occurrences m (mod.getSectionData sectionName) (pointerBytes target pointer))) := by
  have hne : pointerBytes target pointer ≠ [] := by
    rw [← List.length_pos_iff, pointerBytes, LittleEndian.length_bytes]
    exact sizeofPointer_pos target
  rw [objectToSignature_eq]
  exact findPatternSection_yields hne hread

/-! ### `find_vtable<compiler_type::GNU>` -/

/-- The chain to a table: the name is the first of its kind, `slot` the first pointer to it, the
second word of the type info, and `place` the first pointer to the type info, the word before the
table. -/
def GnuChain (target : Target) (m : Memory) (data : ByteSpan) (className : List Byte)
    (vtable : Nat) : Prop :=
  ∃ name, IsLeast (Occurrences m data (lengthPrefixed className)) name ∧
    ∃ slot, IsLeast (Occurrences m data (pointerBytes target name)) slot ∧
      ∃ place,
        IsLeast (Occurrences m data (pointerBytes target (slot - sizeofPointer target))) place ∧
        vtable = place + sizeofPointer target

/-- **The answers of `find_vtable<compiler_type::GNU>`** are the ends of the chain. -/
theorem findVtableGnu_yields (target : Target) (className : List Byte)
    (hread : SectionReadable m (mod.getSectionData rdata)) :
    Yields (findVtableGnu target m mod className)
      (GnuChain target m (mod.getSectionData rdata) className) := by
  have hname : Yields (gnuTypeName target m mod className)
      (IsLeast (Occurrences m (mod.getSectionData rdata) (lengthPrefixed className))) :=
    .of_isFirst (gnuTypeName_ok target hread className)
  exact hname.bind rfl fun name => (findPointer_yields target name hread).bind rfl fun slot =>
    (findPointer_yields target (slot - sizeofPointer target) hread).map (· + sizeofPointer target)

/-- The chain to the table of `Foo<int>`. -/
theorem findVtableGnu_yields_sample :
    GnuChain x64 (Memory.ofBytes 0x1000 templateBytes) (templateModule.getSectionData rdata) foo
      0x1028 := by
  have hyields : Yields (findVtableGnu x64 (Memory.ofBytes 0x1000 templateBytes) templateModule foo)
      (GnuChain x64 (Memory.ofBytes 0x1000 templateBytes) (templateModule.getSectionData rdata)
        foo) :=
    findVtableGnu_yields x64 foo (Memory.readable_ofBytes 0x1000 templateBytes)
  exact (hyields.iff 0x1028).mp (by rfl)

/-! ### `find_vtable<compiler_type::MSVC>` -/

/-- `".data"`. -/
def dataSection : List Byte := [0x2E, 0x64, 0x61, 0x74, 0x61]

/-- `".?AV"`. -/
def classPrefix : List Byte := [0x2E, 0x3F, 0x41, 0x56]

/-- `"@@"`. -/
def classSuffix : List Byte := [0x40, 0x40]

/-- The signature, the offset and the constructor displacement offset of an object locator. -/
def locatorHeader (target : Target) : List Byte :=
  if target.arch = .x86_64 then [1, 0, 0, 0] ++ [0, 0, 0, 0] ++ [0, 0, 0, 0]
  else [0, 0, 0, 0] ++ [0, 0, 0, 0] ++ [0, 0, 0, 0]

/-- `static_cast<std::uint32_t>(typeDesc - mod.address())`, for the descriptor before `name`. -/
def descriptorOffset (target : Target) (mod : Module) (name : Nat) : BitVec 32 :=
  (BitVec.ofNat 64 name - BitVec.ofNat 64 (2 * sizeofPointer target) - mod.address).setWidth 32

/-- `find_vtable<compiler_type::MSVC>`. -/
def findVtableMsvc (target : Target) (m : Memory) (mod : Module) (className : List Byte) :
    Exec ScanResult := do
  let sig ← resultValue (stringToSignature (classPrefix ++ className ++ classSuffix))
  -- the assignment of a byte is taken for `sig[3] = {}`
  let sig := sig.set 3 (.ofByte 0)
  match ← findPatternSection target m sig dataSection mod with
  | none => return none
  | some typeDesc =>
    let loffset := LittleEndian.bytes 4 (descriptorOffset target mod typeDesc)
    let locator := (locatorHeader target).map SignatureElement.ofByte
      ++ loffset.map SignatureElement.ofByte
    match ← findPatternSection target m locator rdata mod with
    | none => return none
    | some objectLocator =>
      let vtable ← findPatternSection target m (objectToSignature target objectLocator)
        dataSection mod
      return vtable.map (· + sizeofPointer target)

/-- The text that is looked for, with a null character in the place of the `V`. -/
def msvcText (className : List Byte) : List Byte :=
  [0x2E, 0x3F, 0x41, 0x00] ++ className ++ classSuffix

/-- The bytes of the object locator of the descriptor before `name`. -/
def locatorBytes (target : Target) (mod : Module) (name : Nat) : List Byte :=
  locatorHeader target ++ LittleEndian.bytes 4 (descriptorOffset target mod name)

/-- The chain to a table: the first text, the first object locator with the offset of its
descriptor, and the first pointer in `.data` to the locator, the word before the table. -/
def MsvcChain (target : Target) (m : Memory) (mod : Module) (className : List Byte)
    (vtable : Nat) : Prop :=
  ∃ name, IsLeast (Occurrences m (mod.getSectionData dataSection) (msvcText className)) name ∧
    ∃ locator,
      IsLeast (Occurrences m (mod.getSectionData rdata) (locatorBytes target mod name)) locator ∧
      ∃ place,
        IsLeast (Occurrences m (mod.getSectionData dataSection) (pointerBytes target locator))
          place ∧
        vtable = place + sizeofPointer target

/-- **The answers of `find_vtable<compiler_type::MSVC>`** are the ends of the chain. -/
theorem findVtableMsvc_yields (target : Target) (className : List Byte)
    (hdata : SectionReadable m (mod.getSectionData dataSection))
    (hrdata : SectionReadable m (mod.getSectionData rdata)) :
    Yields (findVtableMsvc target m mod className) (MsvcChain target m mod className) := by
  have hname : Yields
      (findPatternSection target m ((msvcText className).map SignatureElement.ofByte) dataSection
        mod)
      (IsLeast (Occurrences m (mod.getSectionData dataSection) (msvcText className))) :=
    findPatternSection_yields (List.cons_ne_nil _ _) hdata
  have hlocator : ∀ name, Yields
      (findPatternSection target m ((locatorBytes target mod name).map SignatureElement.ofByte)
        rdata mod)
      (IsLeast (Occurrences m (mod.getSectionData rdata) (locatorBytes target mod name))) := by
    intro name
    refine findPatternSection_yields (fun hnil => ?_) hrdata
    have hlength := congrArg List.length hnil
    rw [locatorBytes, List.length_append, LittleEndian.length_bytes, List.length_nil] at hlength
    omega
  have hsignature : ∀ name, (locatorHeader target).map SignatureElement.ofByte
      ++ (LittleEndian.bytes 4 (descriptorOffset target mod name)).map SignatureElement.ofByte
      = (locatorBytes target mod name).map SignatureElement.ofByte :=
    fun name => List.map_append.symm
  rw [findVtableMsvc]
  simp only [hsignature]
  exact hname.bind rfl fun name => (hlocator name).bind rfl fun locator =>
    (findPointer_yields target locator hdata).map (· + sizeofPointer target)

/-- **No class is found by its name.**  The names of type descriptors have a `V` or a `U` behind
`.?A`, and no null character; then there is no answer for any class. -/
theorem findVtableMsvc_none (target : Target) (className : List Byte)
    (hdata : SectionReadable m (mod.getSectionData dataSection))
    (hrdata : SectionReadable m (mod.getSectionData rdata))
    (hnames : ∀ p ∈ Occurrences m (mod.getSectionData dataSection) [0x2E, 0x3F, 0x41],
      m (p + 3) ≠ some 0) :
    findVtableMsvc target m mod className = .ok none := by
  refine (findVtableMsvc_yields target className hdata hrdata).none_iff.mpr ?_
  rintro vtable ⟨name, ⟨hname, _⟩, _⟩
  obtain ⟨hfirst, hlast, hholds⟩ := hname
  have hprefix : m.Holds name [0x2E, 0x3F, 0x41] := by
    intro i hi
    have hi3 : i = 0 ∨ i = 1 ∨ i = 2 := by
      simp at hi
      omega
    rw [hholds i (by rw [msvcText]; simp; omega)]
    rcases hi3 with rfl | rfl | rfl <;> rfl
  refine hnames name ⟨hfirst, ?_, hprefix⟩ ?_
  · simp only [msvcText, List.length_append, List.length_cons, List.length_nil] at hlast ⊢
    omega
  · exact hholds 3 (by simp [msvcText])

/-- A `.data` with the type descriptor of the class `Foo`, the fourth character of whose name is
`kind`, and the word before its virtual table, which has a pointer to the object locator in the
`.rdata` behind it. -/
def msvcBytes (target : Target) (kind : Byte) : List Byte :=
  List.replicate (2 * sizeofPointer target) 0 ++ ([0x2E, 0x3F, 0x41, kind] ++ foo ++ classSuffix)
    ++ List.replicate (55 - 4 * sizeofPointer target) 0 ++ pointerBytes target 0x1040
    ++ pointerBytes target 0x5000 ++ locatorHeader target ++ [0x00, 0x10, 0x00, 0x00]

def msvcModule : Module where
  address := 0#64
  sectionHeaders :=
    [⟨dataSection ++ [0, 0, 0], rfl, 64#32, 0x1000#32⟩,
      ⟨rdata ++ List.replicate 2 0, rfl, 16#32, 0x1040#32⟩]

/-- A build for 32-bit Windows. -/
def win32 : Target := { (default : Target) with arch := .x86 }

/-- The chains of two images in which the fourth character is a null character. -/
theorem findVtableMsvc_yields_sample :
    MsvcChain x64 (Memory.ofBytes 0x1000 (msvcBytes x64 0)) msvcModule foo 0x1038 ∧
      MsvcChain win32 (Memory.ofBytes 0x1000 (msvcBytes win32 0)) msvcModule foo 0x103C :=
  ⟨((findVtableMsvc_yields x64 foo
      ((Memory.readable_ofBytes 0x1000 (msvcBytes x64 0)).mono (by decide) (by decide))
      ((Memory.readable_ofBytes 0x1000 (msvcBytes x64 0)).mono (by decide) (by decide))).iff
      0x1038).mp (by rfl),
    ((findVtableMsvc_yields win32 foo
      ((Memory.readable_ofBytes 0x1000 (msvcBytes win32 0)).mono (by decide) (by decide))
      ((Memory.readable_ofBytes 0x1000 (msvcBytes win32 0)).mono (by decide) (by decide))).iff
      0x103C).mp (by rfl)⟩

theorem findVtableMsvc_none_sample :
    findVtableMsvc x64 (Memory.ofBytes 0x1000 (msvcBytes x64 0x56)) msvcModule foo = .ok none := by
  refine findVtableMsvc_none x64 foo
    ((Memory.readable_ofBytes 0x1000 (msvcBytes x64 0x56)).mono (by decide) (by decide))
    ((Memory.readable_ofBytes 0x1000 (msvcBytes x64 0x56)).mono (by decide) (by decide)) ?_
  rintro p ⟨hfirst, hlast, hholds⟩
  have hbase : (msvcModule.getSectionData dataSection).data.toNat = 0x1000 := by decide
  have hsize : (msvcModule.getSectionData dataSection).size.toNat = 64 := by decide
  rw [hbase] at hfirst hlast
  rw [hsize] at hlast
  obtain ⟨i, rfl⟩ := Nat.exists_eq_add_of_le hfirst
  have hdot := hholds.head
  rw [Memory.ofBytes_add] at hdot
  rw [Nat.add_assoc, Memory.ofBytes_add]
  have hbytes : ∀ i < 62, (msvcBytes x64 0x56)[i]? = some 0x2E →
      (msvcBytes x64 0x56)[i + 3]? ≠ some 0 := by decide
  exact hbytes i (by simp at hlast; omega) hdot

end

end Libhat.Win32

import Libhat.Scan
import Libhat.SignatureText

/-!
# Virtual tables on Windows

`find_vtable<compiler_type::GNU>` looks for the mangled name of a class in `.rdata`: the
length of the name and the name.  Then it looks for a pointer to what it has found, and for
a pointer to that.

The name is to end with a null character, which is appended as the literal `"\\0"`.  As a C
string that is empty, so the character is not searched for, and a longer name that begins
with the same length and name is taken for the class.

* `gnuTypeName_ok`: the first search finds the first occurrence of the length and the name.
* `gnuTypeName_iff`: that is a type name of the class exactly if a null character follows.
-/

namespace Libhat.Win32

open FirstHit

/-! ### Sections -/

/-- `IMAGE_SECTION_HEADER`. -/
structure ImageSectionHeader where
  name : List Byte
  name_length : name.length = 8
  virtualSize : BitVec 32
  virtualAddress : BitVec 32

/-- The string in the name field: up to a null character, if there is one. -/
def ImageSectionHeader.nameView (header : ImageSectionHeader) : List Byte :=
  header.name.takeWhile (· ≠ 0)

/-- `module`: its address, and the section headers behind its NT headers. -/
structure Module where
  address : BitVec 64
  sectionHeaders : List ImageSectionHeader

/-- `get_section_data`. -/
def Module.getSectionData (mod : Module) (name : List Byte) : ByteSpan :=
  match mod.sectionHeaders.find? fun header => header.nameView == name with
  | some header =>
    ⟨mod.address + header.virtualAddress.setWidth 64, header.virtualSize.setWidth 64⟩
  | none => .none

/-- `find_pattern` in a section of a module. -/
def findPatternSection (target : Target) (m : Memory) (signature : Signature)
    (sectionName : List Byte) (mod : Module) : Exec ScanResult :=
  let data := mod.getSectionData sectionName
  findPattern target m data.data.toNat (data.data.toNat + data.size.toNat) signature .x1 0

/-! ### Signatures of strings and objects -/

/-- `string_to_signature`. -/
def stringToSignature (str : List Byte) : Except SignatureError Signature :=
  if str.isEmpty then .error .emptySignature else .ok (str.map SignatureElement.ofByte)

/-- `value` of a `result`. -/
def resultValue {α : Type} : Except SignatureError α → Exec α
  | .ok a => .ok a
  | .error _ => .error .noValue

/-- `sizeof(void*)`. -/
def sizeofPointer (target : Target) : Nat :=
  match target.arch with
  | .x86 | .arm => 4
  | .x86_64 | .aarch64 => 8

/-- `object_to_signature` for a pointer. -/
def objectToSignature (target : Target) (pointer : Nat) : Signature :=
  (List.range (sizeofPointer target)).map fun i =>
    .ofByte ((BitVec.ofNat 64 pointer).extractLsb' (8 * i) 8)

/-- `std::to_string`. -/
def toDecimal (n : Nat) : List Byte :=
  (Nat.toDigits 10 n).map fun c => BitVec.ofNat 8 c.toNat

/-- `str + literal`: a literal is appended as a C string. -/
def appendLiteral (str literal : List Byte) : List Byte := str ++ literal.takeWhile (· ≠ 0)

/-! ### The search -/

/-- `".rdata"`. -/
def rdata : List Byte := [0x2E, 0x72, 0x64, 0x61, 0x74, 0x61]

/-- What `find_vtable<compiler_type::GNU>` takes for the type name, if anything. -/
def gnuTypeName (target : Target) (m : Memory) (mod : Module) (className : List Byte) :
    Exec ScanResult := do
  -- the bytes of the literal "\0", with its terminator
  let sig ← resultValue
    (stringToSignature (appendLiteral (toDecimal className.length ++ className) [0, 0]))
  findPatternSection target m sig rdata mod

/-- `find_vtable<compiler_type::GNU>`. -/
def findVtableGnu (target : Target) (m : Memory) (mod : Module) (className : List Byte) :
    Exec ScanResult := do
  match ← gnuTypeName target m mod className with
  | none => return none
  | some typeName =>
    match ← findPatternSection target m (objectToSignature target typeName) rdata mod with
    | none => return none
    | some typeInfo =>
      -- a pointer is the offset from the type name pointer to the start of the type info
      let vtable ← findPatternSection target m
        (objectToSignature target (typeInfo - sizeofPointer target)) rdata mod
      return vtable.map (· + sizeofPointer target)

/-! ### What is found -/

section

variable {target : Target} {m : Memory} {mod : Module} {className : List Byte}

/-- Every byte of a section can be read. -/
def SectionReadable (m : Memory) (data : ByteSpan) : Prop :=
  m.Readable data.data.toNat (data.data.toNat + data.size.toNat)

/-- Where the bytes occur in a section. -/
def Occurrences (m : Memory) (data : ByteSpan) (bytes : List Byte) : Set Nat :=
  {p | data.data.toNat ≤ p ∧ p + bytes.length ≤ data.data.toNat + data.size.toNat ∧
    m.Holds p bytes}

/-- The length of a class name, and the class name. -/
def lengthPrefixed (className : List Byte) : List Byte := toDecimal className.length ++ className

/-- The type name of a class. -/
def typeNameOf (className : List Byte) : List Byte := lengthPrefixed className ++ [0]

theorem lengthPrefixed_ne_nil (className : List Byte) : lengthPrefixed className ≠ [] := by
  have hdigits : toDecimal className.length ≠ [] := by simp [toDecimal]
  exact List.append_ne_nil_of_left_ne_nil hdigits className

/-- **A signature of bytes** matches where they stand. -/
theorem matchesAt_ofByte {bytes : List Byte} {p : Nat} :
    MatchesAt m (bytes.map SignatureElement.ofByte) p ↔ m.Holds p bytes := by
  constructor
  · intro h i hi
    obtain ⟨b, hb, haccepts⟩ := h i (by rwa [List.length_map])
    rw [List.getElem_map, SignatureElement.accepts_of_all (by rfl)] at haccepts
    rw [hb, haccepts]
    rfl
  · intro h i hi
    rw [List.length_map] at hi
    refine ⟨bytes[i], h i hi, ?_⟩
    rw [List.getElem_map, SignatureElement.accepts_of_all (by rfl)]
    rfl

theorem hits_ofByte (data : ByteSpan) (bytes : List Byte) :
    Hits m (bytes.map SignatureElement.ofByte) ScanAlignment.x1.toStride data.data.toNat
      (data.data.toNat + data.size.toNat) = Occurrences m data bytes := by
  ext p
  simp only [Hits, Occurrences, List.length_map, matchesAt_ofByte]
  exact and_congr_right fun _ => and_congr_right fun _ => and_iff_right (Nat.one_dvd p)

/-- **The first search** finds the first place where the length and the name stand. -/
theorem gnuTypeName_ok (target : Target) (hread : SectionReadable m (mod.getSectionData rdata))
    (className : List Byte) :
    ∃ r, gnuTypeName target m mod className = .ok r ∧
      IsFirst (Occurrences m (mod.getSectionData rdata) (lengthPrefixed className)) r := by
  have hne := lengthPrefixed_ne_nil className
  have hsig : stringToSignature (appendLiteral (toDecimal className.length ++ className) [0, 0])
      = .ok ((lengthPrefixed className).map SignatureElement.ofByte) := by
    have happend : appendLiteral (toDecimal className.length ++ className) [0, 0]
        = lengthPrefixed className := List.append_nil _
    rw [happend, stringToSignature, if_neg (by simpa using hne)]
  have hfull : HasFullByte ((lengthPrefixed className).map SignatureElement.ofByte) := by
    obtain ⟨b, rest, hcons⟩ := List.exists_cons_of_ne_nil hne
    exact ⟨.ofByte b, by rw [hcons]; exact List.mem_cons_self, rfl⟩
  obtain ⟨r, hr, hfirst⟩ := findPattern_ok target .x1 0 hfull (masksDefined_x1 _ _ _ _) hread
  rw [hits_ofByte] at hfirst
  refine ⟨r, ?_, hfirst⟩
  rw [gnuTypeName, hsig]
  exact hr

theorem holds_append_zero {bytes : List Byte} {p : Nat} :
    m.Holds p (bytes ++ [0]) ↔ m.Holds p bytes ∧ m (p + bytes.length) = some 0 := by
  constructor
  · intro h
    refine ⟨fun i hi => ?_, ?_⟩
    · rw [h i (by simp; omega), List.getElem_append_left hi]
    · rw [h bytes.length (by simp)]
      simp
  · intro h i hi
    obtain ⟨h, hzero⟩ := h
    by_cases hlt : i < bytes.length
    · rw [h i hlt, List.getElem_append_left hlt]
    · obtain rfl : i = bytes.length := by
        simp at hi
        omega
      rw [hzero]
      simp

/-- **What is taken for the type name** is the type name of the class exactly if a null
character follows the first place where the length and the name stand. -/
theorem gnuTypeName_iff (hread : SectionReadable m (mod.getSectionData rdata)) :
    (∀ p, gnuTypeName target m mod className = .ok (some p) → m.Holds p (typeNameOf className)) ↔
      ∀ p, IsLeast (Occurrences m (mod.getSectionData rdata) (lengthPrefixed className)) p →
        m (p + (lengthPrefixed className).length) = some 0 := by
  obtain ⟨r, hr, hfirst⟩ := gnuTypeName_ok target hread className
  constructor
  · intro h p hp
    obtain rfl := hfirst.unique (isFirst_some.mpr hp)
    exact (holds_append_zero.mp (h p hr)).2
  · intro h p hp
    rw [hr] at hp
    obtain rfl := Except.ok.inj hp
    exact holds_append_zero.mpr ⟨(isFirst_some.mp hfirst).1.2.2, h p hfirst⟩

/-- The `.rdata` of a module that has the class template instance `Foo<int>`: its type name
`3FooIiE`, its type info and its virtual table. -/
def templateBytes : List Byte :=
  [0x33, 0x46, 0x6F, 0x6F, 0x49, 0x69, 0x45, 0x00] ++
  [0x00, 0x00, 0x00, 0x00, 0x00, 0x00, 0x00, 0x00] ++
  [0x00, 0x10, 0x00, 0x00, 0x00, 0x00, 0x00, 0x00] ++
  [0x00, 0x00, 0x00, 0x00, 0x00, 0x00, 0x00, 0x00] ++
  [0x08, 0x10, 0x00, 0x00, 0x00, 0x00, 0x00, 0x00] ++
  [0xC3, 0x00, 0x00, 0x00, 0x00, 0x00, 0x00, 0x00]

def templateModule : Module where
  address := 0#64
  sectionHeaders := [⟨rdata ++ [0, 0], rfl, 48#32, 0x1000#32⟩]

/-- A build for 64-bit Windows. -/
def x64 : Target := { (default : Target) with arch := .x86_64 }

/-- `"Foo"`. -/
def foo : List Byte := [0x46, 0x6F, 0x6F]

theorem gnuTypeName_iff_template :
    (∀ p, gnuTypeName default (Memory.ofBytes 0x1000 templateBytes) templateModule foo
        = .ok (some p) → (Memory.ofBytes 0x1000 templateBytes).Holds p (typeNameOf foo)) ↔
      ∀ p, IsLeast (Occurrences (Memory.ofBytes 0x1000 templateBytes)
          (templateModule.getSectionData rdata) (lengthPrefixed foo)) p →
        Memory.ofBytes 0x1000 templateBytes (p + (lengthPrefixed foo).length) = some 0 :=
  gnuTypeName_iff (Memory.readable_ofBytes 0x1000 templateBytes)

/-- `Foo<int>` is taken for `Foo`, and its virtual table is the result. -/
theorem template_taken_for_class :
    gnuTypeName x64 (Memory.ofBytes 0x1000 templateBytes) templateModule foo
        = .ok (some 0x1000) ∧
      ¬ (Memory.ofBytes 0x1000 templateBytes).Holds 0x1000 (typeNameOf foo) ∧
      findVtableGnu x64 (Memory.ofBytes 0x1000 templateBytes) templateModule foo
        = .ok (some 0x1028) := by
  refine ⟨by rfl, fun h => ?_, by rfl⟩
  have hzero := (holds_append_zero.mp h).2
  exact absurd hzero (by decide)

end

end Libhat.Win32

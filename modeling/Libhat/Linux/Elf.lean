import Libhat.Linux.MemoryProtector
import Libhat.Lib.OrderedMap

/-!
# The section table of an ELF file

`init_sections` loads the names of a module's sections from its file: it reads the
ELF header, the section header table and the string table, and then goes through the
section headers.  Every number in them comes from the file.  A read outside of one of
the two buffers is a fault here, as is signed arithmetic that leaves its type.
`std::vector` throws when it cannot have the size it is asked for, and the map when it
cannot have an entry.

* `prepareSections_eq`: where the products fit in an `int` and the buffers can be
  allocated, the tables are those of the file.
* `loadHeaders_ok`: what the loop over the headers adds to the map, wherever it is stopped.
* `products_exact_iff`: when the products fit.
-/

namespace Libhat.Linux

/-- What ends a run of the module functions without a result. -/
inductive Abort where
  | fault (fault : Fault)
  /-- `std::length_error` -/
  | lengthError
  /-- `std::bad_alloc` -/
  | badAlloc
  /-- `std::terminate` -/
  | terminate
  deriving DecidableEq, Repr

abbrev Run := Except Abort

@[simp] theorem run_bind {α β : Type} (a : α) (f : α → Run β) :
    ((Except.ok a : Run α) >>= f) = f a := rfl

@[simp] theorem run_pure {α : Type} (a : α) : (pure a : Run α) = .ok a := rfl

/-! ### Files -/

/-- A file as `std::ifstream` sees it: its bytes, and the offsets to which it can be
positioned. -/
structure File where
  content : List Byte
  seekable : Nat → Bool

/-- `file.read` of `n` bytes, at a position. -/
def File.read (file : File) (pos n : Nat) : Option (List Byte) :=
  let bytes := (file.content.drop pos).take n
  if bytes.length = n then some bytes else none

/-- `file.seekg(offset, std::ios::beg)`, for an offset that is converted to
`std::streamoff`: the new position. -/
def File.seekg (file : File) (offset : BitVec 64) : Option Nat :=
  if offset.toInt < 0 ∨ file.seekable offset.toNat = false then none else some offset.toNat

/-- `seekg`, and then `read`. -/
def File.readAt (file : File) (offset : BitVec 64) (n : Nat) : Option (List Byte) :=
  match file.seekg offset with
  | none => none
  | some pos => file.read pos n

/-- The number that some bytes represent, the least significant first. -/
def leNat : List Byte → Nat
  | [] => 0
  | b :: rest => b.toNat + 256 * leNat rest

/-- The field of `n` bytes at `offset`. -/
def field (bytes : List Byte) (offset n : Nat) : BitVec (8 * n) :=
  BitVec.ofNat (8 * n) (leNat ((bytes.drop offset).take n))

/-- `elf_ehdr_t`. -/
structure Ehdr where
  eIdent : List Byte
  eShoff : BitVec 64
  eShentsize : BitVec 16
  eShnum : BitVec 16
  eShstrndx : BitVec 16
  deriving DecidableEq

def sizeofEhdr : Nat := 64

def Ehdr.ofBytes (bytes : List Byte) : Ehdr where
  eIdent := bytes.take 16
  eShoff := field bytes 40 8
  eShentsize := field bytes 58 2
  eShnum := field bytes 60 2
  eShstrndx := field bytes 62 2

/-- `elf_shdr_t`. -/
structure Shdr where
  shName : BitVec 32
  shType : BitVec 32
  shFlags : BitVec 64
  shAddr : BitVec 64
  shOffset : BitVec 64
  shSize : BitVec 64
  deriving DecidableEq

def sizeofShdr : Nat := 64

def Shdr.ofBytes (bytes : List Byte) : Shdr where
  shName := field bytes 0 4
  shType := field bytes 4 4
  shFlags := field bytes 8 8
  shAddr := field bytes 16 8
  shOffset := field bytes 24 8
  shSize := field bytes 32 8

/-- `ELFMAG0` to `ELFMAG3`, and `ELFCLASS64`. -/
def elfIdent : List Byte := [0x7F, 0x45, 0x4C, 0x46, 0x02]

def shtNull : BitVec 32 := 0#32
def shfWrite : BitVec 64 := 1#64
def shfAlloc : BitVec 64 := 2#64
def shfExecinstr : BitVec 64 := 4#64

/-- The header of the file, if it is one that `init_sections` goes on with: it has the
magic numbers and a section header table, with entries that are large enough. -/
def File.header (file : File) : Option Ehdr :=
  match file.read 0 sizeofEhdr with
  | none => none
  | some bytes =>
    let ehdr := Ehdr.ofBytes bytes
    if ehdr.eIdent.take 5 ≠ elfIdent then none
    else if ehdr.eShnum = 0 ∨ ehdr.eShentsize.toNat < sizeofShdr then none
    else some ehdr

/-! ### Sections -/

/-- `std::string`, the name of a section.  The order is that of the bytes. -/
structure SectionName where
  bytes : List Byte
  deriving DecidableEq, Repr

theorem SectionName.toNat_injective :
    Function.Injective fun name : SectionName => name.bytes.map BitVec.toNat := by
  intro a b h
  exact congrArg SectionName.mk (List.map_injective_iff.mpr (fun _ _ => BitVec.eq_of_toNat_eq) h)

instance : LinearOrder SectionName :=
  LinearOrder.lift' (fun name => name.bytes.map BitVec.toNat) SectionName.toNat_injective

/-- A literal. -/
def SectionName.ofString (s : String) : SectionName :=
  ⟨s.toList.map fun c => BitVec.ofNat 8 c.toNat⟩

/-- The address range and the protection of a section. -/
structure SectionData where
  data : ByteSpan
  prot : Protection
  deriving DecidableEq

/-- `sections_t`. -/
abbrev Sections := OrderedMap SectionName SectionData

/-- What `init_sections` makes of a section header. -/
def Shdr.sectionData (baseAddress : BitVec 64) (header : Shdr) : SectionData where
  data := ⟨baseAddress + header.shAddr, header.shSize⟩
  prot := Protection.read |||
    (if header.shFlags &&& shfWrite ≠ 0 then Protection.write else 0) |||
    (if header.shFlags &&& shfExecinstr ≠ 0 then Protection.execute else 0)

/-- `std::vector<char>(n)`. -/
def newVector (canAllocate : Nat → Bool) (n : Nat) : Run Unit :=
  if n > 2 ^ 63 - 1 then .error .lengthError
  else if canAllocate n then .ok ()
  else .error .badAlloc

/-- A product of two 16-bit fields.  Both are promoted to `int`, and the product is that
of `int`. -/
def mulHalf (a b : BitVec 16) : Run Nat :=
  if a.toNat * b.toNat < 2 ^ 31 then .ok (a.toNat * b.toNat) else .error (.fault .overflow)

/-- `std::memcpy` of a section header out of the table. -/
def readShdr (table : List Byte) (offset : Nat) : Run Shdr :=
  if offset + sizeofShdr ≤ table.length then .ok (Shdr.ofBytes (table.drop offset))
  else .error (.fault (.index offset))

/-- `strnlen`, of a string in a buffer. -/
def strnlen (buffer : List Byte) (pos : Nat) : Nat → Run Nat
  | 0 => .ok 0
  | n + 1 =>
    match buffer[pos]? with
    | none => .error (.fault (.index pos))
    | some b =>
      if b = 0 then .ok 0
      else do
        let size ← strnlen buffer (pos + 1) n
        return size + 1

/-- The header and the tables of a file. -/
structure Tables where
  ehdr : Ehdr
  table : List Byte
  strings : List Byte
  deriving DecidableEq

/-- What a call of `init_sections` meets: what can be allocated, the buffers by their sizes and
the entries of the map, a node and a copy of the name each, by the offsets of their headers. -/
structure Heap where
  canAllocate : Nat → Bool
  canEmplace : Nat → Bool

/-- `init_sections` up to the loop over the headers: the tables that it has read.  A file that
cannot be opened is `none`. -/
def prepareSections (canAllocate : Nat → Bool) (file : Option File) : Run (Option Tables) :=
  match file with
  | none => .ok none
  | some file =>
    match file.header with
    | none => .ok none
    | some ehdr => do
      let size ← mulHalf ehdr.eShnum ehdr.eShentsize
      newVector canAllocate size
      match file.readAt ehdr.eShoff size with
      | none => return none
      | some table =>
        if ehdr.eShstrndx ≥ ehdr.eShnum then return none
        let offset ← mulHalf ehdr.eShstrndx ehdr.eShentsize
        let shstrtab ← readShdr table offset
        newVector canAllocate shstrtab.shSize.toNat
        match file.readAt shstrtab.shOffset shstrtab.shSize.toNat with
        | none => return none
        | some strings => return some ⟨ehdr, table, strings⟩

/-- The section of the header at the offset `it`, if the loop does not skip it. -/
def headerEntry (baseAddress : BitVec 64) (table strings : List Byte) (it : Nat) :
    Run (Option (SectionName × SectionData)) := do
  let header ← readShdr table it
  if header.shType = shtNull then return none
  if header.shAddr = 0 ∨ header.shName.toNat > strings.length
      ∨ header.shFlags &&& shfAlloc = 0 then
    return none
  let pos := header.shName.toNat
  let size ← strnlen strings pos (strings.length - pos)
  return some (⟨(strings.drop pos).take size⟩, header.sectionData baseAddress)

/-- The loop over the headers, from the offset `it` on: the entries after it, and how it ends. -/
def loadHeaders (canEmplace : Nat → Bool) (baseAddress : BitVec 64) (t : Tables) :
    Nat → Nat → Sections → Sections × Run Unit
  | 0, _, names => (names, .error (.fault .budget))
  | budget + 1, it, names =>
    if it = t.table.length then (names, .ok ())
    else
      match headerEntry baseAddress t.table t.strings it with
      | .error e => (names, .error e)
      | .ok none =>
        loadHeaders canEmplace baseAddress t budget (it + t.ehdr.eShentsize.toNat) names
      | .ok (some entry) =>
        -- the node is allocated before the map is searched for the name
        if canEmplace it then
          loadHeaders canEmplace baseAddress t budget (it + t.ehdr.eShentsize.toNat)
            (names.emplace entry.1 entry.2)
        else (names, .error .badAlloc)

/-- `init_sections`: the table that it leaves, from the entries that are there already, and how it
ends. -/
def initSections (heap : Heap) (baseAddress : BitVec 64) (file : Option File) (names : Sections) :
    Sections × Run Unit :=
  match prepareSections heap.canAllocate file with
  | .error e => (names, .error e)
  | .ok none => (names, .ok ())
  | .ok (some t) =>
    loadHeaders heap.canEmplace baseAddress t (t.ehdr.eShnum.toNat + 1) 0 names

/-! ### Products and allocations -/

theorem mulHalf_eq_ok_iff {a b : BitVec 16} {n : Nat} :
    mulHalf a b = .ok n ↔ a.toNat * b.toNat < 2 ^ 31 ∧ a.toNat * b.toNat = n := by
  unfold mulHalf
  by_cases h : a.toNat * b.toNat < 2 ^ 31
  · rw [if_pos h]
    exact ⟨fun heq => ⟨h, Except.ok.inj heq⟩, fun heq => congrArg Except.ok heq.2⟩
  · rw [if_neg h]
    exact ⟨fun heq => (by cases heq), fun heq => absurd heq.1 h⟩

/-- A buffer of `n` bytes can be allocated. -/
def Allocatable (canAllocate : Nat → Bool) (n : Nat) : Prop :=
  n ≤ 2 ^ 63 - 1 ∧ canAllocate n = true

theorem newVector_eq_ok_iff {canAllocate : Nat → Bool} {n : Nat} :
    newVector canAllocate n = .ok () ↔ Allocatable canAllocate n := by
  unfold newVector Allocatable
  by_cases hn : n > 2 ^ 63 - 1
  · rw [if_pos hn]
    refine ⟨fun h => (by cases h), fun h => absurd h.1 (by omega)⟩
  · rw [if_neg hn]
    by_cases hcan : canAllocate n = true
    · rw [if_pos hcan]
      exact ⟨fun _ => ⟨by omega, hcan⟩, fun _ => rfl⟩
    · rw [if_neg hcan]
      refine ⟨fun h => (by cases h), fun h => absurd h.2 hcan⟩

/-- What the caller can catch. -/
def Abort.isException : Abort → Bool
  | lengthError => true
  | badAlloc => true
  | _ => false

theorem newVector_error {canAllocate : Nat → Bool} {n : Nat} {e : Abort}
    (h : newVector canAllocate n = .error e) : e.isException = true := by
  rw [newVector] at h
  by_cases hn : n > 2 ^ 63 - 1
  · rw [if_pos hn] at h
    rw [← Except.error.inj h]
    rfl
  · rw [if_neg hn] at h
    by_cases halloc : canAllocate n = true
    · rw [if_pos halloc] at h
      cases h
    · rw [if_neg halloc] at h
      rw [← Except.error.inj h]
      rfl

/-! ### What a file defines -/

/-- The number of bytes of the section header table. -/
def Ehdr.tableSize (ehdr : Ehdr) : Nat := ehdr.eShnum.toNat * ehdr.eShentsize.toNat

/-- The place of the string table's header in the section header table. -/
def Ehdr.shstrtabOffset (ehdr : Ehdr) : Nat := ehdr.eShstrndx.toNat * ehdr.eShentsize.toNat

/-- The string table's header. -/
def Ehdr.shstrtab (ehdr : Ehdr) (table : List Byte) : Shdr :=
  Shdr.ofBytes (table.drop ehdr.shstrtabOffset)

/-- The tables that can be read from a file, if it has them. -/
def File.tables (file : File) : Option Tables :=
  match file.header with
  | none => none
  | some ehdr =>
    match file.readAt ehdr.eShoff ehdr.tableSize with
    | none => none
    | some table =>
      if ehdr.eShstrndx ≥ ehdr.eShnum then none
      else
        match file.readAt (ehdr.shstrtab table).shOffset (ehdr.shstrtab table).shSize.toNat with
        | none => none
        | some strings => some ⟨ehdr, table, strings⟩

/-- The section header with an index. -/
def Tables.header (t : Tables) (i : Nat) : Shdr :=
  Shdr.ofBytes (t.table.drop (i * t.ehdr.eShentsize.toNat))

/-- The section headers, in the order of the table. -/
def Tables.headers (t : Tables) : List Shdr := (List.range t.ehdr.eShnum.toNat).map t.header

/-- The name of a section: a string of the string table, up to a null character or to the
end of the table. -/
def Shdr.name (strings : List Byte) (header : Shdr) : SectionName :=
  ⟨(strings.drop header.shName.toNat).takeWhile (· ≠ 0)⟩

/-- The header is that of a section in memory, with a name. -/
def Shdr.Defines (strings : List Byte) (header : Shdr) : Prop :=
  header.shType ≠ shtNull ∧ header.shAddr ≠ 0 ∧ header.shFlags &&& shfAlloc ≠ 0 ∧
    header.shName.toNat ≤ strings.length

instance (strings : List Byte) (header : Shdr) : Decidable (header.Defines strings) :=
  inferInstanceAs (Decidable (_ ∧ _))

/-- The sections that some headers define, with their names. -/
def definedBy (baseAddress : BitVec 64) (strings : List Byte) (headers : List Shdr) :
    List (SectionName × SectionData) :=
  (headers.filter fun header => header.Defines strings).map fun header =>
    (header.name strings, header.sectionData baseAddress)

/-- The sections that the file defines, in the order of the table. -/
def Tables.sections (baseAddress : BitVec 64) (t : Tables) : List (SectionName × SectionData) :=
  definedBy baseAddress t.strings t.headers

section

variable {file : File} {pos n : Nat} {offset : BitVec 64} {bytes : List Byte} {ehdr : Ehdr}
  {table strings : List Byte} {t : Tables} {baseAddress : BitVec 64}

theorem File.read_length (h : file.read pos n = some bytes) : bytes.length = n := by
  unfold File.read at h
  simp only at h
  split at h
  · rename_i hlen
    rw [← Option.some.inj h, hlen]
  · cases h

theorem File.readAt_length (h : file.readAt offset n = some bytes) : bytes.length = n := by
  unfold File.readAt at h
  split at h
  · cases h
  · exact File.read_length h

theorem File.header_shentsize (h : file.header = some ehdr) :
    sizeofShdr ≤ ehdr.eShentsize.toNat := by
  unfold File.header at h
  split at h
  · cases h
  · simp only at h
    split at h
    · cases h
    · split at h
      · cases h
      · rename_i hsize
        rw [← Option.some.inj h]
        omega

/-- An entry of the table lies in it. -/
theorem Ehdr.entry_le (hsize : sizeofShdr ≤ ehdr.eShentsize.toNat) {i : Nat}
    (hi : i < ehdr.eShnum.toNat) :
    i * ehdr.eShentsize.toNat + sizeofShdr ≤ ehdr.tableSize := by
  calc i * ehdr.eShentsize.toNat + sizeofShdr
      ≤ i * ehdr.eShentsize.toNat + ehdr.eShentsize.toNat := Nat.add_le_add_left hsize _
    _ = (i + 1) * ehdr.eShentsize.toNat := (Nat.succ_mul i _).symm
    _ ≤ ehdr.tableSize := Nat.mul_le_mul_right _ hi

theorem readShdr_ok {offset : Nat} (h : offset + sizeofShdr ≤ table.length) :
    readShdr table offset = .ok (Shdr.ofBytes (table.drop offset)) := if_pos h

/-- `strnlen` inside of its buffer. -/
theorem strnlen_ok : ∀ {n pos : Nat}, pos + n ≤ strings.length →
    strnlen strings pos n =
      .ok (((strings.drop pos).take n).takeWhile (· ≠ 0)).length := by
  intro n
  induction n with
  | zero => intro pos _; rfl
  | succ n ih =>
    intro pos h
    have hpos : pos < strings.length := by omega
    rw [strnlen, List.getElem?_eq_getElem hpos, List.drop_eq_getElem_cons hpos, List.take_succ_cons]
    simp only
    by_cases hzero : strings[pos] = 0
    · rw [if_pos hzero, List.takeWhile_cons_of_neg (by simp [hzero])]
      rfl
    · rw [if_neg hzero, List.takeWhile_cons_of_pos (by simpa using hzero), ih (by omega)]
      rfl

/-- The name is read inside of the string table. -/
theorem name_ok (h : pos ≤ strings.length) :
    ∃ size, strnlen strings pos (strings.length - pos) = .ok size ∧
      (strings.drop pos).take size = (strings.drop pos).takeWhile (· ≠ 0) := by
  have hall : (strings.drop pos).take (strings.length - pos) = strings.drop pos := by
    rw [← List.length_drop, List.take_length]
  have hbound : pos + (strings.length - pos) ≤ strings.length := by omega
  have hsize := strnlen_ok hbound
  rw [hall] at hsize
  exact ⟨_, hsize, (List.prefix_iff_eq_take.mp (List.takeWhile_prefix _)).symm⟩

theorem definedBy_append (headers rest : List Shdr) :
    definedBy baseAddress strings (headers ++ rest) =
      definedBy baseAddress strings headers ++ definedBy baseAddress strings rest := by
  rw [definedBy, List.filter_append, List.map_append]
  rfl

theorem definedBy_singleton (header : Shdr) :
    definedBy baseAddress strings [header] =
      if header.Defines strings then [(header.name strings, header.sectionData baseAddress)]
      else [] := by
  unfold definedBy
  by_cases h : header.Defines strings
  · rw [List.filter_cons_of_pos (by simpa using h), if_pos h]
    rfl
  · rw [List.filter_cons_of_neg (by simpa using h), if_neg h]
    rfl

/-- **One header.** -/
theorem headerEntry_ok (baseAddress : BitVec 64) (strings : List Byte) {it : Nat}
    (h : it + sizeofShdr ≤ table.length) :
    ∃ entry, headerEntry baseAddress table strings it = .ok entry ∧
      definedBy baseAddress strings [Shdr.ofBytes (table.drop it)] = entry.toList := by
  rw [headerEntry, readShdr_ok h, run_bind, definedBy_singleton]
  generalize Shdr.ofBytes (table.drop it) = header
  by_cases hnull : header.shType = shtNull
  · rw [if_pos hnull, if_neg fun hdef => hdef.1 hnull]
    exact ⟨none, rfl, rfl⟩
  by_cases hskip : header.shAddr = 0 ∨ header.shName.toNat > strings.length
      ∨ header.shFlags &&& shfAlloc = 0
  · have hdef : ¬ header.Defines strings := by
      rintro ⟨_, haddr, halloc, hname⟩
      rcases hskip with h0 | h0 | h0
      · exact haddr h0
      · omega
      · exact halloc h0
    rw [if_neg hnull, if_neg hdef]
    simp only [if_pos hskip]
    exact ⟨none, rfl, rfl⟩
  · have hdef : header.Defines strings := by
      refine ⟨hnull, fun h0 => hskip (Or.inl h0), fun h0 => hskip (Or.inr (Or.inr h0)), ?_⟩
      by_contra hgt
      exact hskip (Or.inr (Or.inl (by omega)))
    obtain ⟨size, hsize, hname⟩ := name_ok hdef.2.2.2
    rw [if_neg hnull, if_pos hdef]
    simp only [if_neg hskip, hsize, run_bind, hname]
    exact ⟨_, rfl, rfl⟩

/-- A header that has no entry defines no section, and one that has an entry does. -/
theorem defines_iff_of_entry {header : Shdr} {entry : Option (SectionName × SectionData)}
    (h : definedBy baseAddress strings [header] = entry.toList) :
    header.Defines strings ↔ entry.isSome := by
  rw [definedBy_singleton] at h
  by_cases hdef : header.Defines strings
  · rw [if_pos hdef] at h
    cases entry with
    | none => cases h
    | some entry => exact iff_of_true hdef rfl
  · rw [if_neg hdef] at h
    cases entry with
    | none => exact iff_of_false hdef Bool.false_ne_true
    | some entry => cases h

theorem Tables.headers_drop {i : Nat} (hi : i < t.ehdr.eShnum.toNat) :
    t.headers.drop i = [t.header i] ++ t.headers.drop (i + 1) := by
  have hlen : i < t.headers.length := by simpa [headers] using hi
  rw [List.drop_eq_getElem_cons hlen]
  simp [headers]

/-- The entries of the map can be had for the headers from `i` on. -/
def Tables.EmplaceableFrom (canEmplace : Nat → Bool) (t : Tables) (i : Nat) : Prop :=
  ∀ l, i ≤ l → l < t.ehdr.eShnum.toNat → (t.header l).Defines t.strings →
    canEmplace (l * t.ehdr.eShentsize.toNat) = true

theorem Tables.emplaceableFrom_iff {canEmplace : Nat → Bool} {i : Nat}
    (hi : i < t.ehdr.eShnum.toNat) :
    t.EmplaceableFrom canEmplace i ↔
      ((t.header i).Defines t.strings → canEmplace (i * t.ehdr.eShentsize.toNat) = true) ∧
        t.EmplaceableFrom canEmplace (i + 1) := by
  constructor
  · intro h
    exact ⟨h i le_rfl hi, fun l hl => h l (by omega)⟩
  · rintro ⟨hfirst, hrest⟩ l hl hlast hdef
    rcases Nat.eq_or_lt_of_le hl with rfl | hlt
    · exact hfirst hdef
    · exact hrest l hlt hlast hdef

/-- The header table has the size that the file's header says, and its entries are large enough. -/
structure Tables.Sized (t : Tables) : Prop where
  entries : sizeofShdr ≤ t.ehdr.eShentsize.toNat
  table : t.table.length = t.ehdr.tableSize

/-- **The loop over the headers** adds the sections of the headers up to the one where it is
stopped: the first one whose entry cannot be had. -/
theorem loadHeaders_ok (canEmplace : Nat → Bool) (baseAddress : BitVec 64) (hsized : t.Sized) :
    ∀ (k i : Nat) (names : Sections), i + k = t.ehdr.eShnum.toNat → ∃ j,
      (loadHeaders canEmplace baseAddress t (k + 1) (i * t.ehdr.eShentsize.toNat) names).1
        = names.emplaceAll (definedBy baseAddress t.strings ((t.headers.drop i).take j)) ∧
      ((loadHeaders canEmplace baseAddress t (k + 1) (i * t.ehdr.eShentsize.toNat) names).2
          = .ok () ∧ k ≤ j ∧ t.EmplaceableFrom canEmplace i ∨
        (loadHeaders canEmplace baseAddress t (k + 1) (i * t.ehdr.eShentsize.toNat) names).2
          = .error .badAlloc ∧ ¬ t.EmplaceableFrom canEmplace i) := by
  intro k
  induction k with
  | zero =>
    intro i names hi
    have hlast : i * t.ehdr.eShentsize.toNat = t.table.length := by
      rw [hsized.table, Ehdr.tableSize, ← hi]
      rfl
    rw [loadHeaders, if_pos hlast]
    exact ⟨0, rfl, Or.inl ⟨rfl, le_rfl, fun l hl hlt => by omega⟩⟩
  | succ k ih =>
    intro i names hi
    have hlt : i < t.ehdr.eShnum.toNat := by omega
    have hle : i * t.ehdr.eShentsize.toNat + sizeofShdr ≤ t.table.length := by
      rw [hsized.table]
      exact Ehdr.entry_le hsized.entries hlt
    have hne : i * t.ehdr.eShentsize.toNat ≠ t.table.length := by
      rw [sizeofShdr] at hle
      omega
    obtain ⟨entry, hentry, hdefined⟩ := headerEntry_ok baseAddress t.strings hle
    have hdefines := defines_iff_of_entry hdefined
    rw [← Tables.header] at hdefined hdefines
    rw [loadHeaders, if_neg hne, hentry, Tables.headers_drop hlt, ← Nat.succ_mul,
      Tables.emplaceableFrom_iff hlt, hdefines]
    cases entry with
    | none =>
      obtain ⟨j, hnames, hend⟩ := ih (i + 1) names (by omega)
      refine ⟨j + 1, ?_, ?_⟩
      · rw [List.singleton_append, List.take_succ_cons, ← List.singleton_append, definedBy_append,
          hdefined]
        exact hnames
      · simpa using hend
    | some entry =>
      dsimp only
      by_cases hnode : canEmplace (i * t.ehdr.eShentsize.toNat) = true
      · obtain ⟨j, hnames, hend⟩ := ih (i + 1) (names.emplace entry.1 entry.2) (by omega)
        rw [if_pos hnode]
        refine ⟨j + 1, ?_, ?_⟩
        · rw [List.singleton_append, List.take_succ_cons, ← List.singleton_append,
            definedBy_append, hdefined]
          exact hnames
        · simpa [hnode] using hend
      · rw [if_neg hnode]
        exact ⟨0, rfl, Or.inr ⟨rfl, fun h => hnode (h.1 rfl)⟩⟩

end

/-- What `init_sections` relies on before the loop: for a file that it goes on with, the size of
the section header table fits in an `int`, and the buffers for the two tables can be allocated. -/
structure File.Loadable (canAllocate : Nat → Bool) (file : File) : Prop where
  fits : ∀ ehdr, file.header = some ehdr → ehdr.tableSize < 2 ^ 31
  table : ∀ ehdr, file.header = some ehdr → canAllocate ehdr.tableSize = true
  strings : ∀ ehdr table, file.header = some ehdr →
    file.readAt ehdr.eShoff ehdr.tableSize = some table → ehdr.eShstrndx < ehdr.eShnum →
    Allocatable canAllocate (ehdr.shstrtab table).shSize.toNat

/-- What it relies on in the loop: the entries of the map can be had for all sections that the
file defines. -/
def File.Emplaceable (canEmplace : Nat → Bool) (file : File) : Prop :=
  ∀ t, file.tables = some t → ∀ i < t.ehdr.eShnum.toNat, (t.header i).Defines t.strings →
    canEmplace (i * t.ehdr.eShentsize.toNat) = true

theorem File.Loadable.of_header {canAllocate : Nat → Bool} {file : File} {ehdr : Ehdr}
    {table : List Byte} (hheader : file.header = some ehdr)
    (htable : file.readAt ehdr.eShoff ehdr.tableSize = some table)
    (hfits : ehdr.tableSize < 2 ^ 31) (halloc : canAllocate ehdr.tableSize = true)
    (hstrings : Allocatable canAllocate (ehdr.shstrtab table).shSize.toNat) :
    file.Loadable canAllocate := by
  refine ⟨fun ehdr' h => ?_, fun ehdr' h => ?_, fun ehdr' table' h htable' _ => ?_⟩
  all_goals
    rw [hheader] at h
    obtain rfl := Option.some.inj h
  · exact hfits
  · exact halloc
  · rw [htable] at htable'
    obtain rfl := Option.some.inj htable'
    exact hstrings

/-- The string table's header is one of the table's entries. -/
theorem Ehdr.shstrtabOffset_le {ehdr : Ehdr} (hsize : sizeofShdr ≤ ehdr.eShentsize.toNat)
    (hndx : ehdr.eShstrndx < ehdr.eShnum) :
    ehdr.shstrtabOffset + sizeofShdr ≤ ehdr.tableSize := ehdr.entry_le hsize hndx

theorem File.tables_sized {file : File} {t : Tables} (h : file.tables = some t) : t.Sized := by
  rw [File.tables] at h
  cases hheader : file.header with
  | none =>
    rw [hheader] at h
    cases h
  | some ehdr =>
    cases htable : file.readAt ehdr.eShoff ehdr.tableSize with
    | none =>
      simp only [hheader, htable] at h
      cases h
    | some table =>
      simp only [hheader, htable] at h
      by_cases hndx : ehdr.eShstrndx ≥ ehdr.eShnum
      · rw [if_pos hndx] at h
        cases h
      · rw [if_neg hndx] at h
        cases hstrings : file.readAt (ehdr.shstrtab table).shOffset
            (ehdr.shstrtab table).shSize.toNat with
        | none =>
          rw [hstrings] at h
          cases h
        | some strings =>
          rw [hstrings] at h
          cases h
          exact ⟨File.header_shentsize hheader, File.readAt_length htable⟩

/-- **Where the products fit**, only the two buffers are left that can stop a call before the
loop. -/
theorem prepareSections_of_fits (canAllocate : Nat → Bool) {file : File} {ehdr : Ehdr}
    (hheader : file.header = some ehdr) (hfits : ehdr.tableSize < 2 ^ 31) :
    prepareSections canAllocate (some file) = (do
      newVector canAllocate ehdr.tableSize
      match file.readAt ehdr.eShoff ehdr.tableSize with
      | none => return none
      | some table =>
        if ehdr.eShstrndx ≥ ehdr.eShnum then return none
        newVector canAllocate (ehdr.shstrtab table).shSize.toNat
        match file.readAt (ehdr.shstrtab table).shOffset (ehdr.shstrtab table).shSize.toNat with
        | none => return none
        | some strings => return some ⟨ehdr, table, strings⟩) := by
  have hmul : mulHalf ehdr.eShnum ehdr.eShentsize = .ok ehdr.tableSize :=
    mulHalf_eq_ok_iff.mpr ⟨hfits, rfl⟩
  simp only [prepareSections, hheader, hmul, run_bind]
  congr 1
  funext _
  cases htable : file.readAt ehdr.eShoff ehdr.tableSize with
  | none => rfl
  | some table =>
    by_cases hndx : ehdr.eShstrndx ≥ ehdr.eShnum
    · simp only [if_pos hndx]
    · have hle := Ehdr.shstrtabOffset_le (File.header_shentsize hheader) (BitVec.not_le.mp hndx)
      have hmul' : mulHalf ehdr.eShstrndx ehdr.eShentsize = .ok ehdr.shstrtabOffset := by
        refine mulHalf_eq_ok_iff.mpr ⟨?_, rfl⟩
        show ehdr.shstrtabOffset < 2 ^ 31
        omega
      have hshdr : readShdr table ehdr.shstrtabOffset = .ok (ehdr.shstrtab table) := by
        apply readShdr_ok
        rw [File.readAt_length htable]
        exact hle
      simp only [if_neg hndx, hmul', hshdr, run_bind]

/-- **What is read before the loop**: the tables of the file. -/
theorem prepareSections_eq {canAllocate : Nat → Bool} {file : File}
    (h : file.Loadable canAllocate) :
    prepareSections canAllocate (some file) = .ok file.tables := by
  cases hheader : file.header with
  | none => simp only [prepareSections, File.tables, hheader]
  | some ehdr =>
    have hfits := h.fits ehdr hheader
    have halloc : newVector canAllocate ehdr.tableSize = .ok () :=
      newVector_eq_ok_iff.mpr ⟨by omega, h.table ehdr hheader⟩
    rw [prepareSections_of_fits canAllocate hheader hfits, halloc, run_bind, File.tables, hheader]
    dsimp only
    cases htable : file.readAt ehdr.eShoff ehdr.tableSize with
    | none => rfl
    | some table =>
      by_cases hndx : ehdr.eShstrndx ≥ ehdr.eShnum
      · simp only [if_pos hndx, run_pure]
      · have halloc' := newVector_eq_ok_iff.mpr
          (h.strings ehdr table hheader htable (BitVec.not_le.mp hndx))
        simp only [if_neg hndx, halloc', run_bind]
        cases file.readAt (ehdr.shstrtab table).shOffset (ehdr.shstrtab table).shSize.toNat <;> rfl

/-- **When the loop is reached.** -/
theorem prepareSections_returns_iff {canAllocate : Nat → Bool} {file : File} :
    (∃ r, prepareSections canAllocate (some file) = .ok r) ↔ file.Loadable canAllocate := by
  refine ⟨fun hret => ?_, fun h => ⟨_, prepareSections_eq h⟩⟩
  obtain ⟨r, hr⟩ := hret
  cases hheader : file.header with
  | none =>
    refine ⟨fun ehdr h => ?_, fun ehdr h => ?_, fun ehdr table h => ?_⟩
    all_goals
      rw [hheader] at h
      cases h
  | some ehdr =>
    have hfits : ehdr.tableSize < 2 ^ 31 := by
      simp only [prepareSections, hheader] at hr
      obtain ⟨size, hmul, _⟩ := bind_eq_ok hr
      exact (mulHalf_eq_ok_iff.mp hmul).1
    rw [prepareSections_of_fits canAllocate hheader hfits] at hr
    obtain ⟨_, halloc, hr⟩ := bind_eq_ok hr
    refine ⟨fun ehdr' h => ?_, fun ehdr' h => ?_, fun ehdr' table h htable hlt => ?_⟩
    all_goals
      rw [hheader] at h
      obtain rfl := Option.some.inj h
    · exact hfits
    · exact (newVector_eq_ok_iff.mp halloc).2
    · simp only [htable, if_neg (BitVec.not_le.mpr hlt)] at hr
      obtain ⟨_, halloc', _⟩ := bind_eq_ok hr
      exact newVector_eq_ok_iff.mp halloc'

/-- The size of the section header table fits in an `int`. -/
def TableFits (file : Option File) : Prop :=
  ∀ f ehdr, file = some f → f.header = some ehdr → ehdr.tableSize < 2 ^ 31

/-- **What can go wrong before the loop**: a buffer cannot be allocated. -/
theorem prepareSections_error {canAllocate : Nat → Bool} {file : Option File}
    (hfits : TableFits file) {e : Abort} (h : prepareSections canAllocate file = .error e) :
    e.isException = true := by
  cases file with
  | none => cases h
  | some file =>
    cases hheader : file.header with
    | none =>
      simp only [prepareSections, hheader] at h
      cases h
    | some ehdr =>
      rw [prepareSections_of_fits canAllocate hheader (hfits file ehdr rfl hheader)] at h
      rcases bind_eq_error h with halloc | ⟨_, _, h⟩
      · exact newVector_error halloc
      cases htable : file.readAt ehdr.eShoff ehdr.tableSize with
      | none =>
        rw [htable] at h
        cases h
      | some table =>
        rw [htable] at h
        dsimp only at h
        by_cases hndx : ehdr.eShstrndx ≥ ehdr.eShnum
        · rw [if_pos hndx] at h
          cases h
        · rw [if_neg hndx] at h
          rcases bind_eq_error h with halloc | ⟨_, _, h⟩
          · exact newVector_error halloc
          · cases hstrings : file.readAt (ehdr.shstrtab table).shOffset
                (ehdr.shstrtab table).shSize.toNat with
            | none =>
              rw [hstrings] at h
              cases h
            | some strings =>
              rw [hstrings] at h
              cases h

/-! ### A whole call -/

/-- A call that gets past this has read the tables of the file, if it can be opened. -/
theorem prepareSections_ok {canAllocate : Nat → Bool} {file : Option File} {r : Option Tables}
    (h : prepareSections canAllocate file = .ok r) : r = file.bind File.tables := by
  cases file with
  | none => exact (Except.ok.inj h).symm
  | some file =>
    rw [prepareSections_eq (prepareSections_returns_iff.mp ⟨r, h⟩)] at h
    exact (Except.ok.inj h).symm

/-- The sections that a file defines, in its order. -/
def fileSections (baseAddress : BitVec 64) (file : Option File) :
    List (SectionName × SectionData) :=
  match file.bind File.tables with
  | none => []
  | some t => t.sections baseAddress

/-- **What a call of `init_sections` does**: it adds the first sections of the file, and all of
them if it returns. -/
theorem initSections_ok (heap : Heap) (baseAddress : BitVec 64) (file : Option File)
    (names : Sections) :
    ∃ l, l <+: fileSections baseAddress file ∧
      (initSections heap baseAddress file names).1 = names.emplaceAll l ∧
      ((initSections heap baseAddress file names).2 = .ok () →
        l = fileSections baseAddress file) ∧
      (TableFits file → ∀ e, (initSections heap baseAddress file names).2 = .error e →
        e.isException = true) := by
  rw [initSections]
  cases hprepare : prepareSections heap.canAllocate file with
  | error e =>
    refine ⟨[], List.nil_prefix, rfl, fun hok => (by cases hok), fun hfits e' he => ?_⟩
    rw [← Except.error.inj he]
    exact prepareSections_error hfits hprepare
  | ok r =>
    have hr := prepareSections_ok hprepare
    rw [fileSections, ← hr]
    cases r with
    | none => exact ⟨[], List.nil_prefix, rfl, fun _ => rfl, fun _ e he => by cases he⟩
    | some t =>
      obtain ⟨f, rfl, ht⟩ := Option.bind_eq_some_iff.mp hr.symm
      obtain ⟨j, hnames, hend⟩ := loadHeaders_ok heap.canEmplace baseAddress (File.tables_sized ht)
        t.ehdr.eShnum.toNat 0 names (Nat.zero_add _)
      rw [Nat.zero_mul, List.drop_zero] at hnames
      rw [Nat.zero_mul] at hend
      refine ⟨_, ⟨definedBy baseAddress t.strings (t.headers.drop j), ?_⟩, hnames, fun hok => ?_,
        fun _ e he => ?_⟩
      · rw [← definedBy_append, List.take_append_drop]
        rfl
      · rcases hend with ⟨_, hj, _⟩ | ⟨herror, _⟩
        · have hlength : t.headers.length ≤ j := by
            rw [Tables.headers, List.length_map, List.length_range]
            exact hj
          rw [List.take_of_length_le hlength]
          rfl
        · rw [herror] at hok
          cases hok
      · rcases hend with ⟨hok, _⟩ | ⟨herror, _⟩
        · rw [hok] at he
          cases he
        · rw [herror] at he
          rw [← Except.error.inj he]
          rfl

/-- **When the loop is passed.**  Where the buffers can be had, nothing but an entry of the map
can stop the call. -/
theorem initSections_of_loadable {heap : Heap} {file : File} (h : file.Loadable heap.canAllocate)
    (baseAddress : BitVec 64) (names : Sections) :
    (initSections heap baseAddress (some file) names).2 = .ok () ∧
        file.Emplaceable heap.canEmplace ∨
      (initSections heap baseAddress (some file) names).2 = .error .badAlloc ∧
        ¬ file.Emplaceable heap.canEmplace := by
  rw [initSections, prepareSections_eq h]
  cases htables : file.tables with
  | none =>
    refine Or.inl ⟨rfl, fun t ht => ?_⟩
    rw [htables] at ht
    cases ht
  | some t =>
    have hentries : file.Emplaceable heap.canEmplace ↔ t.EmplaceableFrom heap.canEmplace 0 := by
      constructor
      · intro hall l _ hl
        exact hall t htables l hl
      · intro hall t' ht' l hl
        rw [htables] at ht'
        obtain rfl := Option.some.inj ht'
        exact hall l (Nat.zero_le l) hl
    obtain ⟨j, _, hend⟩ := loadHeaders_ok heap.canEmplace baseAddress (File.tables_sized htables)
      t.ehdr.eShnum.toNat 0 names (Nat.zero_add _)
    rw [Nat.zero_mul] at hend
    rw [hentries]
    exact hend.imp_left fun hok => ⟨hok.1, hok.2.2⟩

/-- **When `init_sections` returns**: the buffers can be had, and then the entries of the map. -/
theorem initSections_returns_iff (heap : Heap) (baseAddress : BitVec 64) (file : File)
    (names : Sections) :
    (initSections heap baseAddress (some file) names).2 = .ok () ↔
      file.Loadable heap.canAllocate ∧ file.Emplaceable heap.canEmplace := by
  constructor
  · intro hok
    have hload : file.Loadable heap.canAllocate := by
      refine prepareSections_returns_iff.mp ?_
      rw [initSections] at hok
      cases hprepare : prepareSections heap.canAllocate (some file) with
      | error e =>
        rw [hprepare] at hok
        cases hok
      | ok r => exact ⟨r, rfl⟩
    rcases initSections_of_loadable hload baseAddress names with ⟨_, hentries⟩ | ⟨herror, _⟩
    · exact ⟨hload, hentries⟩
    · rw [herror] at hok
      cases hok
  · rintro ⟨hload, hentries⟩
    rcases initSections_of_loadable hload baseAddress names with ⟨hok, _⟩ | ⟨_, hnot⟩
    · exact hok
    · exact absurd hentries hnot

/-! ### Files to look at -/

/-- A number in `n` bytes. -/
def leBytes (n value : Nat) : List Byte :=
  (List.range n).map fun i => BitVec.ofNat 8 (value / 256 ^ i)

/-- The ELF header of a file whose section header table follows it. -/
def sampleEhdr (shentsize shnum shstrndx : Nat) : List Byte :=
  elfIdent ++ List.replicate 35 0 ++ leBytes 8 sizeofEhdr ++ List.replicate 10 0 ++
    leBytes 2 shentsize ++ leBytes 2 shnum ++ leBytes 2 shstrndx

def sampleShdr (shName shType shFlags shAddr shOffset shSize : Nat) : List Byte :=
  leBytes 4 shName ++ leBytes 4 shType ++ leBytes 8 shFlags ++ leBytes 8 shAddr ++
    leBytes 8 shOffset ++ leBytes 8 shSize ++ List.replicate 24 0

/-- A file that can be positioned everywhere. -/
def sampleFile (content : List Byte) : File := ⟨content, fun _ => true⟩

/-- A heap with buffers of up to a kilobyte, and with entries. -/
def kilobyte : Heap := ⟨fun n => decide (n ≤ 1024), fun _ => true⟩

/-- A file with the executable sections `b` and `a`, in this order. -/
def codeFile : File :=
  sampleFile (sampleEhdr 64 3 0 ++ sampleShdr 0 3 0 0 256 5 ++ sampleShdr 1 1 6 0x1000 0 16 ++
    sampleShdr 3 1 6 0x2000 0 32 ++ [0x00, 0x62, 0x00, 0x61, 0x00])

theorem codeFile_loadable : codeFile.Loadable kilobyte.canAllocate := by
  have hheader : codeFile.header = some (Ehdr.ofBytes codeFile.content) := by decide
  have htable : codeFile.readAt (Ehdr.ofBytes codeFile.content).eShoff
      (Ehdr.ofBytes codeFile.content).tableSize = some ((codeFile.content.drop 64).take 192) := by
    decide +kernel
  exact .of_header hheader htable (by decide) (by decide) ⟨by decide, by decide⟩

theorem codeFile_tableFits : TableFits (some codeFile) := by
  rintro f ehdr ⟨rfl⟩ hheader
  exact codeFile_loadable.fits ehdr hheader

/-- **When the products are those of the fields**: the size of the table and the place of the
string table's header in it are computed exactly if the whole table is smaller than the largest
`int`. -/
theorem products_exact_iff {file : File} {ehdr : Ehdr} (hheader : file.header = some ehdr)
    (hndx : ehdr.eShstrndx < ehdr.eShnum) :
    (mulHalf ehdr.eShnum ehdr.eShentsize = .ok ehdr.tableSize ∧
      mulHalf ehdr.eShstrndx ehdr.eShentsize = .ok ehdr.shstrtabOffset) ↔
        ehdr.tableSize < 2 ^ 31 := by
  constructor
  · intro h
    exact (mulHalf_eq_ok_iff.mp h.1).1
  · intro hfits
    have hle := Ehdr.shstrtabOffset_le (File.header_shentsize hheader) hndx
    refine ⟨mulHalf_eq_ok_iff.mpr ⟨hfits, rfl⟩, mulHalf_eq_ok_iff.mpr ⟨?_, rfl⟩⟩
    show ehdr.shstrtabOffset < 2 ^ 31
    omega

/-- A header whose table would have 65535 entries of 65535 bytes. -/
def hugeFile : File := sampleFile (sampleEhdr 65535 65535 0)

/-- A file with one entry, the string table of a null character. -/
def smallFile : File := sampleFile (sampleEhdr 64 1 0 ++ sampleShdr 0 3 0 0 128 1 ++ [0])

theorem products_exact_iff_sample :
    (mulHalf (Ehdr.ofBytes smallFile.content).eShnum (Ehdr.ofBytes smallFile.content).eShentsize =
        .ok (Ehdr.ofBytes smallFile.content).tableSize ∧
      mulHalf (Ehdr.ofBytes smallFile.content).eShstrndx
        (Ehdr.ofBytes smallFile.content).eShentsize =
        .ok (Ehdr.ofBytes smallFile.content).shstrtabOffset) ↔
      (Ehdr.ofBytes smallFile.content).tableSize < 2 ^ 31 :=
  products_exact_iff (show smallFile.header = some (Ehdr.ofBytes smallFile.content) by decide)
    (by decide)

/-- The header passes all checks, and the product does not fit. -/
theorem product_overflows :
    hugeFile.header = some (Ehdr.ofBytes hugeFile.content) ∧
      (Ehdr.ofBytes hugeFile.content).eShstrndx < (Ehdr.ofBytes hugeFile.content).eShnum ∧
      mulHalf (Ehdr.ofBytes hugeFile.content).eShnum (Ehdr.ofBytes hugeFile.content).eShentsize =
        .error (.fault .overflow) :=
  ⟨by decide, by decide, rfl⟩

end Libhat.Linux

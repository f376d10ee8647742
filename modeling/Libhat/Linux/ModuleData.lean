import Libhat.Linux.Sections
import Mathlib.Order.Bounds.Basic

/-!
# The memory of a Linux module

`get_module_data` is the range from the address of a module to the greatest end of its
program headers.  Not every header describes memory of the module: that of the stack
(`PT_GNU_STACK`) may have any size, and no address.

`getModuleData_iff` says that the range is that of the loaded segments exactly if no other
header ends past them all.
-/

namespace Libhat.Linux

/-- `PT_LOAD`. -/
def ptLoad : BitVec 32 := 1#32

/-- `PT_GNU_STACK`. -/
def ptGnuStack : BitVec 32 := 0x6474E551#32

/-- `std::max`. -/
def stdMax (a b : BitVec 64) : BitVec 64 := if a < b then b else a

namespace ModuleImplementation

/-- `get_module_data`. -/
def getModuleData (mimpl : ModuleImplementation) : ByteSpan :=
  ⟨mimpl.baseAddress,
    mimpl.programHeaders.foldl (fun max header => stdMax max (header.pVaddr + header.pMemsz)) 0⟩

end ModuleImplementation

/-- Where the memory that a header describes ends, from the address of the module. -/
def Phdr.memEnd (header : Phdr) : Nat := header.pVaddr.toNat + header.pMemsz.toNat

/-- No header describes memory past the end of the address space. -/
def Unwrapped (headers : List Phdr) : Prop := ∀ header ∈ headers, header.memEnd < 2 ^ 64

instance : DecidablePred Unwrapped := fun headers =>
  inferInstanceAs (Decidable (∀ header ∈ headers, header.memEnd < 2 ^ 64))

/-- The memory of a module: it starts at its address, contains all loaded segments, and
ends where one of them does. -/
structure IsImage (mimpl : ModuleImplementation) (data : ByteSpan) : Prop where
  starts : data.data = mimpl.baseAddress
  contains : ∀ header ∈ mimpl.programHeaders, header.pType = ptLoad →
    header.memEnd ≤ data.size.toNat
  ends : data.size.toNat ≠ 0 →
    ∃ header ∈ mimpl.programHeaders, header.pType = ptLoad ∧ header.memEnd = data.size.toNat

/-- **A fold with `max`** gives the greatest of the values and the one it starts from. -/
theorem isGreatest_foldl_max {α : Type} (f : α → Nat) : ∀ (l : List α) (b : Nat),
    IsGreatest {x | x = b ∨ ∃ a ∈ l, f a = x} (l.foldl (fun m a => max m (f a)) b) := by
  intro l
  induction l with
  | nil =>
    intro b
    refine ⟨Or.inl rfl, fun x hx => ?_⟩
    rcases hx with rfl | ⟨a, ha, _⟩
    · exact le_rfl
    · cases ha
  | cons a rest ih =>
    intro b
    obtain ⟨hmem, hupper⟩ := ih (max b (f a))
    have hstart : max b (f a) ≤ rest.foldl (fun m a => max m (f a)) (max b (f a)) :=
      hupper (Or.inl rfl)
    rw [List.foldl_cons]
    constructor
    · rcases hmem with hmem | ⟨c, hc, hmem⟩
      · rcases max_choice b (f a) with h | h
        · exact Or.inl (hmem.trans h)
        · exact Or.inr ⟨a, List.mem_cons_self, (hmem.trans h).symm⟩
      · exact Or.inr ⟨c, List.mem_cons_of_mem a hc, hmem⟩
    · intro x hx
      rcases hx with rfl | ⟨c, hc, rfl⟩
      · exact Nat.le_trans (Nat.le_max_left _ _) hstart
      · rcases List.mem_cons.mp hc with rfl | hc
        · exact Nat.le_trans (Nat.le_max_right _ _) hstart
        · exact hupper (Or.inr ⟨c, hc, rfl⟩)

theorem toNat_stdMax (a b : BitVec 64) : (stdMax a b).toNat = max a.toNat b.toNat := by
  rw [stdMax]
  by_cases h : a < b
  · rw [if_pos h, Nat.max_eq_right (Nat.le_of_lt h)]
  · rw [if_neg h, Nat.max_eq_left (Nat.le_of_not_lt h)]

theorem toNat_foldl_stdMax : ∀ (headers : List Phdr), Unwrapped headers → ∀ (b : BitVec 64),
    (headers.foldl (fun max header => stdMax max (header.pVaddr + header.pMemsz)) b).toNat
      = headers.foldl (fun m header => max m header.memEnd) b.toNat := by
  intro headers
  induction headers with
  | nil =>
    intro _ b
    rfl
  | cons header rest ih =>
    intro h b
    have hend : (header.pVaddr + header.pMemsz).toNat = header.memEnd := by
      rw [BitVec.toNat_add]
      exact Nat.mod_eq_of_lt (h header List.mem_cons_self)
    rw [List.foldl_cons, List.foldl_cons,
      ih (fun g hg => h g (List.mem_cons_of_mem header hg)), toNat_stdMax, hend]

variable {mimpl : ModuleImplementation}

/-- **The size of the module data** is the greatest end of all headers. -/
theorem getModuleData_isGreatest (h : Unwrapped mimpl.programHeaders) :
    IsGreatest {x | x = 0 ∨ ∃ header ∈ mimpl.programHeaders, header.memEnd = x}
      mimpl.getModuleData.size.toNat := by
  have hsize : mimpl.getModuleData.size.toNat
      = mimpl.programHeaders.foldl (fun m header => max m header.memEnd) 0 :=
    toNat_foldl_stdMax mimpl.programHeaders h 0
  rw [hsize]
  exact isGreatest_foldl_max Phdr.memEnd mimpl.programHeaders 0

/-- **The module data is the memory of the module** exactly if no header ends past all
loaded segments. -/
theorem getModuleData_iff (h : Unwrapped mimpl.programHeaders) :
    IsImage mimpl mimpl.getModuleData ↔
      ∀ header ∈ mimpl.programHeaders, header.memEnd ≠ 0 →
        ∃ load ∈ mimpl.programHeaders, load.pType = ptLoad ∧ header.memEnd ≤ load.memEnd := by
  obtain ⟨hmem, hupper⟩ := getModuleData_isGreatest h
  constructor
  · intro himage header hheader hpos
    have hle := hupper (Or.inr ⟨header, hheader, rfl⟩)
    obtain ⟨load, hload, htype, hend⟩ := himage.ends (by omega)
    exact ⟨load, hload, htype, by omega⟩
  · intro hall
    refine ⟨rfl, fun header hheader _ => hupper (Or.inr ⟨header, hheader, rfl⟩), fun hpos => ?_⟩
    rcases hmem with hzero | ⟨header, hheader, hend⟩
    · exact absurd hzero hpos
    · obtain ⟨load, hload, htype, hle⟩ := hall header hheader (by omega)
      have hload_le := hupper (Or.inr ⟨load, hload, rfl⟩)
      exact ⟨load, hload, htype, by omega⟩

/-- A program whose linker was told to give it a stack of 1 MiB. -/
def stackSized : ModuleImplementation where
  baseAddress := 0x555555554000#64
  file := none
  programHeaders := [⟨ptLoad, pfR ||| pfX, 0x0#64, 0x3000#64⟩,
    ⟨ptGnuStack, pfR ||| pfW, 0x0#64, 0x100000#64⟩]

theorem getModuleData_iff_sample :
    IsImage stackSized stackSized.getModuleData ↔
      ∀ header ∈ stackSized.programHeaders, header.memEnd ≠ 0 →
        ∃ load ∈ stackSized.programHeaders, load.pType = ptLoad ∧ header.memEnd ≤ load.memEnd :=
  getModuleData_iff (by decide)

/-- The range ends where the stack header does, far past the one loaded segment. -/
theorem getModuleData_past_image :
    stackSized.getModuleData = ⟨0x555555554000#64, 0x100000#64⟩ ∧
      ¬ IsImage stackSized stackSized.getModuleData := by
  refine ⟨by decide, fun h => ?_⟩
  obtain ⟨header, hheader, htype, hend⟩ := h.ends (by decide)
  rcases List.mem_cons.mp hheader with rfl | hheader
  · exact absurd hend (by decide)
  · rcases List.mem_cons.mp hheader with rfl | hheader
    · exact absurd htype (by decide)
    · cases hheader

end Libhat.Linux

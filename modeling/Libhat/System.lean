import Libhat.ScanContext
import Mathlib.Algebra.Group.Nat.Defs

/-!
# What the processor can do

The constructor of `system_info_x86` asks the processor with `cpuid` and the operating system
with `xgetbv` for the extensions that the scanners may use; `system_info_arm` asks the system.

* `systemInfoX86_ok`: on a lawful processor the constructor runs, and a flag is set exactly if
  the instructions of its extension can be executed.
* `Processor.systemInfo_ok`: so can the scanners' flags be relied on, on every architecture.
-/

namespace Libhat

/-- What stops a program that asks the processor. -/
inductive Trap where
  | fault (fault : Fault)
  /-- the processor does not know the instruction, or the system has not enabled it -/
  | undefinedInstruction
  deriving DecidableEq, Repr

@[simp] theorem Trap.ok_bind {α β : Type} (a : α) (f : α → Except Trap β) :
    ((Except.ok a : Except Trap α) >>= f) = f a := rfl

/-! ### `cpuid` -/

/-- `info_t`, the registers after `cpuid`. -/
structure Info where
  eax : BitVec 32
  ebx : BitVec 32
  ecx : BitVec 32
  edx : BitVec 32
  deriving DecidableEq, Inhabited, Repr

/-- An x86 processor: what `cpuid` returns for a leaf and a sub-leaf, whether the system has set
`CR4.OSXSAVE`, and the state components that it has enabled in `XCR0`.  The register of the
sub-leaf holds `ecx` where the code does not set it. -/
structure Cpu where
  cpuid : BitVec 32 → BitVec 32 → Info
  ecx : BitVec 32
  osxsave : Bool
  xcr0 : BitVec 64

namespace Cpu

/-- `cpuid_impl`. -/
def cpuidImpl (cpu : Cpu) (id : Int) : Info := cpu.cpuid (BitVec.ofInt 32 id) cpu.ecx

/-- `cpuidex_impl`. -/
def cpuidexImpl (cpu : Cpu) (id subId : Int) : Info :=
  cpu.cpuid (BitVec.ofInt 32 id) (BitVec.ofInt 32 subId)

/-- `xgetbv_impl(_XCR_XFEATURE_ENABLED_MASK)`. -/
def xgetbvImpl (cpu : Cpu) : Except Trap (BitVec 64) :=
  if cpu.osxsave then .ok cpu.xcr0 else .error .undefinedInstruction

/-- `data[i - base] = cpuidex_impl(i, 0)` for `i = base + k`. -/
def storeLeaf {n : Nat} (cpu : Cpu) (base : Int) (data : Vector Info n) (k : Nat) :
    Except Trap (Vector Info n) :=
  if h : k < n then .ok (data.set k (cpu.cpuidexImpl (base + k) 0) h)
  else .error (.fault (.index k))

/-- The loop over the leaves from `base` to `last`. -/
def gather {n : Nat} (cpu : Cpu) (base last : Int) (data : Vector Info n) :
    Except Trap (Vector Info n) :=
  (List.range (last - base + 1).toNat).foldlM (cpu.storeLeaf base) data

end Cpu

/-! ### `system_info_x86` -/

/-- `cpu_extensions`, on x86. -/
structure CpuExtensionsX86 where
  sse : Bool
  sse2 : Bool
  sse3 : Bool
  ssse3 : Bool
  sse41 : Bool
  sse42 : Bool
  avx : Bool
  avx2 : Bool
  avx512f : Bool
  avx512bw : Bool
  popcnt : Bool
  bmi : Bool
  deriving DecidableEq, Repr

structure SystemInfoX86 where
  cpuVendor : List Byte
  cpuBrand : List Byte
  extensions : CpuExtensionsX86
  deriving DecidableEq, Repr

/-- The bytes of a register in memory. -/
def registerBytes (r : BitVec 32) : List Byte :=
  [r.extractLsb' 0 8, r.extractLsb' 8 8, r.extractLsb' 16 8, r.extractLsb' 24 8]

/-- The bytes of an `info_t` in memory. -/
def Info.bytes (info : Info) : List Byte :=
  registerBytes info.eax ++ registerBytes info.ebx ++ registerBytes info.ecx
    ++ registerBytes info.edx

/-- A `std::string` from a `char` array that ends with zeros. -/
def stringOfChars (chars : List Byte) : List Byte := chars.takeWhile (· != 0)

def cpuBasicInfo : Int := 0

/-- `static_cast<int>(0x80000000)`. -/
def cpuExtendedInfo : Int := (0x80000000#32).toInt

/-- `static_cast<int>(0x80000004)`. -/
def cpuBrandString : Int := (0x80000004#32).toInt

/-- The state components that the system has enabled: `avxsupport` and `avx512support`. -/
def osSupport (cpu : Cpu) (f1Ecx : BitVec 32) : Except Trap (Bool × Bool) := do
  let xsave := f1Ecx[26]
  let osxsave := f1Ecx[27]
  if xsave && osxsave then
    let xcr ← cpu.xgetbvImpl
    let avxsupport := xcr[1] && xcr[2] -- xmm and ymm
    let avx512support := avxsupport && xcr[5] && xcr[6] && xcr[7] -- opmask and zmm
    return (avxsupport, avx512support)
  else
    return (false, false)

/-- `this->extensions`. -/
def readExtensions (f1Ecx f1Edx f7Ebx : BitVec 32) (avxsupport avx512support : Bool) :
    CpuExtensionsX86 where
  sse := f1Edx[25]
  sse2 := f1Edx[26]
  sse3 := f1Ecx[0]
  ssse3 := f1Ecx[9]
  sse41 := f1Ecx[19]
  sse42 := f1Ecx[20]
  avx := f1Ecx[28] && avxsupport
  avx2 := f7Ebx[5] && avxsupport
  avx512f := f7Ebx[16] && avx512support
  avx512bw := f7Ebx[30] && avx512support
  popcnt := f1Ecx[23]
  bmi := f7Ebx[3]

/-- The constructor of `system_info_x86`. -/
def systemInfoX86 (cpu : Cpu) : Except Trap SystemInfoX86 := do
  -- Gather basic info
  let info := cpu.cpuidImpl cpuBasicInfo
  let nIds := min info.eax.toInt (8 - 1)
  let data ← cpu.gather cpuBasicInfo nIds (Vector.replicate 8 default)
  let vendor := registerBytes info.ebx ++ registerBytes info.edx ++ registerBytes info.ecx
  -- Read relevant info
  let f1Ecx := data[1].ecx
  let f1Edx := data[1].edx
  let f7Ebx := data[7].ebx
  -- Gather extended info
  let extInfo := cpu.cpuidImpl cpuExtendedInfo
  let nExtIds := min extInfo.eax.toInt (5 + cpuExtendedInfo - 1)
  let extData ← cpu.gather cpuExtendedInfo nExtIds (Vector.replicate 5 default)
  -- Read extended info
  let brand :=
    if nExtIds ≥ cpuBrandString then extData[2].bytes ++ extData[3].bytes ++ extData[4].bytes
    else []
  -- Check OS capabilities
  let (avxsupport, avx512support) ← osSupport cpu f1Ecx
  return {
    cpuVendor := stringOfChars vendor
    cpuBrand := stringOfChars brand
    extensions := readExtensions f1Ecx f1Edx f7Ebx avxsupport avx512support }

/-! ### The architecture -/

/-- The extensions whose instructions a scanner can contain. -/
inductive Feature where
  | sse
  | sse2
  | sse3
  | ssse3
  | sse41
  | sse42
  | avx
  | avx2
  | avx512f
  | avx512bw
  | popcnt
  | bmi
  | neon
  deriving DecidableEq, Repr

/-- The flag of an extension. -/
def CpuExtensionsX86.has (ext : CpuExtensionsX86) : Feature → Bool
  | .sse => ext.sse
  | .sse2 => ext.sse2
  | .sse3 => ext.sse3
  | .ssse3 => ext.ssse3
  | .sse41 => ext.sse41
  | .sse42 => ext.sse42
  | .avx => ext.avx
  | .avx2 => ext.avx2
  | .avx512f => ext.avx512f
  | .avx512bw => ext.avx512bw
  | .popcnt => ext.popcnt
  | .bmi => ext.bmi
  | .neon => false

namespace Cpu

/-- The greatest basic leaf. -/
def maxLeaf (cpu : Cpu) : Nat := (cpu.cpuidImpl 0).eax.toNat

/-- The registers of a basic leaf, where the processor has it. -/
def leaf (cpu : Cpu) (k : Nat) : Info :=
  if k ≤ cpu.maxLeaf then cpu.cpuid (BitVec.ofNat 32 k) 0 else default

/-- The processor reports the extension. -/
def reports (cpu : Cpu) : Feature → Bool
  | .sse => (cpu.leaf 1).edx[25]
  | .sse2 => (cpu.leaf 1).edx[26]
  | .sse3 => (cpu.leaf 1).ecx[0]
  | .ssse3 => (cpu.leaf 1).ecx[9]
  | .sse41 => (cpu.leaf 1).ecx[19]
  | .sse42 => (cpu.leaf 1).ecx[20]
  | .avx => (cpu.leaf 1).ecx[28]
  | .avx2 => (cpu.leaf 7).ebx[5]
  | .avx512f => (cpu.leaf 7).ebx[16]
  | .avx512bw => (cpu.leaf 7).ebx[30]
  | .popcnt => (cpu.leaf 1).ecx[23]
  | .bmi => (cpu.leaf 7).ebx[3]
  | .neon => false

end Cpu

/-- The state components, by their bit in `XCR0`, without which the instructions of an extension
are undefined. -/
def Feature.components : Feature → List Nat
  | .avx | .avx2 => [1, 2]
  | .avx512f | .avx512bw => [1, 2, 5, 6, 7]
  | _ => []

namespace Cpu

/-- The system has enabled the state component. -/
def enabled (cpu : Cpu) (component : Nat) : Bool := cpu.osxsave && cpu.xcr0.getLsbD component

/-- The instructions of the extension can be executed. -/
def executes (cpu : Cpu) (feature : Feature) : Bool :=
  cpu.reports feature && feature.components.all cpu.enabled

/-- What the architecture says of every processor. -/
structure Lawful (cpu : Cpu) : Prop where
  /-- the extended leaves are not basic ones -/
  leaves : cpu.maxLeaf < 2 ^ 31
  /-- the bit `OSXSAVE` of leaf 1 is that of `CR4` -/
  osxsave : (cpu.leaf 1).ecx[27] = cpu.osxsave
  /-- the system can only set it if there is `XSAVE` -/
  xsave : cpu.osxsave = true → (cpu.leaf 1).ecx[26] = true
  avx : cpu.reports .avx2 = true → cpu.reports .avx = true

end Cpu

/-! ### The constructor is right -/

namespace Cpu

variable {n : Nat} {cpu : Cpu} {base last : Int}

/-- **The loop over the leaves** stores each leaf in its place, and nothing else. -/
theorem storeLeaf_range (cpu : Cpu) (base : Int) (data : Vector Info n) : ∀ {count : Nat},
    count ≤ n → ∃ out : Vector Info n,
      (List.range count).foldlM (cpu.storeLeaf base) data = .ok out ∧
      ∀ (k : Nat) (h : k < n), out[k] =
        if k < count then cpu.cpuidexImpl (base + k) 0 else data[k] := by
  intro count
  induction count with
  | zero => exact fun _ => ⟨data, rfl, fun k h => by simp⟩
  | succ count ih =>
    intro hcount
    obtain ⟨out, hout, hget⟩ := ih (by omega)
    refine ⟨out.set count (cpu.cpuidexImpl (base + count) 0) (by omega), ?_, ?_⟩
    · rw [List.range_succ, List.foldlM_append, hout]
      simp only [List.foldlM_cons, List.foldlM_nil, storeLeaf, dif_pos (show count < n by omega)]
      rfl
    · intro k hk
      rw [Vector.getElem_set, hget k hk]
      by_cases hkc : count = k
      · rw [if_pos hkc, if_pos (by omega), hkc]
      · rw [if_neg hkc]
        exact if_congr (by omega) rfl rfl

theorem gather_ok (cpu : Cpu) (data : Vector Info n) (h : last - base < n) :
    ∃ out : Vector Info n, cpu.gather base last data = .ok out ∧
      ∀ (k : Nat) (h : k < n), out[k] =
        if base + k ≤ last then cpu.cpuidexImpl (base + k) 0 else data[k] := by
  obtain ⟨out, hout, hget⟩ := cpu.storeLeaf_range base data
    (show (last - base + 1).toNat ≤ n by omega)
  refine ⟨out, hout, fun k hk => ?_⟩
  rw [hget k hk]
  exact if_congr (by omega) rfl rfl

/-- **The basic leaves** that the constructor has gathered. -/
theorem gather_basic (h : cpu.Lawful) : ∃ data : Vector Info 8,
    cpu.gather cpuBasicInfo (min (cpu.cpuidImpl cpuBasicInfo).eax.toInt (8 - 1))
        (Vector.replicate 8 default) = .ok data ∧
      ∀ (k : Nat) (hk : k < 8), data[k] = cpu.leaf k := by
  obtain ⟨data, hdata, hget⟩ := cpu.gather_ok (Vector.replicate 8 default)
    (show min (cpu.cpuidImpl cpuBasicInfo).eax.toInt (8 - 1) - cpuBasicInfo < (8 : Nat) by
      rw [cpuBasicInfo]; omega)
  refine ⟨data, hdata, fun k hk => ?_⟩
  have hmax : (cpu.cpuidImpl cpuBasicInfo).eax.toInt = cpu.maxLeaf := by
    have hleaves := h.leaves
    rw [maxLeaf] at hleaves
    rw [cpuBasicInfo]
    exact BitVec.toInt_eq_toNat_of_lt (by omega)
  rw [hget k hk, hmax, cpuBasicInfo, leaf]
  refine if_congr (by omega) ?_ (by simp)
  rw [cpuidexImpl, Int.zero_add, BitVec.ofInt_natCast]
  rfl

/-- **The state of the vector registers**, as the constructor sees it. -/
theorem osSupport_eq (h : cpu.Lawful) : osSupport cpu (cpu.leaf 1).ecx
    = .ok ([1, 2].all cpu.enabled, [1, 2, 5, 6, 7].all cpu.enabled) := by
  rw [osSupport, h.osxsave]
  cases hos : cpu.osxsave with
  | false => simp [enabled, hos]; rfl
  | true =>
    rw [h.xsave hos]
    simp only [xgetbvImpl, hos, enabled, Bool.and_self, if_true, List.all_cons, List.all_nil,
      Bool.true_and, Bool.and_true, Bool.and_assoc]
    rfl

end Cpu

/-- **The constructor of `system_info_x86`**: it runs to its end, without an instruction that is
undefined and without a store outside of its arrays, and each flag says whether the instructions
of the extension can be executed. -/
theorem systemInfoX86_ok {cpu : Cpu} (h : cpu.Lawful) : ∃ info, systemInfoX86 cpu = .ok info ∧
    ∀ feature, info.extensions.has feature = cpu.executes feature := by
  obtain ⟨data, hdata, hleaf⟩ := Cpu.gather_basic h
  obtain ⟨extData, hext, _⟩ := cpu.gather_ok (Vector.replicate 5 default)
    (show min (cpu.cpuidImpl cpuExtendedInfo).eax.toInt (5 + cpuExtendedInfo - 1)
      - cpuExtendedInfo < (5 : Nat) by omega)
  have hrun : ∃ vendor brand, systemInfoX86 cpu = .ok ⟨vendor, brand, readExtensions
      (cpu.leaf 1).ecx (cpu.leaf 1).edx (cpu.leaf 7).ebx ([1, 2].all cpu.enabled)
      ([1, 2, 5, 6, 7].all cpu.enabled)⟩ := by
    unfold systemInfoX86
    simp only [hdata, hext, Trap.ok_bind, hleaf, Cpu.osSupport_eq h]
    exact ⟨_, _, rfl⟩
  obtain ⟨vendor, brand, hrun⟩ := hrun
  refine ⟨_, hrun, fun feature => ?_⟩
  cases feature <;>
    simp [readExtensions, CpuExtensionsX86.has, Cpu.executes, Cpu.reports, Feature.components]

/-- A processor with an `AVX2` that the system has enabled, but no `AVX512`. -/
def Cpu.avx2Sample : Cpu where
  cpuid leaf _ :=
    if leaf = 0 then ⟨7, 0x756e6547, 0x6c65746e, 0x49656e69⟩
    else if leaf = 1 then ⟨0, 0, 0x1c980201, 0x06000000⟩
    else if leaf = 7 then ⟨0, 0x00000028, 0, 0⟩
    else if leaf = 0x80000000 then ⟨0x80000008, 0, 0, 0⟩
    else default
  ecx := 0
  osxsave := true
  xcr0 := 0b111

theorem Cpu.avx2Sample_lawful : Cpu.avx2Sample.Lawful where
  leaves := by decide
  osxsave := by decide
  xsave := by decide
  avx := by decide

theorem systemInfoX86_ok_sample : ∃ info, systemInfoX86 Cpu.avx2Sample = .ok info ∧
    ∀ feature, info.extensions.has feature = Cpu.avx2Sample.executes feature :=
  systemInfoX86_ok Cpu.avx2Sample_lawful

/-! ### `system_info_arm` -/

inductive Os where
  | windows
  | linux
  | mac
  deriving DecidableEq, Repr

/-- An Arm processor: whether it executes Neon instructions, and what `getauxval(AT_HWCAP)`
says of it. -/
structure ArmProcessor where
  neon : Bool
  hwcap : BitVec 64

/-- The constructor of `system_info_arm`: the flag `neon`. -/
def systemInfoArm (os : Os) (arch : Arch) (processor : ArmProcessor) : Bool :=
  match os with
  | .windows | .mac => true
  | .linux =>
    match arch with
    | .arm => processor.hwcap &&& 0x1000 != 0 -- HWCAP_NEON
    | _ => processor.hwcap &&& 0x2 != 0 -- HWCAP_ASIMD

end Libhat

import Libhat.Lib.Runs
import Libhat.Scan
import Libhat.System

/-!
# Scans in the mode `Auto`

`Auto` picks a scanner by `get_system().extensions`.  They are part of an object with static
storage duration: they are zero until its constructor has run, and the constructors of other
static objects, which may scan, can run before it.  `auto_safe`: in whatever order the object is
constructed, contexts are made and scans are run, no instruction is executed that the processor
does not have or the system has not enabled, and every scan returns the first hit.
-/

namespace Libhat

open FirstHit

/-! ### The processor under a program -/

/-- The extensions that the code of a scanner is compiled for, its `LIBHAT_TARGET`. -/
def ScanFunction.features : ScanFunction → List Feature
  | .findPatternSingle _ => []
  | .findPatternSse .. => [.sse41]
  | .findPatternAvx2 .. => [.avx, .avx2, .bmi]
  | .findPatternAvx512 .. => [.avx512f, .avx512bw, .bmi]
  | .findPatternNeon .. => [.neon]

/-- The flags among which `Auto` looks. -/
def CpuExtensions.has (ext : CpuExtensions) : Feature → Bool
  | .sse41 => ext.sse41
  | .avx2 => ext.avx2
  | .avx512f => ext.avx512f
  | .avx512bw => ext.avx512bw
  | .bmi => ext.bmi
  | .neon => ext.neon
  | _ => false

/-- Storage that is zero. -/
def CpuExtensions.zero : CpuExtensions := ⟨false, false, false, false, false, false⟩

def CpuExtensionsX86.scanFlags (ext : CpuExtensionsX86) : CpuExtensions where
  sse41 := ext.sse41
  avx2 := ext.avx2
  avx512f := ext.avx512f
  avx512bw := ext.avx512bw
  bmi := ext.bmi
  neon := false

inductive Processor where
  | x86 (cpu : Cpu)
  | arm (os : Os) (processor : ArmProcessor)

namespace Processor

/-- The instructions of the extension can be executed. -/
def executes : Processor → Feature → Bool
  | .x86 cpu, feature => cpu.executes feature
  | .arm _ processor, feature => feature == .neon && processor.neon

/-- The constructor of `system_info_impl`. -/
def systemInfo (arch : Arch) : Processor → Except Trap CpuExtensions
  | .x86 cpu => do
    let info ← systemInfoX86 cpu
    return info.extensions.scanFlags
  | .arm os processor =>
    return { CpuExtensions.zero with neon := systemInfoArm os arch processor }

/-- What the architecture and the system say of the processor. -/
def Lawful (arch : Arch) : Processor → Prop
  | .x86 cpu => cpu.Lawful
  | .arm .linux processor =>
    processor.neon = processor.hwcap.getLsbD (if arch = .arm then 12 else 1)
  | .arm _ processor => processor.neon = true

/-- `scan_context::scan` on the processor. -/
def scan (processor : Processor) (context : ScanContext) (m : Memory) (first last : Nat) :
    Except Trap ScanResult :=
  if context.signature.length > last - first then
    .ok none
  else
    match context.scanner with
    | some scanner =>
      if scanner.features.all processor.executes then
        (scanner.call m first last context).mapError .fault
      else
        .error .undefinedInstruction
    | none => .error (.fault .nullCall)

end Processor

/-! ### Programs that scan -/

/-- A scan and its result. -/
structure ScanRecord where
  signature : Signature
  alignment : ScanAlignment
  memory : Memory
  first : Nat
  last : Nat
  result : ScanResult

/-- `system_info_impl::instance.extensions`, the contexts that the program has made, and the
scans that it has run. -/
structure AutoState where
  extensions : CpuExtensions
  contexts : List ScanContext
  records : List ScanRecord
  trap : Option Trap

/-- The storage of the instance is zero at first. -/
def AutoState.initial : AutoState := ⟨.zero, [], [], none⟩

inductive AutoAction where
  /-- `system_info_impl::instance` is constructed -/
  | construct
  /-- `scan_context::create<scan_mode::Auto>` -/
  | create (signature : Signature) (alignment : ScanAlignment) (hints : ScanHint)
  /-- `scan` with one of the contexts -/
  | scan (index : Nat) (m : Memory) (first last : Nat)

/-- What the callers of a library that was built for `build` promise.  Where the Neon scanner may
be picked, its masks have to be defined. -/
def AutoAction.Valid (build : Target) : AutoAction → Prop
  | .construct => True
  | .create signature alignment hints => HasFullByte signature ∧
    ∀ ext, MasksDefined { build with extensions := ext } .auto signature alignment hints
  | .scan _ m first last => m.Readable first last

/-- One action, for a library that was built for `build`. -/
def AutoState.act (build : Target) (processor : Processor) (s : AutoState) :
    AutoAction → Except Trap AutoState
  | .construct => do
    let ext ← processor.systemInfo build.arch
    return { s with extensions := ext }
  | .create signature alignment hints => do
    let target := { build with extensions := s.extensions }
    let context ← (ScanContext.create target .auto signature alignment hints).mapError .fault
    return { s with contexts := s.contexts ++ [context] }
  | .scan index m first last =>
    match s.contexts[index]? with
    | some context => do
      let result ← processor.scan context m first last
      return { s with records := s.records ++
        [⟨context.signature, context.alignment, m, first, last, result⟩] }
    | none => return s

/-- A trap ends the program. -/
def AutoState.step (build : Target) (processor : Processor) (s : AutoState) (a : AutoAction) :
    AutoState :=
  match s.trap with
  | some _ => s
  | none =>
    match s.act build processor a with
    | .ok s' => s'
    | .error trap => { s with trap := some trap }

/-! ### What is picked can be executed -/

section

variable {build : Target} {processor : Processor} {arch : Arch}

/-- The flags say nothing of an extension that cannot be used. -/
def CpuExtensions.Sound (ext : CpuExtensions) (processor : Processor) : Prop :=
  ∀ feature, ext.has feature = true → processor.executes feature = true

theorem CpuExtensionsX86.has_of_scanFlags {ext : CpuExtensionsX86} {feature : Feature}
    (h : ext.scanFlags.has feature = true) : ext.has feature = true := by
  cases feature <;> first | exact h | exact absurd h Bool.false_ne_true

theorem and_twoPow_ne_zero (x : BitVec 64) (i : Nat) (hi : i < 64) :
    (x &&& BitVec.twoPow 64 i != 0) = x.getLsbD i := by
  rw [BitVec.and_twoPow]
  cases x.getLsbD i with
  | false => rfl
  | true =>
    rw [if_pos rfl, bne_iff_ne]
    intro hzero
    have hbit := congrArg (·.getLsbD i) hzero
    simp [hi] at hbit

/-- **The constructor of `system_info_arm` is sound.** -/
theorem systemInfoArm_sound {os : Os} {arm : ArmProcessor}
    (h : (Processor.arm os arm).Lawful arch) (hflag : systemInfoArm os arch arm = true) :
    arm.neon = true := by
  cases os with
  | windows | mac => exact h
  | linux =>
    rw [show arm.neon = _ from h]
    cases arch with
    | arm => rwa [← and_twoPow_ne_zero _ _ (by decide)]
    | x86 | x86_64 | aarch64 => rwa [← and_twoPow_ne_zero _ _ (by decide)]

/-- **The constructor of `system_info_impl` is sound**, on every architecture. -/
theorem Processor.systemInfo_ok (h : processor.Lawful arch) :
    ∃ ext, processor.systemInfo arch = .ok ext ∧ ext.Sound processor := by
  cases processor with
  | x86 cpu =>
    obtain ⟨info, hinfo, hflags⟩ := systemInfoX86_ok (show cpu.Lawful from h)
    refine ⟨info.extensions.scanFlags, by rw [systemInfo, hinfo]; rfl, fun feature hfeature => ?_⟩
    rw [executes, ← hflags]
    exact CpuExtensionsX86.has_of_scanFlags hfeature
  | arm os arm =>
    refine ⟨_, rfl, fun feature hfeature => ?_⟩
    cases feature with
    | neon => rw [executes, systemInfoArm_sound h hfeature]; rfl
    | _ => exact absurd hfeature Bool.false_ne_true

/-- A processor with `AVX2` has `AVX`. -/
theorem Processor.executes_avx (h : processor.Lawful arch)
    (havx2 : processor.executes .avx2 = true) : processor.executes .avx = true := by
  cases processor with
  | x86 cpu =>
    have hlaw : cpu.Lawful := h
    obtain ⟨hreports, henabled⟩ := Bool.and_eq_true_iff.mp havx2
    exact Bool.and_eq_true_iff.mpr ⟨hlaw.avx hreports, henabled⟩
  | arm os arm => exact absurd havx2 Bool.false_ne_true

/-- **The scanner that `Auto` picks** is made of instructions that can be executed, when the
flags of the build and those of the instance are sound. -/
theorem autoMode_features (target : Target) (hlaw : processor.Lawful arch)
    (hcompiled : target.compiledExtensions.Sound processor)
    (hext : target.extensions.Sound processor) (alignment : ScanAlignment) (cmpeq2 : Bool)
    (size : Nat) :
    (scannerFor (autoMode target) alignment cmpeq2 size).features.all processor.executes := by
  have hor : ∀ feature, (target.compiledExtensions.has feature || target.extensions.has feature)
      = true → processor.executes feature = true := by
    intro feature h
    rcases Bool.or_eq_true_iff.mp h with h | h
    · exact hcompiled feature h
    · exact hext feature h
  rw [autoMode]
  split_ifs with havx512 havx2 hsse hneon
  · simp only [Bool.and_eq_true] at havx512
    obtain ⟨⟨⟨⟨⟨_, hbmi⟩, _⟩, _⟩, hf⟩, hbw⟩ := havx512
    simp [scannerFor, ScanFunction.features, hor .bmi hbmi, hor .avx512f hf, hor .avx512bw hbw]
  · simp only [Bool.and_eq_true] at havx2
    obtain ⟨⟨_, hbmi⟩, havx2⟩ := havx2
    have hexec := hor .avx2 havx2
    have havx := Processor.executes_avx hlaw hexec
    simp [scannerFor, ScanFunction.features, hor .bmi hbmi, hexec, havx]
  · simp only [Bool.and_eq_true] at hsse
    simp [scannerFor, ScanFunction.features, hor .sse41 hsse.2]
  · simp only [Bool.and_eq_true] at hneon
    simp [scannerFor, ScanFunction.features, hor .neon hneon.2]
  · rfl

/-! ### Every run is safe -/

/-- A context that can scan on the processor. -/
structure ScanContext.Safe (context : ScanContext) (processor : Processor) : Prop where
  ready : ∃ mode, context.Ready mode context.signature context.alignment
  finds : context.FindsFirst context.signature context.alignment
  features : ∀ scanner, context.scanner = some scanner →
    scanner.features.all processor.executes = true

/-- The record is right: its result is the first place at which the signature fits. -/
def ScanRecord.Correct (record : ScanRecord) : Prop :=
  IsFirst {p | record.first ≤ p ∧ p + record.signature.length ≤ record.last ∧
    record.alignment.toStride ∣ p ∧ MatchesAt record.memory record.signature p} record.result

structure AutoState.Safe (s : AutoState) (processor : Processor) : Prop where
  extensions : s.extensions.Sound processor
  contexts : ∀ context ∈ s.contexts, context.Safe processor
  records : ∀ record ∈ s.records, record.Correct
  trap : s.trap = none

theorem AutoState.initial_safe (processor : Processor) : AutoState.initial.Safe processor where
  extensions := fun feature h => by cases feature <;> exact absurd h Bool.false_ne_true
  contexts := fun _ h => absurd h List.not_mem_nil
  records := fun _ h => absurd h List.not_mem_nil
  trap := rfl

/-- **A safe context** scans without an undefined instruction, and finds the first hit. -/
theorem ScanContext.Safe.scan_ok {context : ScanContext} (h : context.Safe processor)
    {m : Memory} {first last : Nat} (hread : m.Readable first last) :
    ∃ r, processor.scan context m first last = .ok r ∧
      IsFirst (Hits m context.signature context.alignment.toStride first last) r := by
  obtain ⟨mode, hready⟩ := h.ready
  obtain ⟨r, hr, hfirst⟩ := h.finds hread
  refine ⟨r, ?_, hfirst⟩
  have hscanner := hready.scanner_eq
  rw [Processor.scan]
  rw [ScanContext.scan] at hr
  split_ifs at hr ⊢ with hshort
  · cases hr
    rfl
  · rw [hscanner] at hr ⊢
    dsimp only at hr ⊢
    rw [if_pos (h.features _ hscanner), hr]
    rfl

/-- **A context that `create` makes** is safe, whatever the flags of the instance say by then. -/
theorem create_safe (hlaw : processor.Lawful arch)
    (hcompiled : build.compiledExtensions.Sound processor) {ext : CpuExtensions}
    (hext : ext.Sound processor) {signature : Signature}
    (hsig : HasFullByte signature) (alignment : ScanAlignment) (hints : ScanHint)
    (hdef : MasksDefined { build with extensions := ext } .auto signature alignment hints) :
    ∃ context, ScanContext.create { build with extensions := ext } .auto signature alignment hints
      = .ok context ∧ context.Safe processor := by
  obtain ⟨context, hcreate, hsigEq, halign, hanchored, hscanner⟩ :=
    create_ok { build with extensions := ext } .auto alignment hints hsig
  obtain ⟨context', hcreate', _, hfinds⟩ :=
    create_findsFirst { build with extensions := ext } .auto alignment hints hsig hdef
  obtain rfl : context' = context := Except.ok.inj (hcreate'.symm.trans hcreate)
  refine ⟨context', hcreate,
    ⟨effectiveMode { build with extensions := ext } .auto, rfl, hanchored, ?_⟩, ?_,
    fun scanner h => ?_⟩
  · rw [hscanner, halign, hsigEq]
  · rw [hsigEq, halign]
    exact hfinds
  · rw [hscanner] at h
    cases h
    exact autoMode_features { build with extensions := ext } hlaw hcompiled hext alignment _ _

/-- **Every action keeps the state safe.** -/
theorem AutoState.Safe.step {s : AutoState} {a : AutoAction} (hlaw : processor.Lawful build.arch)
    (hcompiled : build.compiledExtensions.Sound processor) (h : s.Safe processor)
    (ha : a.Valid build) : (s.step build processor a).Safe processor := by
  unfold AutoState.step
  rw [h.trap]
  cases a with
  | construct =>
    obtain ⟨ext, hinfo, hext⟩ := Processor.systemInfo_ok hlaw
    simp only [AutoState.act, hinfo, Trap.ok_bind]
    exact { h with extensions := hext }
  | create signature alignment hints =>
    obtain ⟨context, hcreate, hsafe⟩ :=
      create_safe hlaw hcompiled h.extensions ha.1 alignment hints (ha.2 s.extensions)
    simp only [AutoState.act, hcreate, Except.mapError, Trap.ok_bind]
    refine ⟨h.extensions, fun c hc => ?_, h.records, h.trap⟩
    rcases List.mem_append.mp hc with hc | hc
    · exact h.contexts c hc
    · rwa [List.mem_singleton.mp hc]
  | scan index m first last =>
    cases hget : s.contexts[index]? with
    | none =>
      simp only [AutoState.act, hget]
      exact h
    | some context =>
      have hsafe := h.contexts context (List.mem_of_getElem? hget)
      obtain ⟨r, hr, hfirst⟩ := hsafe.scan_ok (show m.Readable first last from ha)
      simp only [AutoState.act, hget, hr, Trap.ok_bind]
      refine ⟨h.extensions, h.contexts, fun record hrecord => ?_, h.trap⟩
      rcases List.mem_append.mp hrecord with hrecord | hrecord
      · exact h.records record hrecord
      · rw [List.mem_singleton.mp hrecord]
        exact hfirst

/-- **Scans in the mode `Auto` are safe.**  The processor obeys its architecture and can run the
code as it was built, and every action is valid.  Then in every run, with the instance
constructed before, between or after the other actions, nothing traps and every scan has
returned the first hit. -/
theorem auto_safe (build : Target) (processor : Processor) (hlaw : processor.Lawful build.arch)
    (hcompiled : ∀ feature, build.compiledExtensions.has feature = true →
      processor.executes feature = true)
    (run : List AutoAction) (hrun : ∀ a ∈ run, a.Valid build) :
    Runs.Always (AutoState.step build processor)
      (fun s => s.trap = none ∧ ∀ record ∈ s.records, record.Correct) .initial run := by
  have hsafe : Runs.Always (AutoState.step build processor) (·.Safe processor) .initial run :=
    Runs.always_of_steps (fun s a hs ha => hs.step hlaw hcompiled ha)
      (AutoState.initial_safe processor) (Runs.steps_of_forall hrun _)
  exact hsafe.imp fun s hs => ⟨hs.trap, hs.records⟩

/-- A context is made before the instance is constructed, and another after it. -/
theorem auto_safe_sample :
    Runs.Always
      (AutoState.step ⟨.x86_64, true, true, true, true, .zero, .zero⟩ (.x86 .avx2Sample))
      (fun s => s.trap = none ∧ ∀ record ∈ s.records, record.Correct) .initial
      [.create [.ofByte 0x12, .wildcard] .x4 0, .construct, .create [.ofByte 0x12] .x1 0,
        .scan 0 (Memory.ofBytes 1000 [0x12, 0x34]) 1000 1002,
        .scan 1 (Memory.ofBytes 1000 [0x12, 0x34]) 1000 1002] := by
  have hread := Memory.readable_ofBytes 1000 [0x12, 0x34]
  refine auto_safe ⟨.x86_64, true, true, true, true, .zero, .zero⟩ (.x86 .avx2Sample)
    Cpu.avx2Sample_lawful (fun feature h => ?_) _ (fun a ha => ?_)
  · cases feature <;> exact absurd h Bool.false_ne_true
  · simp only [List.mem_cons, List.not_mem_nil, or_false] at ha
    rcases ha with rfl | rfl | rfl | rfl | rfl
    · have hsig : HasFullByte [.ofByte 0x12, .wildcard] := ⟨_, List.mem_cons_self, by decide⟩
      exact ⟨hsig, fun ext => masksDefined_of_length _ .auto .x4 0 hsig (by decide)⟩
    · trivial
    · exact ⟨⟨_, List.mem_cons_self, by decide⟩, fun ext => masksDefined_x1 _ _ _ _⟩
    · exact hread
    · exact hread

end

end Libhat

import Libhat.Signature
import Libhat.Frequency

/-!
# Scan contexts

`scan_context::create` prepares a scan: it finds the first fully masked element
(`cmpIndex`, the anchor of the scalar scanner), and for a vector backend lets
`apply_hints` look for two adjacent fully masked elements (`pairIndex`, the
anchor of the two-byte filter) before it picks a specialization of the scanner.

A function pointer is a `ScanFunction`, the name of the specialization; what the
names stand for is in `Scan.lean`.  `Target` holds what the build and the
processor decide.

`create_ok`: with a fully masked element, `create` gives a context whose anchors
are `Anchored` and whose scanner is the one `scannerFor` names.
-/

namespace Libhat

/-- `scan_alignment`. -/
inductive ScanAlignment where
  | x1
  | x4
  | x16
  deriving DecidableEq, Repr

/-- `to_stride`. -/
def ScanAlignment.toStride : ScanAlignment → Nat
  | .x1 => 1
  | .x4 => 4
  | .x16 => 16

theorem ScanAlignment.toStride_pos (a : ScanAlignment) : 0 < a.toStride := by
  cases a <;> decide

theorem ScanAlignment.toStride_dvd (a : ScanAlignment) : a.toStride ∣ 16 := by
  cases a <;> decide

/-- `scan_hint`, a set of bits. -/
abbrev ScanHint := BitVec 64

namespace ScanHint

def x86_64 : ScanHint := 1#64 <<< 0
def pair0 : ScanHint := 1#64 <<< 1
def aarch64 : ScanHint := 1#64 <<< 2

/-- `static_cast<bool>(hints & hint)`. -/
def test (hints hint : ScanHint) : Bool := hints &&& hint != 0#64

end ScanHint

/-- `scan_mode`. -/
inductive ScanMode where
  | auto
  | single
  | sse
  | avx2
  | avx512
  | neon
  deriving DecidableEq, Repr

/-- `scan_function_t`: a specialization of one of the scanners.  The flags are
`cmpeq2` and `veccmp`. -/
inductive ScanFunction where
  | findPatternSingle (alignment : ScanAlignment)
  | findPatternSse (alignment : ScanAlignment) (cmpeq2 veccmp : Bool)
  | findPatternAvx2 (alignment : ScanAlignment) (cmpeq2 veccmp : Bool)
  | findPatternAvx512 (alignment : ScanAlignment) (cmpeq2 veccmp : Bool)
  | findPatternNeon (alignment : ScanAlignment) (cmpeq2 veccmp : Bool)
  deriving DecidableEq, Repr

/-- `scan_context`. -/
structure ScanContext where
  signature : Signature
  scanner : Option ScanFunction
  alignment : ScanAlignment
  hints : ScanHint
  cmpIndex : Nat
  pairIndex : Option Nat

/-! ### The build and the processor -/

inductive Arch where
  | x86
  | x86_64
  | arm
  | aarch64
  deriving DecidableEq, Inhabited, Repr

/-- The flags of `cpu_extensions` that select a scanner. -/
structure CpuExtensions where
  sse41 : Bool
  avx2 : Bool
  avx512f : Bool
  avx512bw : Bool
  bmi : Bool
  neon : Bool
  deriving Inhabited

/-- The architecture, the `LIBHAT_FEATURE_` and `LIBHAT_HINT_` options of the
build, `compiled_extensions`, and `get_system().extensions`. -/
structure Target where
  arch : Arch
  featureSse : Bool
  featureAvx512 : Bool
  hintX86_64 : Bool
  hintAarch64 : Bool
  compiledExtensions : CpuExtensions
  extensions : CpuExtensions
  deriving Inhabited

/-! ### Hints -/

/-- `pair_hint_t`: pairs and their scores. -/
abbrev PairHint := Array (Byte × Byte) × Array Nat

/-- `get_pair_hint`. -/
def getPairHint (target : Target) (hints : ScanHint) : Option PairHint :=
  if target.hintX86_64 && hints.test .x86_64 then
    some (Frequency.x86_64PairsX1, Frequency.x86_64ScoresX1)
  else if target.hintAarch64 && hints.test .aarch64 then
    some (Frequency.aarch64PairsX1, Frequency.aarch64ScoresX1)
  else
    none

/-- The order of `std::pair<std::byte, std::byte>`. -/
def pairLt (a b : Byte × Byte) : Bool :=
  decide (a.1 < b.1) || (a.1 == b.1 && decide (a.2 < b.2))

/-- `std::ranges::lower_bound`, on the `len` entries from `first` on. -/
def lowerBound (pairs : Array (Byte × Byte)) (pair : Byte × Byte) (first len : Nat) : Nat :=
  if len = 0 then first
  else
    let half := len / 2
    if pairLt (pairs.getD (first + half) (0, 0)) pair then
      lowerBound pairs pair (first + half + 1) (len - half - 1)
    else
      lowerBound pairs pair first half
termination_by len

/-- The lambda `getScore`. -/
def getScore (pairHint : PairHint) (a b : Byte) : Nat :=
  let (pairs, scores) := pairHint
  let it := lowerBound pairs (a, b) 0 pairs.size
  if pairs[it]? = some (a, b) then scores.getD it 0 else numPairs

/-- The loop over adjacent elements that keeps the best pair, from the elements
at index `i` on. -/
def bestPair (score : Byte → Byte → Nat) : Signature → Nat → Option (Nat × Nat) →
    Option (Nat × Nat)
  | a :: b :: rest, i, best =>
    let best' :=
      if a.all && b.all then
        let s := score a.value b.value
        match best with
        | none => some (i, s)
        | some (_, t) => if s > t then some (i, s) else best
      else best
    bestPair score (b :: rest) (i + 1) best'
  | _, _, best => best

/-- The loop over adjacent elements that stops at the first pair, from the
elements at index `i` on. -/
def firstPair (pair0 : Bool) : Signature → Nat → Option Nat
  | a :: b :: rest, i =>
    if a.all && b.all then some i
    else if i = 0 && pair0 then none
    else firstPair pair0 (b :: rest) (i + 1)
  | _, _ => none

/-- `std::prev(signature.end())` is an element. -/
def prevEnd (signature : Signature) : Exec Unit :=
  match signature with
  | [] => .error (.index 0)
  | _ :: _ => .ok ()

/-- `scan_context::apply_hints`. -/
def applyHints (target : Target) (vectorSize : Nat) (context : ScanContext) :
    Exec ScanContext := do
  let pair0 := context.hints.test .pair0
  let mut context := context
  match getPairHint target context.hints with
  | some pairHint =>
    if !pair0 && vectorSize != 0 then
      prevEnd context.signature
      match bestPair (getScore pairHint) context.signature 0 none with
      | some best => context := { context with pairIndex := some best.1 }
      | none => pure ()
  | none => pure ()
  -- If no "optimal" pair was found, find the first byte pair in the signature
  if context.pairIndex.isNone then
    prevEnd context.signature
    context := { context with pairIndex := firstPair pair0 context.signature 0 }
  return context

/-! ### Scanners -/

/-- `resolve_scanner<scan_mode::Single>`. -/
def resolveScannerSingle (context : ScanContext) : Exec (ScanContext × ScanFunction) :=
  pure (context, .findPatternSingle context.alignment)

/-- The body the vector backends share: hints first, then the specialization for
the alignment, for a byte pair, and for a signature of at most one vector. -/
def resolveVectorScanner (vectorSize : Nat)
    (specialization : ScanAlignment → Bool → Bool → ScanFunction) (target : Target)
    (context : ScanContext) : Exec (ScanContext × ScanFunction) := do
  let context ← applyHints target vectorSize context
  let cmpeq2 := context.pairIndex.isSome
  let veccmp := decide (context.signature.length ≤ vectorSize)
  return (context, specialization context.alignment cmpeq2 veccmp)

/-- `resolve_scanner<scan_mode::SSE>`. -/
def resolveScannerSse := resolveVectorScanner 16 .findPatternSse

/-- `resolve_scanner<scan_mode::AVX2>`. -/
def resolveScannerAvx2 := resolveVectorScanner 32 .findPatternAvx2

/-- `resolve_scanner<scan_mode::AVX512>`. -/
def resolveScannerAvx512 := resolveVectorScanner 64 .findPatternAvx512

/-- `resolve_scanner<scan_mode::Neon>`. -/
def resolveScannerNeon := resolveVectorScanner 16 .findPatternNeon

/-- The mode that `resolve_scanner<scan_mode::Auto>` picks at runtime. -/
def autoMode (target : Target) : ScanMode :=
  let compiled := target.compiledExtensions
  let ext := target.extensions
  let x86 := target.arch = .x86 || target.arch = .x86_64
  let arm := target.arch = .arm || target.arch = .aarch64
  if x86 && (compiled.bmi || ext.bmi) && target.arch = .x86_64 && target.featureAvx512
      && (compiled.avx512f || ext.avx512f) && (compiled.avx512bw || ext.avx512bw) then .avx512
  else if x86 && (compiled.bmi || ext.bmi) && (compiled.avx2 || ext.avx2) then .avx2
  else if x86 && target.featureSse && (compiled.sse41 || ext.sse41) then .sse
  else if arm && (compiled.neon || ext.neon) then .neon
  -- If none of the vectorized implementations are available, scan per byte
  else .single

/-- The mode that scans: `Auto` has picked one. -/
def effectiveMode (target : Target) : ScanMode → ScanMode
  | .auto => autoMode target
  | mode => mode

/-- `resolve_scanner<mode>`. -/
def resolveScanner (target : Target) (mode : ScanMode) (context : ScanContext) :
    Exec (ScanContext × ScanFunction) :=
  match effectiveMode target mode with
  | .sse => resolveScannerSse target context
  | .avx2 => resolveScannerAvx2 target context
  | .avx512 => resolveScannerAvx512 target context
  | .neon => resolveScannerNeon target context
  | _ => resolveScannerSingle context

/-- `scan_context::create`, at runtime.  Constant evaluation always takes the
scanner of `scan_mode::Single`. -/
def ScanContext.create (target : Target) (mode : ScanMode) (signature : Signature)
    (alignment : ScanAlignment) (hints : ScanHint) : Exec ScanContext := do
  let cmpIndex := signature.findIdx SignatureElement.all
  let context : ScanContext :=
    { signature, scanner := none, alignment, hints, cmpIndex, pairIndex := none }
  let (context, scanner) ← resolveScanner target mode context
  return { context with scanner := some scanner }

/-! ### Anchors -/

/-- Element `i` exists and is fully masked. -/
def AllAt (signature : Signature) (i : Nat) : Prop :=
  ∃ e, signature[i]? = some e ∧ e.all = true

theorem AllAt.lt {signature : Signature} {i : Nat} (h : AllAt signature i) :
    i < signature.length := by
  obtain ⟨e, he, _⟩ := h
  exact (List.getElem?_eq_some_iff.mp he).1

/-- A byte that matches at `p` puts the value of a fully masked element in place. -/
theorem AllAt.eq_of_matchesAt {signature : Signature} {i : Nat} (h : AllAt signature i) :
    ∃ e, elementAt signature i = .ok e ∧
      ∀ {m : Memory} {p : Nat}, MatchesAt m signature p → m (p + i) = some e.value := by
  have hi := h.lt
  obtain ⟨e, he, hall⟩ := h
  refine ⟨e, by rw [elementAt, he], fun {m p} hm => ?_⟩
  obtain ⟨b, hb, hacc⟩ := hm i hi
  rw [(List.getElem?_eq_some_iff.mp he).2, SignatureElement.accepts_of_all hall] at hacc
  rw [hb, hacc]

/-- What a scanner relies on: the anchors are fully masked elements. -/
structure ScanContext.Anchored (context : ScanContext) : Prop where
  cmp : AllAt context.signature context.cmpIndex
  pair : ∀ i, context.pairIndex = some i →
    AllAt context.signature i ∧ AllAt context.signature (i + 1)

/-- The anchor of a vector scanner: the first element of the pair, if there is one. -/
def ScanContext.anchor (context : ScanContext) : Nat := context.pairIndex.getD context.cmpIndex

theorem AllAt.cons {a : SignatureElement} {rest : Signature} {i : Nat} (h : AllAt rest i) :
    AllAt (a :: rest) (i + 1) := by
  obtain ⟨e, he, hall⟩ := h
  exact ⟨e, by simpa using he, hall⟩

/-- The best pair is the one given or an admissible pair further on. -/
theorem bestPair_admissible (score : Byte → Byte → Nat) : ∀ (signature : Signature) (i : Nat)
    (best : Option (Nat × Nat)) {r : Nat × Nat}, bestPair score signature i best = some r →
      best = some r ∨ ∃ k, r.1 = i + k ∧ AllAt signature k ∧ AllAt signature (k + 1) := by
  intro signature
  induction signature with
  | nil => intro i best r h; exact Or.inl h
  | cons a rest ih =>
    intro i best r h
    cases rest with
    | nil => exact Or.inl h
    | cons b rest =>
      rw [bestPair] at h
      rcases ih (i + 1) _ h with hbest | ⟨k, hk, h1, h2⟩
      · by_cases hab : (a.all && b.all) = true
        · -- the pair at `i` itself was compared with the best one so far
          obtain ⟨ha, hb⟩ := Bool.and_eq_true_iff.mp hab
          have hadm : AllAt (a :: b :: rest) 0 ∧ AllAt (a :: b :: rest) (0 + 1) :=
            ⟨⟨a, rfl, ha⟩, ⟨b, rfl, hb⟩⟩
          simp only [hab, if_true] at hbest
          cases best with
          | none =>
            refine Or.inr ⟨0, ?_, hadm⟩
            rw [← Option.some.inj hbest]
            rfl
          | some t =>
            simp only at hbest
            split at hbest
            · refine Or.inr ⟨0, ?_, hadm⟩
              rw [← Option.some.inj hbest]
              rfl
            · exact Or.inl hbest
        · rw [if_neg hab] at hbest
          exact Or.inl hbest
      · exact Or.inr ⟨k + 1, by omega, h1.cons, h2.cons⟩

/-- The first pair is admissible. -/
theorem firstPair_admissible (pair0 : Bool) : ∀ (signature : Signature) (i : Nat) {r : Nat},
    firstPair pair0 signature i = some r →
      ∃ k, r = i + k ∧ AllAt signature k ∧ AllAt signature (k + 1) := by
  intro signature
  induction signature with
  | nil => intro i r h; simp [firstPair] at h
  | cons a rest ih =>
    intro i r h
    cases rest with
    | nil => simp [firstPair] at h
    | cons b rest =>
      rw [firstPair] at h
      by_cases hab : (a.all && b.all) = true
      · obtain ⟨ha, hb⟩ := Bool.and_eq_true_iff.mp hab
        rw [if_pos hab] at h
        exact ⟨0, (Option.some.inj h).symm, ⟨a, rfl, ha⟩, ⟨b, rfl, hb⟩⟩
      · rw [if_neg hab] at h
        split at h
        · simp at h
        · obtain ⟨k, hk, h1, h2⟩ := ih (i + 1) h
          exact ⟨k + 1, by omega, h1.cons, h2.cons⟩

theorem prevEnd_ok {signature : Signature} (h : signature ≠ []) :
    prevEnd signature = .ok () := by
  cases signature with
  | nil => exact absurd rfl h
  | cons a rest => rfl

/-- The pair that the frequency table picks, if there is a table to use. -/
def hintedPair (target : Target) (vectorSize : Nat) (context : ScanContext) : Option Nat :=
  match getPairHint target context.hints with
  | some pairHint =>
    if !context.hints.test .pair0 && vectorSize != 0 then
      (bestPair (getScore pairHint) context.signature 0 none).map Prod.fst
    else none
  | none => none

/-- **Hints only set the pair index**: to the table's pair, or else to the first one. -/
theorem applyHints_eq (target : Target) (vectorSize : Nat) {context : ScanContext}
    (hne : context.signature ≠ []) (hpair : context.pairIndex = none) :
    applyHints target vectorSize context = .ok { context with
      pairIndex := (hintedPair target vectorSize context).or
        (firstPair (context.hints.test .pair0) context.signature 0) } := by
  unfold applyHints hintedPair
  simp only [prevEnd_ok hne, ok_bind, pure_eq_ok, hpair]
  cases getPairHint target context.hints with
  | none => rfl
  | some pairHint =>
    by_cases hc : (!context.hints.test ScanHint.pair0 && vectorSize != 0) = true
    · simp only [if_pos hc]
      cases bestPair (getScore pairHint) context.signature 0 none <;> rfl
    · simp only [if_neg hc]
      rfl

theorem hintedPair_admissible {target : Target} {vectorSize : Nat} {context : ScanContext}
    {i : Nat} (h : hintedPair target vectorSize context = some i) :
    AllAt context.signature i ∧ AllAt context.signature (i + 1) := by
  unfold hintedPair at h
  split at h
  · split at h
    · obtain ⟨r, hr, rfl⟩ := Option.map_eq_some_iff.mp h
      rcases bestPair_admissible _ _ 0 none hr with hn | ⟨k, hk, hadm⟩
      · simp at hn
      · rw [hk, Nat.zero_add]
        exact hadm
    · simp at h
  · simp at h

/-- The index that the hints leave is empty or admissible. -/
theorem pairIndex_admissible {target : Target} {vectorSize : Nat} {context : ScanContext}
    {pair0 : Bool} {i : Nat}
    (h : (hintedPair target vectorSize context).or (firstPair pair0 context.signature 0) = some i) :
    AllAt context.signature i ∧ AllAt context.signature (i + 1) := by
  rcases Option.or_eq_some_iff.mp h with hh | ⟨_, hf⟩
  · exact hintedPair_admissible hh
  · obtain ⟨k, hk, hadm⟩ := firstPair_admissible _ _ 0 hf
    rw [hk, Nat.zero_add]
    exact hadm

/-! ### What `create` makes -/

/-- The specialization that a mode runs, by the number of the signature's
elements and by whether a byte pair was found. -/
def scannerFor (mode : ScanMode) (alignment : ScanAlignment) (cmpeq2 : Bool) (size : Nat) :
    ScanFunction :=
  match mode with
  | .sse => .findPatternSse alignment cmpeq2 (decide (size ≤ 16))
  | .avx2 => .findPatternAvx2 alignment cmpeq2 (decide (size ≤ 32))
  | .avx512 => .findPatternAvx512 alignment cmpeq2 (decide (size ≤ 64))
  | .neon => .findPatternNeon alignment cmpeq2 (decide (size ≤ 16))
  | _ => .findPatternSingle alignment

theorem HasFullByte.allAt {signature : Signature} (h : HasFullByte signature) :
    AllAt signature (signature.findIdx SignatureElement.all) := by
  obtain ⟨e, he, hall⟩ := h
  have hlt := List.findIdx_lt_length_of_exists ⟨e, he, hall⟩
  exact ⟨_, List.getElem?_eq_getElem hlt, List.findIdx_getElem⟩

/-- **`create` succeeds**, with the mode's own scanner and admissible anchors. -/
theorem create_ok (target : Target) (mode : ScanMode) {signature : Signature}
    (alignment : ScanAlignment) (hints : ScanHint) (hsig : HasFullByte signature) :
    ∃ context, ScanContext.create target mode signature alignment hints = .ok context ∧
      context.signature = signature ∧ context.alignment = alignment ∧ context.Anchored ∧
      context.scanner = some (scannerFor (effectiveMode target mode) alignment
        context.pairIndex.isSome signature.length) := by
  unfold ScanContext.create resolveScanner
  cases effectiveMode target mode
  case auto | single =>
    exact ⟨_, rfl, rfl, rfl, ⟨hsig.allAt, fun i hi => by simp at hi⟩, rfl⟩
  all_goals
    simp only [resolveScannerSse, resolveScannerAvx2, resolveScannerAvx512, resolveScannerNeon,
      resolveVectorScanner]
    rw [applyHints_eq _ _ hsig.ne_nil rfl]
    exact ⟨_, rfl, rfl, rfl, ⟨hsig.allAt, fun i hi => pairIndex_admissible hi⟩, rfl⟩

/-- The anchor that the hints leave to a vector scanner. -/
def vectorAnchor (target : Target) (vectorSize : Nat) (signature : Signature) (hints : ScanHint) :
    Nat :=
  let cmpIndex := signature.findIdx SignatureElement.all
  let context : ScanContext :=
    { signature, scanner := none, alignment := .x1, hints, cmpIndex, pairIndex := none }
  ((hintedPair target vectorSize context).or (firstPair (hints.test .pair0) signature 0)).getD
    cmpIndex

/-- **The anchor of the context that `create` makes** for the Neon scanner. -/
theorem create_anchor {target : Target} {mode : ScanMode} {signature : Signature}
    {alignment : ScanAlignment} {hints : ScanHint} {context : ScanContext}
    (hsig : HasFullByte signature) (hmode : effectiveMode target mode = .neon)
    (hcreate : ScanContext.create target mode signature alignment hints = .ok context) :
    context.anchor = vectorAnchor target 16 signature hints := by
  unfold ScanContext.create resolveScanner at hcreate
  simp only [hmode, resolveScannerNeon, resolveVectorScanner] at hcreate
  rw [applyHints_eq _ _ hsig.ne_nil rfl] at hcreate
  cases hcreate
  rfl

/-- The anchor is a fully masked element. -/
theorem allAt_vectorAnchor (target : Target) (vectorSize : Nat) {signature : Signature}
    (hints : ScanHint) (hsig : HasFullByte signature) :
    AllAt signature (vectorAnchor target vectorSize signature hints) := by
  rw [vectorAnchor]
  cases hpair : (hintedPair target vectorSize
      { signature, scanner := none, alignment := .x1, hints,
        cmpIndex := signature.findIdx SignatureElement.all, pairIndex := none }).or
      (firstPair (hints.test .pair0) signature 0) with
  | some i => exact (pairIndex_admissible hpair).1
  | none => exact hsig.allAt

/-- Without an element there is nothing to look for pairs in. -/
theorem applyHints_nil (target : Target) (vectorSize : Nat) {context : ScanContext}
    (hnil : context.signature = []) (hpair : context.pairIndex = none) :
    applyHints target vectorSize context = .error (.index 0) := by
  unfold applyHints
  simp only [hnil, hpair]
  cases getPairHint target context.hints with
  | none => rfl
  | some pairHint =>
    by_cases hc : (!context.hints.test ScanHint.pair0 && vectorSize != 0) = true
    · simp only [if_pos hc]
      rfl
    · simp only [if_neg hc]
      rfl

theorem not_allAt {signature : Signature} (h : ¬ HasFullByte signature) (i : Nat) :
    ¬ AllAt signature i := by
  intro hall
  obtain ⟨e, he, heall⟩ := hall
  exact h ⟨e, List.mem_of_getElem? he, heall⟩

/-- **Without a fully masked element**, what `create` makes has no anchor. -/
theorem create_of_not_hasFullByte {target : Target} {mode : ScanMode} {signature : Signature}
    {alignment : ScanAlignment} {hints : ScanHint} {context : ScanContext}
    (hsig : ¬ HasFullByte signature)
    (hcreate : ScanContext.create target mode signature alignment hints = .ok context) :
    context.signature = signature ∧ context.cmpIndex = signature.length ∧
      context.scanner = some (scannerFor (effectiveMode target mode) alignment false
        signature.length) := by
  have hcmp : signature.findIdx SignatureElement.all = signature.length := by
    apply List.findIdx_eq_length_of_false
    intro e he
    exact Bool.eq_false_iff.mpr fun hall => hsig ⟨e, he, hall⟩
  unfold ScanContext.create resolveScanner at hcreate
  cases heff : effectiveMode target mode <;> simp only [heff] at hcreate
  case auto | single =>
    simp only [resolveScannerSingle, pure_eq_ok, ok_bind, Except.ok.injEq] at hcreate
    subst hcreate
    exact ⟨rfl, hcmp, rfl⟩
  all_goals
    simp only [resolveScannerSse, resolveScannerAvx2, resolveScannerAvx512, resolveScannerNeon,
      resolveVectorScanner] at hcreate
    by_cases hnil : signature = []
    · rw [applyHints_nil _ _ hnil rfl] at hcreate
      exact absurd hcreate (by intro h; cases h)
    · rw [applyHints_eq _ _ hnil rfl] at hcreate
      have hpair : ∀ o : Option Nat, (∀ i, o = some i → AllAt signature i) → o = none := by
        intro o ho
        exact Option.eq_none_iff_forall_ne_some.mpr fun i hi => not_allAt hsig i (ho i hi)
      rw [hpair _ fun i hi => (pairIndex_admissible hi).1] at hcreate
      simp only [pure_eq_ok, ok_bind, Except.ok.injEq] at hcreate
      subst hcreate
      exact ⟨rfl, hcmp, rfl⟩

/-- **`create` only fails** for the empty signature, in which a vector scanner looks for pairs. -/
theorem create_ok_iff {target : Target} {mode : ScanMode} {signature : Signature}
    {alignment : ScanAlignment} {hints : ScanHint} :
    (∃ context, ScanContext.create target mode signature alignment hints = .ok context) ↔
      signature ≠ [] ∨ effectiveMode target mode = .single ∨ effectiveMode target mode = .auto := by
  unfold ScanContext.create resolveScanner
  cases heff : effectiveMode target mode
  case auto => exact iff_of_true ⟨_, rfl⟩ (Or.inr (Or.inr rfl))
  case single => exact iff_of_true ⟨_, rfl⟩ (Or.inr (Or.inl rfl))
  all_goals
    simp only [resolveScannerSse, resolveScannerAvx2, resolveScannerAvx512, resolveScannerNeon,
      resolveVectorScanner]
    by_cases hnil : signature = []
    · rw [applyHints_nil _ _ hnil rfl]
      refine iff_of_false (fun h => ?_) (fun h => ?_)
      · obtain ⟨context, hcontext⟩ := h
        cases hcontext
      · rcases h with h | h | h
        · exact h hnil
        · cases h
        · cases h
    · rw [applyHints_eq _ _ hnil rfl]
      exact iff_of_true ⟨_, rfl⟩ (Or.inl hnil)

theorem autoMode_ne_auto (target : Target) : autoMode target ≠ .auto := by
  rw [autoMode]
  split_ifs <;> decide

end Libhat

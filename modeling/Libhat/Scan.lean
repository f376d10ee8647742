import Libhat.Neon
import Libhat.X86

/-!
# Scans

A scan creates a context for a mode and calls the scanner that the context
holds.  `scan_ok` puts the backends together: with a fully masked element in the
signature and `MasksDefined`, every mode of every target returns the first of the
`Hits`, without a fault on the way.

* `scan_x86_first`, `scan_neon_first_iff`, `scan_single_first`: the result of each
  backend.  A Neon scan multiplies its anchor, and the product can leave `int`.
* `scan_reads_inside`: no backend reads a byte outside of its range.
-/

namespace Libhat

open FirstHit

/-- The call of a `scan_function_t`. -/
def ScanFunction.call (scanner : ScanFunction) (m : Memory) (first last : Nat)
    (context : ScanContext) : Exec ScanResult :=
  match scanner with
  | .findPatternSingle alignment => Libhat.findPatternSingle alignment m first last context
  | .findPatternSse alignment cmpeq2 veccmp =>
    Libhat.findPatternSse alignment cmpeq2 veccmp m first last context
  | .findPatternAvx2 alignment cmpeq2 veccmp =>
    Libhat.findPatternAvx2 alignment cmpeq2 veccmp m first last context
  | .findPatternAvx512 alignment cmpeq2 veccmp =>
    Libhat.findPatternAvx512 alignment cmpeq2 veccmp m first last context
  | .findPatternNeon alignment cmpeq2 veccmp =>
    Libhat.findPatternNeon alignment cmpeq2 veccmp m first last context

/-- `scan_context::scan`. -/
def ScanContext.scan (context : ScanContext) (m : Memory) (first last : Nat) : Exec ScanResult :=
  if context.signature.length > last - first then
    pure none
  else
    match context.scanner with
    | some scanner => scanner.call m first last context
    | none => .error .nullCall

/-- `find_pattern`: a scan in the mode `Auto`. -/
def findPattern (target : Target) (m : Memory) (first last : Nat) (signature : Signature)
    (alignment : ScanAlignment) (hints : ScanHint) : Exec ScanResult := do
  let context ← ScanContext.create target .auto signature alignment hints
  context.scan m first last

/-! ### Every mode finds the first hit -/

section

variable {target : Target} {mode : ScanMode} {m : Memory} {first last : Nat}
  {signature : Signature} {alignment : ScanAlignment} {hints : ScanHint}

/-- **The scanner of a mode finds the first hit** in a range with room for the
signature, if the masks of a Neon scanner are defined or it reaches no block. -/
theorem scannerFor_call_ok (mode : ScanMode) (alignment : ScanAlignment) {context : ScanContext}
    (hctx : context.Anchored) (hsize : first + context.signature.length ≤ last)
    (hdef : mode = .neon →
      BlockReached 16 (decide (context.signature.length ≤ 16)) m first last context.signature
        alignment context.anchor → Neon.Defined alignment context.anchor)
    (hread : m.Readable first last) :
    ∃ r, (scannerFor mode alignment context.pairIndex.isSome context.signature.length).call
        m first last context = .ok r ∧
      IsFirst (Hits m context.signature alignment.toStride first last) r := by
  have htrivial : ∀ {P : Prop}, P → True := fun _ => trivial
  cases mode with
  | auto => exact findPatternSingle_ok alignment hctx hsize hread
  | single => exact findPatternSingle_ok alignment hctx hsize hread
  | sse => exact findPatternVector_ok X86.sse_lawful hctx rfl of_decide_eq_true htrivial hread
  | avx2 => exact findPatternVector_ok X86.avx2_lawful hctx rfl of_decide_eq_true htrivial hread
  | avx512 =>
    exact findPatternVector_ok X86.avx512_lawful hctx rfl of_decide_eq_true htrivial hread
  | neon =>
    exact findPatternVector_ok Neon.neon_lawful hctx rfl of_decide_eq_true (hdef rfl) hread

/-- A range too short for the signature has no hit. -/
theorem hits_eq_empty (h : last < first + signature.length) :
    Hits m signature alignment.toStride first last = ∅ := by
  apply Set.eq_empty_iff_forall_notMem.mpr
  intro p hp
  obtain ⟨h1, h2, _⟩ := hp
  omega

/-- What `create` hands to a scan of the mode `mode`. -/
structure ScanContext.Ready (context : ScanContext) (mode : ScanMode) (signature : Signature)
    (alignment : ScanAlignment) : Prop where
  signature_eq : context.signature = signature
  anchored : context.Anchored
  scanner_eq : context.scanner
    = some (scannerFor mode alignment context.pairIndex.isSome signature.length)

theorem create_ready (target : Target) (mode : ScanMode) (alignment : ScanAlignment)
    (hints : ScanHint) (hsig : HasFullByte signature) :
    ∃ context, ScanContext.create target mode signature alignment hints = .ok context ∧
      context.Ready (effectiveMode target mode) signature alignment := by
  obtain ⟨context, hcreate, hsigEq, _, hanchored, hscanner⟩ :=
    create_ok target mode alignment hints hsig
  exact ⟨context, hcreate, hsigEq, hanchored, hscanner⟩

/-- **A ready context finds the first hit**, in every readable range, if the masks of the Neon
scanner are defined or no block is reached. -/
theorem ScanContext.Ready.scan_ok {context : ScanContext}
    (h : context.Ready mode signature alignment)
    (hdef : mode = .neon →
      BlockReached 16 (decide (signature.length ≤ 16)) m first last signature alignment
        context.anchor → Neon.Defined alignment context.anchor)
    (hread : m.Readable first last) :
    ∃ r, context.scan m first last = .ok r ∧
      IsFirst (Hits m signature alignment.toStride first last) r := by
  obtain ⟨rfl, hanchored, hscanner⟩ := h
  by_cases hshort : context.signature.length > last - first
  · have hpos := hanchored.cmp.lt
    refine ⟨none, by rw [ScanContext.scan, if_pos hshort]; rfl, ?_⟩
    exact hits_eq_empty (by omega)
  · have hpos := hanchored.cmp.lt
    obtain ⟨r, hr, hfirst⟩ := scannerFor_call_ok mode alignment hanchored (by omega) hdef hread
    exact ⟨r, by rw [ScanContext.scan, if_neg hshort, hscanner]; exact hr, hfirst⟩

/-- **A Neon scan overflows** when it reaches a block and its mask is not defined. -/
theorem ScanContext.Ready.scan_overflow {context : ScanContext}
    (h : context.Ready .neon signature alignment)
    (hreached : BlockReached 16 (decide (signature.length ≤ 16)) m first last signature alignment
      context.anchor)
    (hdef : ¬ Neon.Defined alignment context.anchor) (hread : m.Readable first last) :
    context.scan m first last = .error .overflow := by
  obtain ⟨rfl, hanchored, hscanner⟩ := h
  have hroom := hreached.room (by decide) of_decide_eq_true
  rw [ScanContext.scan, if_neg (by omega), hscanner]
  exact findPatternVector_fault (by decide) hanchored rfl of_decide_eq_true
    (fun _ _ _ hblock => Neon.blockMask_overflow _ _ _ hdef hblock) hreached hread

/-- The masks of a scan with these arguments are defined.  Only the Neon scanner multiplies
its anchor. -/
def MasksDefined (target : Target) (mode : ScanMode) (signature : Signature)
    (alignment : ScanAlignment) (hints : ScanHint) : Prop :=
  effectiveMode target mode = .neon →
    Neon.Defined alignment (vectorAnchor target 16 signature hints)

theorem masksDefined_x1 (target : Target) (mode : ScanMode) (signature : Signature)
    (hints : ScanHint) : MasksDefined target mode signature .x1 hints := fun _ => Or.inl rfl

/-- Every signature of up to `2 ^ 29` elements has defined masks. -/
theorem masksDefined_of_length (target : Target) (mode : ScanMode) (alignment : ScanAlignment)
    (hints : ScanHint) (hsig : HasFullByte signature) (hlen : signature.length ≤ 2 ^ 29) :
    MasksDefined target mode signature alignment hints := by
  intro _
  have hlt := (allAt_vectorAnchor target 16 hints hsig).lt
  exact Or.inr (Neon.rotationFits_of_lt (by omega))

/-- A context whose scans find the first hit of the signature in every readable range. -/
def ScanContext.FindsFirst (context : ScanContext) (signature : Signature)
    (alignment : ScanAlignment) : Prop :=
  ∀ {m : Memory} {first last : Nat}, m.Readable first last →
    ∃ r, context.scan m first last = .ok r ∧
      IsFirst (Hits m signature alignment.toStride first last) r

/-- **What `create` makes finds the first hit**, if the masks are defined. -/
theorem create_findsFirst (target : Target) (mode : ScanMode) (alignment : ScanAlignment)
    (hints : ScanHint) (hsig : HasFullByte signature)
    (hdef : MasksDefined target mode signature alignment hints) :
    ∃ context, ScanContext.create target mode signature alignment hints = .ok context ∧
      context.Ready (effectiveMode target mode) signature alignment ∧
      context.FindsFirst signature alignment := by
  obtain ⟨context, hcreate, hready⟩ := create_ready target mode alignment hints hsig
  refine ⟨context, hcreate, hready, fun hread => hready.scan_ok (fun hmode _ => ?_) hread⟩
  rw [create_anchor hsig hmode hcreate]
  exact hdef hmode

/-- **`find_pattern` returns the first hit.** -/
theorem findPattern_ok (target : Target) (alignment : ScanAlignment) (hints : ScanHint)
    (hsig : HasFullByte signature) (hdef : MasksDefined target .auto signature alignment hints)
    (hread : m.Readable first last) :
    ∃ r, findPattern target m first last signature alignment hints = .ok r ∧
      IsFirst (Hits m signature alignment.toStride first last) r := by
  obtain ⟨context, hcreate, _, hfinds⟩ :=
    create_findsFirst target .auto alignment hints hsig hdef
  obtain ⟨r, hr, hfirst⟩ := hfinds hread
  exact ⟨r, by rw [findPattern, hcreate]; exact hr, hfirst⟩

/-- **A range too short** for the signature is not scanned. -/
theorem scan_short {context : ScanContext} (h : last - first < context.signature.length) :
    context.scan m first last = .ok none := by
  rw [ScanContext.scan, if_pos h]
  rfl

/-- **Without a fully masked element** a scan of a range that is long enough fails: the anchor is
past the end of the signature. -/
theorem scan_of_not_hasFullByte {context : ScanContext} (hsig : ¬ HasFullByte signature)
    (hcreate : ScanContext.create target mode signature alignment hints = .ok context)
    (hlong : signature.length ≤ last - first) :
    context.scan m first last = .error (.index context.cmpIndex) := by
  obtain ⟨hsignature, hcmp, hscanner⟩ := create_of_not_hasFullByte hsig hcreate
  have hread : elementAt context.signature context.cmpIndex
      = .error (.index context.cmpIndex) := by
    rw [elementAt, List.getElem?_eq_none (by rw [hsignature, hcmp])]
  have hsingle : ∀ alignment, findPatternSingle alignment m first last context
      = .error (.index context.cmpIndex) := by
    intro alignment
    cases alignment
    · rw [findPatternSingle, findPatternSingleX1, hread]
      rfl
    · rw [findPatternSingle, findPatternSingleStrided, hread]
      rfl
    · rw [findPatternSingle, findPatternSingleStrided, hread]
      rfl
  have hvector : ∀ {V W : Nat} (backend : VectorBackend V W) alignment veccmp,
      findPatternVector backend alignment false veccmp m first last context
        = .error (.index context.cmpIndex) := by
    intro V W backend alignment veccmp
    rw [findPatternVector]
    simp only [Bool.false_eq_true, if_false, pure_eq_ok, ok_bind, hread]
    rfl
  rw [ScanContext.scan, if_neg (by rw [hsignature]; omega), hscanner]
  cases effectiveMode target mode with
  | auto => exact hsingle _
  | single => exact hsingle _
  | sse => exact hvector X86.sse _ _
  | avx2 => exact hvector X86.avx2 _ _
  | avx512 => exact hvector X86.avx512 _ _
  | neon => exact hvector Neon.backend _ _

/-! ### The backends -/

/-- **An x86 scan returns the first hit**: the smallest aligned address in the
range at which the whole signature fits and matches, or null. -/
theorem scan_x86_first (target : Target) (hmode : mode = .sse ∨ mode = .avx2 ∨ mode = .avx512)
    (alignment : ScanAlignment) (hints : ScanHint) (hsig : HasFullByte signature)
    (hread : m.Readable first last) :
    ∃ context r, ScanContext.create target mode signature alignment hints = .ok context ∧
      context.scanner = some (scannerFor mode alignment context.pairIndex.isSome signature.length) ∧
      context.scan m first last = .ok r ∧
      IsFirst {p | first ≤ p ∧ p + signature.length ≤ last ∧ alignment.toStride ∣ p ∧
        MatchesAt m signature p} r := by
  have heff : effectiveMode target mode = mode ∧ mode ≠ .neon := by
    rcases hmode with rfl | rfl | rfl <;> exact ⟨rfl, by decide⟩
  have hdef : MasksDefined target mode signature alignment hints :=
    fun h => absurd (heff.1.symm.trans h) heff.2
  obtain ⟨context, hcreate, hready, hfinds⟩ :=
    create_findsFirst target mode alignment hints hsig hdef
  obtain ⟨r, hr, hfirst⟩ := hfinds hread
  rw [heff.1] at hready
  exact ⟨context, r, hcreate, hready.scanner_eq, hr, hfirst⟩

/-- Five vectors of 32 bytes: a decoy at `1040`, and a match at `1100`. -/
def sampleMemory : Memory := fun a =>
  if 1000 ≤ a ∧ a < 1164 then
    some (if a = 1040 ∨ a = 1100 then 0x12 else if a = 1102 then 0x56 else 0x00)
  else none

def sampleSignature : Signature := [.ofByte 0x12, .wildcard, .ofByte 0x56]

theorem sampleSignature_hasFullByte : HasFullByte sampleSignature :=
  ⟨_, List.mem_cons_self, by decide⟩

theorem sampleMemory_readable : sampleMemory.Readable 1000 1164 :=
  fun _ h h' => ⟨_, if_pos ⟨h, h'⟩⟩

/-- The only match is that of the byte `0x56` two places on. -/
theorem sampleMemory_isFirst : IsFirst {p | 1000 ≤ p ∧ p + sampleSignature.length ≤ 1164 ∧ 4 ∣ p ∧
    MatchesAt sampleMemory sampleSignature p} (some 1100) := by
  refine ⟨⟨by decide, by decide, by decide, fun j hj => ?_⟩, fun p hp => ?_⟩
  · obtain rfl | rfl | rfl : j = 0 ∨ j = 1 ∨ j = 2 := by
      have hj' : j < 3 := hj
      omega
    · exact ⟨0x12, rfl, show (SignatureElement.ofByte 0x12).accepts 0x12 = true by decide⟩
    · exact ⟨0x00, rfl, show SignatureElement.wildcard.accepts 0x00 = true by decide⟩
    · exact ⟨0x56, rfl, show (SignatureElement.ofByte 0x56).accepts 0x56 = true by decide⟩
  · obtain ⟨_, _, _, hmatch⟩ := hp
    obtain ⟨b, hb, hacc⟩ := hmatch 2 (by decide)
    have hb56 : b = 0x56 := (SignatureElement.accepts_of_all (by decide)).mp hacc
    rw [hb56, sampleMemory] at hb
    split_ifs at hb with hrange hdecoy hbyte
    · exact absurd hb (by decide)
    · have hp2 : p + 2 = 1102 := hbyte
      omega
    · exact absurd hb (by decide)

theorem scan_x86_first_sample :
    ∃ context, ScanContext.create default .avx2 sampleSignature .x4 0 = .ok context ∧
      context.scanner = some (scannerFor .avx2 .x4 context.pairIndex.isSome 3) ∧
      context.scan sampleMemory 1000 1164 = .ok (some 1100) := by
  obtain ⟨context, r, hcreate, hscanner, hr, hfirst⟩ := scan_x86_first default
    (Or.inr (Or.inl rfl)) .x4 0 sampleSignature_hasFullByte sampleMemory_readable
  exact ⟨context, hcreate, hscanner, by rw [hr, hfirst.unique sampleMemory_isFirst]⟩

/-- **When a Neon scan returns the first hit**, and the loop over the mask of every block
takes the lanes that pass the filter one after the other: the scan is unaligned, four times
its anchor is an `int`, or it reaches no block. -/
theorem scan_neon_first_iff (target : Target) (alignment : ScanAlignment) (hints : ScanHint)
    (hsig : HasFullByte signature) (hread : m.Readable first last) :
    ((∃ context r, ScanContext.create target .neon signature alignment hints = .ok context ∧
      context.scanner
        = some (scannerFor .neon alignment context.pairIndex.isSome signature.length) ∧
      context.scan m first last = .ok r ∧
      IsFirst {p | first ≤ p ∧ p + signature.length ≤ last ∧ alignment.toStride ∣ p ∧
        MatchesAt m signature p} r) ∧
    ∀ (cmpeq2 : Bool) (b₁ b₂ : Byte) (cmpIndex it : Nat) (mask : BitVec 64), 16 ∣ it →
      cmpIndex ≤ it → m.Readable it (it + 16 + 1) →
      Neon.blockMask alignment cmpeq2 m (Vec.set1 b₁) (Vec.set1 b₂) cmpIndex it = .ok mask →
      ∀ (compare : Nat → Exec Bool) (lanes : List Nat),
        lanes = Neon.candidates alignment cmpeq2 m b₁ b₂ cmpIndex it →
        (∀ o ∈ lanes, ∃ b, compare (it + o - cmpIndex) = .ok b) →
        visitedLanes Neon.backend compare cmpIndex it 65 mask
            = lanes.take (lanes.findIdx (accepted compare cmpIndex it) + 1) ∧
          Loop.run .budget (laneStep Neon.backend compare cmpIndex it) 65 mask
            = .ok ((lanes.find? (accepted compare cmpIndex it)).map
                fun o => it + o - cmpIndex)) ↔
    (alignment = .x1 ∨ Neon.RotationFits (vectorAnchor target 16 signature hints) ∨
      ¬ BlockReached 16 (decide (signature.length ≤ 16)) m first last signature alignment
        (vectorAnchor target 16 signature hints)) := by
  obtain ⟨context, hcreate, hready⟩ := create_ready target .neon alignment hints hsig
  rw [← create_anchor hsig rfl hcreate]
  constructor
  · intro h
    obtain ⟨⟨context', r, hcreate', _, hr, _⟩, _⟩ := h
    obtain rfl : context' = context := Except.ok.inj (hcreate'.symm.trans hcreate)
    by_contra hno
    obtain ⟨hx1, hfits, hreached⟩ : alignment ≠ .x1 ∧ ¬ Neon.RotationFits context'.anchor ∧
        BlockReached 16 (decide (signature.length ≤ 16)) m first last signature alignment
          context'.anchor := by
      simpa only [not_or, not_not] using hno
    have hover := hready.scan_overflow hreached (fun h => h.elim hx1 hfits) hread
    rw [hover] at hr
    cases hr
  · intro h
    obtain ⟨r, hr, hfirst⟩ := hready.scan_ok (fun _ hreached => by
      rcases h with hx1 | hfits | hno
      · exact Or.inl hx1
      · exact Or.inr hfits
      · exact absurd hreached hno) hread
    refine ⟨⟨context, r, hcreate, hready.scanner_eq, hr, hfirst⟩, ?_⟩
    intro cmpeq2 b₁ b₂ cmpIndex it mask hit hc hblock hmask compare lanes hl hcompare
    exact Neon.blockMask_visits hit hc hblock hmask hl hcompare

theorem scan_neon_first_iff_sample :
    (∃ context, ScanContext.create default .neon sampleSignature .x4 0 = .ok context ∧
      context.scanner = some (scannerFor .neon .x4 context.pairIndex.isSome 3) ∧
      context.scan sampleMemory 1000 1164 = .ok (some 1100)) ∧
    ∀ mask, Neon.blockMask .x4 false (Memory.ofBytes 1000 (List.replicate 40 0x12))
        (Vec.set1 0x12) (Vec.set1 0x00) 0 1008 = .ok mask →
      visitedLanes Neon.backend (fun _ => .ok false) 0 1008 65 mask = [0, 4, 8, 12] := by
  have hfits : Neon.RotationFits (vectorAnchor default 16 sampleSignature 0) := by decide
  obtain ⟨⟨context, r, hcreate, hscanner, hr, hfirst⟩, _⟩ := (scan_neon_first_iff default .x4 0
    sampleSignature_hasFullByte sampleMemory_readable).mpr (Or.inr (Or.inl hfits))
  have hread := Memory.readable_ofBytes 1000 (List.replicate 40 0x12)
  obtain ⟨_, hloop⟩ := (scan_neon_first_iff default .x4 0 sampleSignature_hasFullByte hread).mpr
    (Or.inr (Or.inl hfits))
  refine ⟨⟨context, hcreate, hscanner, by rw [hr, hfirst.unique sampleMemory_isFirst]⟩, ?_⟩
  intro mask hmask
  rw [(hloop false 0x12 0x00 0 1008 mask (by decide) (by decide)
    (hread.mono (by decide) (by decide)) hmask (fun _ => .ok false) _ rfl
    fun _ _ => ⟨false, rfl⟩).1]
  decide

/-- `n` wildcards and one byte. -/
def lateSignature (n : Nat) : Signature := List.replicate n .wildcard ++ [.ofByte 0x12]

theorem lateSignature_length (n : Nat) : (lateSignature n).length = n + 1 := by
  rw [lateSignature, List.length_append, List.length_replicate, List.length_singleton]

theorem lateSignature_hasFullByte (n : Nat) : HasFullByte (lateSignature n) :=
  ⟨.ofByte 0x12, List.mem_append_right _ List.mem_cons_self, by decide⟩

theorem allAt_lateSignature {n i : Nat} (h : AllAt (lateSignature n) i) : i = n := by
  have hlt := h.lt
  rw [lateSignature_length] at hlt
  obtain ⟨e, he, hall⟩ := h
  by_contra hne
  rw [lateSignature, List.getElem?_append_left (by rw [List.length_replicate]; omega),
    List.getElem?_replicate_of_lt (by omega)] at he
  cases he
  exact absurd hall (by decide)

/-- No byte of a zeroed memory is the last one of the signature. -/
theorem not_matchesAt_lateSignature (n p : Nat) :
    ¬ MatchesAt (fun _ => some 0#8) (lateSignature n) p := by
  intro h
  have hall : AllAt (lateSignature n) n := by
    obtain ⟨i, hi⟩ : ∃ i, AllAt (lateSignature n) i :=
      ⟨_, (lateSignature_hasFullByte n).allAt⟩
    rwa [allAt_lateSignature hi] at hi
  obtain ⟨e, he, _⟩ := hall
  obtain ⟨b, hb, hacc⟩ := h n (by rw [lateSignature_length]; omega)
  cases hb
  have hlast : (lateSignature n)[n]? = some (.ofByte 0x12) := by
    rw [lateSignature, List.getElem?_append_right (by rw [List.length_replicate]),
      List.length_replicate, Nat.sub_self]
    rfl
  rw [(List.getElem?_eq_some_iff.mp hlast).2] at hacc
  exact absurd hacc (by decide)

/-- The anchor `2 ^ 29`: four times it is `2 ^ 31`, and the scan of two gigabytes that hold no
match overflows at its first block. -/
theorem scan_neon_overflows :
    HasFullByte (lateSignature (2 ^ 29)) ∧
    Memory.Readable (fun _ => some 0#8) 4096 (4096 + 2 ^ 31) ∧
    (∃ context, ScanContext.create default .neon (lateSignature (2 ^ 29)) .x4 0 = .ok context ∧
      context.scan (fun _ => some 0#8) 4096 (4096 + 2 ^ 31) = .error .overflow) ∧
    ¬ ∃ context r, ScanContext.create default .neon (lateSignature (2 ^ 29)) .x4 0 = .ok context ∧
      context.scan (fun _ => some 0#8) 4096 (4096 + 2 ^ 31) = .ok r ∧
      IsFirst {p | 4096 ≤ p ∧ p + (lateSignature (2 ^ 29)).length ≤ 4096 + 2 ^ 31 ∧ 4 ∣ p ∧
        MatchesAt (fun _ => some 0#8) (lateSignature (2 ^ 29)) p} r := by
  have hsig := lateSignature_hasFullByte (2 ^ 29)
  have hread : Memory.Readable (fun _ => some 0#8) 4096 (4096 + 2 ^ 31) :=
    fun _ _ _ => ⟨0#8, rfl⟩
  obtain ⟨context, hcreate, hready⟩ := create_ready default .neon .x4 0 hsig
  have hanchor : context.anchor = 2 ^ 29 := by
    rw [create_anchor hsig rfl hcreate]
    exact allAt_lateSignature (allAt_vectorAnchor default 16 0 hsig)
  have hreached : BlockReached 16 (decide ((lateSignature (2 ^ 29)).length ≤ 16))
      (fun _ => some 0#8) 4096 (4096 + 2 ^ 31) (lateSignature (2 ^ 29)) .x4 context.anchor := by
    rw [BlockReached, hanchor, lateSignature_length]
    exact ⟨by decide, fun p _ _ => not_matchesAt_lateSignature _ p⟩
  have hover := hready.scan_overflow hreached (by rw [hanchor]; decide) hread
  refine ⟨hsig, hread, ⟨context, hcreate, hover⟩, fun h => ?_⟩
  obtain ⟨context', r, hcreate', hr, _⟩ := h
  obtain rfl : context' = context := Except.ok.inj (hcreate'.symm.trans hcreate)
  rw [hover] at hr
  cases hr

/-- **The scalar scan returns the first hit**, and null for a range that is too
short or in which no aligned start has room for the signature. -/
theorem scan_single_first (target : Target) (alignment : ScanAlignment) (hints : ScanHint)
    (hsig : HasFullByte signature) (hread : m.Readable first last) :
    ∃ context r, ScanContext.create target .single signature alignment hints = .ok context ∧
      context.scanner = some (.findPatternSingle alignment) ∧
      context.scan m first last = .ok r ∧
      IsFirst {p | first ≤ p ∧ p + signature.length ≤ last ∧ alignment.toStride ∣ p ∧
        MatchesAt m signature p} r ∧
      (last - first < signature.length → r = none) ∧
      ((∀ p, first ≤ p → alignment.toStride ∣ p → last < p + signature.length) → r = none) := by
  obtain ⟨context, hcreate, hready, hfinds⟩ :=
    create_findsFirst target .single alignment hints hsig (fun h => by cases h)
  obtain ⟨r, hr, hfirst⟩ := hfinds hread
  have hnone : (∀ p, first ≤ p → alignment.toStride ∣ p → last < p + signature.length) →
      r = none := by
    intro hroom
    cases r with
    | none => rfl
    | some p =>
      obtain ⟨h1, h2, h3, _⟩ := (isFirst_some.mp hfirst).1
      have := hroom p h1 h3
      omega
  exact ⟨context, r, hcreate, hready.scanner_eq, hr, hfirst,
    fun hshort => hnone fun p hp _ => by omega, hnone⟩

/-- The match of the sample, and a range too short for the signature. -/
theorem scan_single_first_sample :
    ∃ context, ScanContext.create default .single sampleSignature .x4 0 = .ok context ∧
      context.scanner = some (.findPatternSingle .x4) ∧
      context.scan sampleMemory 1000 1164 = .ok (some 1100) ∧
      context.scan sampleMemory 1100 1102 = .ok none := by
  obtain ⟨context, r, hcreate, hscanner, hr, hfirst, _⟩ := scan_single_first default .x4 0
    sampleSignature_hasFullByte sampleMemory_readable
  obtain ⟨context', r', hcreate', _, hr', _, hshort, _⟩ := scan_single_first default .x4 0
    sampleSignature_hasFullByte (sampleMemory_readable.mono (by decide : 1000 ≤ 1100)
      (by decide : 1102 ≤ 1164))
  obtain rfl : context' = context := Except.ok.inj (hcreate'.symm.trans hcreate)
  exact ⟨context', hcreate, hscanner, by rw [hr, hfirst.unique sampleMemory_isFirst],
    by rw [hr', hshort (by decide)]⟩

/-- **No scan reads a byte outside of its range.**  Where only the bytes of the range can be read,
a scan does what it does in the whole memory, and every load and every store of it succeeds: it
returns, or a Neon scan stops at the product of its anchor. -/
theorem scan_reads_inside (target : Target) (mode : ScanMode) (alignment : ScanAlignment)
    (hints : ScanHint) (hsig : HasFullByte signature) (hread : m.Readable first last) :
    ∃ context, ScanContext.create target mode signature alignment hints = .ok context ∧
      context.scanner = some (scannerFor (effectiveMode target mode) alignment
        context.pairIndex.isSome signature.length) ∧
      context.scan (m.restrict first last) first last = context.scan m first last ∧
      ((∃ r, context.scan m first last = .ok r) ∨
        (context.scan m first last = .error .overflow ∧ effectiveMode target mode = .neon ∧
          ¬ Neon.Defined alignment (vectorAnchor target 16 signature hints))) := by
  obtain ⟨context, hcreate, hready⟩ := create_ready target mode alignment hints hsig
  refine ⟨context, hcreate, hready.scanner_eq, ?_⟩
  have hrestrict : BlockReached 16 (decide (signature.length ≤ 16)) (m.restrict first last) first
        last signature alignment context.anchor
      ↔ BlockReached 16 (decide (signature.length ≤ 16)) m first last signature alignment
        context.anchor :=
    blockReached_restrict (by decide) (List.length_pos_iff.mpr hsig.ne_nil) of_decide_eq_true
  by_cases hover : effectiveMode target mode = .neon ∧
      BlockReached 16 (decide (signature.length ≤ 16)) m first last signature alignment
        context.anchor ∧ ¬ Neon.Defined alignment context.anchor
  · obtain ⟨hmode, hreached, hdef⟩ := hover
    rw [hmode] at hready
    have hrun := hready.scan_overflow hreached hdef hread
    have hrun' := hready.scan_overflow (hrestrict.mpr hreached) hdef hread.restrict
    rw [create_anchor hsig hmode hcreate] at hdef
    exact ⟨hrun'.trans hrun.symm, Or.inr ⟨hrun, hmode, hdef⟩⟩
  · obtain ⟨r, hr, hfirst⟩ := hready.scan_ok (fun hmode hreached => by
      by_contra hdef
      exact hover ⟨hmode, hreached, hdef⟩) hread
    obtain ⟨r', hr', hfirst'⟩ := hready.scan_ok (fun hmode hreached => by
      by_contra hdef
      exact hover ⟨hmode, hrestrict.mp hreached, hdef⟩) hread.restrict
    rw [hits_restrict] at hfirst'
    have hrr : r' = r := hfirst'.unique hfirst
    exact ⟨by rw [hr', hr, hrr], Or.inl ⟨r, hr⟩⟩

theorem scan_reads_inside_sample :
    ∃ context, ScanContext.create default .sse sampleSignature .x4 0 = .ok context ∧
      context.scan (sampleMemory.restrict 1000 1164) 1000 1164
        = context.scan sampleMemory 1000 1164 ∧
      ∃ r, context.scan sampleMemory 1000 1164 = .ok r := by
  obtain ⟨context, hcreate, _, hrestrict, hr⟩ :=
    scan_reads_inside default .sse .x4 0 sampleSignature_hasFullByte sampleMemory_readable
  refine ⟨context, hcreate, hrestrict, ?_⟩
  rcases hr with hr | ⟨_, hmode, _⟩
  · exact hr
  · cases hmode

end

end Libhat

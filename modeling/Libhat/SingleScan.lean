import Libhat.Lib.FirstHit
import Libhat.ScanContext
import Mathlib.Algebra.Order.Group.Nat

/-!
# The scalar scanner

`find_pattern_single` has two bodies.  On alignment 1 it jumps from one
occurrence of the anchor byte to the next with `memchr`; on larger alignments it
visits the aligned starts one by one, and stops when the cursor equals the
rounded-up end.  Both look at the anchor byte first and compare the whole
signature only where it fits.

`Hits m sig stride first last` are the starts a scan looks for, and
`findPatternSingle_ok` says that the scalar scanner returns the first of them.
-/

namespace Libhat

open FirstHit

/-- What `find_pattern` returns: `none` is the null pointer. -/
abbrev ScanResult := Option Nat

/-- The aligned starts in `[first, last)` at which the whole signature matches. -/
def Hits (m : Memory) (signature : Signature) (stride first last : Nat) : Set Nat :=
  {p | first ≤ p ∧ p + signature.length ≤ last ∧ stride ∣ p ∧ MatchesAt m signature p}

theorem hits_restrict (m : Memory) (signature : Signature) (stride first last : Nat) :
    Hits (m.restrict first last) signature stride first last
      = Hits m signature stride first last := by
  ext p
  exact and_congr_right fun h1 => and_congr_right fun h2 => and_congr_right fun _ =>
    matchesAt_restrict h1 h2

/-- `align_up<alignment>`. -/
def alignUp (alignment ptr : Nat) : Nat :=
  let mod := ptr % alignment
  ptr + if mod ≠ 0 then alignment - mod else 0

theorem le_alignUp (alignment ptr : Nat) : ptr ≤ alignUp alignment ptr := Nat.le_add_right _ _

theorem dvd_alignUp {alignment : Nat} (h : 0 < alignment) (ptr : Nat) :
    alignment ∣ alignUp alignment ptr := by
  have hlt := Nat.mod_lt ptr h
  by_cases hmod : ptr % alignment = 0
  · rw [alignUp, hmod, if_neg (by simp), Nat.add_zero]
    exact Nat.dvd_of_mod_eq_zero hmod
  · rw [alignUp, if_pos hmod]
    apply Nat.dvd_of_mod_eq_zero
    have hsum : ptr % alignment + (alignment - ptr % alignment) = alignment := by omega
    rw [← Nat.mod_add_mod, hsum, Nat.mod_self]

/-- A multiple of `d` past another one is at least `d` further. -/
theorem add_le_of_dvd_of_lt {d a b : Nat} (ha : d ∣ a) (hb : d ∣ b) (hlt : a < b) : a + d ≤ b := by
  have hle := Nat.le_of_dvd (by omega) (Nat.dvd_sub hb ha)
  omega

/-- An aligned address at or past `ptr` is at or past `align_up(ptr)`. -/
theorem alignUp_le {alignment ptr q : Nat} (h : 0 < alignment) (hq : alignment ∣ q)
    (hle : ptr ≤ q) : alignUp alignment ptr ≤ q := by
  have hlt := Nat.mod_lt ptr h
  by_contra hn
  have hstep := add_le_of_dvd_of_lt hq (dvd_alignUp h ptr) (by omega)
  simp only [alignUp] at hstep
  split at hstep <;> omega

/-- `std::memchr`: the first of `n` bytes from `p` on that equals `c`.  The bytes
are read one after the other, up to the one that is found. -/
def memchr (m : Memory) (c : Byte) : Nat → Nat → Exec (Option Nat)
  | _, 0 => pure none
  | p, n + 1 => do
    let b ← m.read p
    if b = c then pure (some p) else memchr m c (p + 1) n

/-- The loop body of `find_pattern_single<alignment>`. -/
def stridedStep (m : Memory) (signature : Signature) (cmpByte : Byte)
    (cmpIndex stride scanEnd i : Nat) : Exec (Loop.Step Nat ScanResult) := do
  if i = scanEnd then
    return .done none
  if (← m.read i) = cmpByte then
    let start := i - cmpIndex
    if ← stdEqual m signature start then
      return .done (some start)
  return .next (i + stride)

/-- The primary template of `find_pattern_single`. -/
def findPatternSingleStrided (m : Memory) (stride first last : Nat) (context : ScanContext) :
    Exec ScanResult := do
  let signature := context.signature
  let cmpByte := (← elementAt signature context.cmpIndex).value
  let scanBegin := alignUp stride first + context.cmpIndex
  let scanEnd := alignUp stride (last - signature.length + 1) + context.cmpIndex
  if scanBegin ≥ scanEnd then
    return none
  Loop.run .budget (stridedStep m signature cmpByte context.cmpIndex stride scanEnd)
    (scanEnd - scanBegin + 1) scanBegin

/-- The loop body of `find_pattern_single<scan_alignment::X1>`.  The variants that
call `std::find` leave the loop where this one gets a null pointer. -/
def jumpStep (m : Memory) (signature : Signature) (firstByte : Byte)
    (cmpIndex scanEnd i : Nat) : Exec (Loop.Step Nat ScanResult) := do
  if i = scanEnd then
    return .done none
  match ← memchr m firstByte i (scanEnd - i) with
  | none => return .done none
  | some i =>
    let start := i - cmpIndex
    if ← stdEqual m signature start then
      return .done (some start)
    return .next (i + 1)

/-- `find_pattern_single<scan_alignment::X1>`. -/
def findPatternSingleX1 (m : Memory) (first last : Nat) (context : ScanContext) :
    Exec ScanResult := do
  let signature := context.signature
  let firstByte := (← elementAt signature context.cmpIndex).value
  let scanEnd := last - signature.length + 1 + context.cmpIndex
  let i := first + context.cmpIndex
  Loop.run .budget (jumpStep m signature firstByte context.cmpIndex scanEnd) (scanEnd - i + 1) i

/-- `find_pattern_single<alignment>`. -/
def findPatternSingle (alignment : ScanAlignment) (m : Memory) (first last : Nat)
    (context : ScanContext) : Exec ScanResult :=
  match alignment with
  | .x1 => findPatternSingleX1 m first last context
  | .x4 => findPatternSingleStrided m ScanAlignment.x4.toStride first last context
  | .x16 => findPatternSingleStrided m ScanAlignment.x16.toStride first last context

/-! ### Correctness -/

theorem memchr_ok {m : Memory} (c : Byte) : ∀ {n p : Nat}, m.Readable p (p + n) →
    ∃ r, memchr m c p n = .ok r ∧ IsFirst {a | p ≤ a ∧ a < p + n ∧ m a = some c} r := by
  intro n
  induction n with
  | zero =>
    intro p _
    refine ⟨none, rfl, Set.eq_empty_iff_forall_notMem.mpr ?_⟩
    intro a ha
    obtain ⟨h1, h2, _⟩ := ha
    omega
  | succ n ih =>
    intro p hread
    obtain ⟨b, hb⟩ := hread p le_rfl (by omega)
    rw [memchr, Memory.read_of_some hb, ok_bind]
    by_cases hbc : b = c
    · subst hbc
      rw [if_pos rfl]
      exact ⟨some p, rfl, ⟨le_rfl, by omega, hb⟩, fun a ha => ha.1⟩
    · rw [if_neg hbc]
      obtain ⟨r, hr, hfirst⟩ := ih (p := p + 1) (hread.mono (by omega) (by omega))
      refine ⟨r, hr, ?_⟩
      have hset : {a | p ≤ a ∧ a < p + (n + 1) ∧ m a = some c}
          = {a | p + 1 ≤ a ∧ a < p + 1 + n ∧ m a = some c} := by
        ext a
        constructor
        · intro h
          obtain ⟨h1, h2, h3⟩ := h
          have hne : a ≠ p := by
            intro heq
            subst heq
            exact hbc (Option.some.inj (hb.symm.trans h3))
          exact ⟨by omega, by omega, h3⟩
        · intro h
          obtain ⟨h1, h2, h3⟩ := h
          exact ⟨by omega, by omega, h3⟩
      rw [hset]
      exact hfirst

section

variable {m : Memory} {context : ScanContext} {first last stride : Nat}

/-- The hits whose anchor is at or past the cursor `i`. -/
def hitsFrom (m : Memory) (context : ScanContext) (stride first last i : Nat) : Set Nat :=
  {p ∈ Hits m context.signature stride first last | i ≤ p + context.cmpIndex}

theorem hitsFrom_first (m : Memory) (context : ScanContext) {stride first last i : Nat}
    (h : ∀ p ∈ Hits m context.signature stride first last, i ≤ p + context.cmpIndex) :
    hitsFrom m context stride first last i = Hits m context.signature stride first last :=
  Set.sep_eq_self_iff_mem_true.mpr h

/-- A start below which no hit is left and at which there is one is the answer. -/
theorem isFirst_hitsFrom {start : Nat}
    (hhit : start ∈ Hits m context.signature stride first last) :
    IsFirst (hitsFrom m context stride first last (start + context.cmpIndex)) (some start) :=
  ⟨⟨hhit, le_rfl⟩, fun p hp => by have := hp.2; omega⟩

/-- One pass of the strided loop, at a start `s` that fits: it stops there exactly
when the signature matches there. -/
theorem stridedStep_ok {e : SignatureElement} {c s scanEnd : Nat}
    (hanchor : MatchesAt m context.signature s → m (s + c) = some e.value)
    (hc : c < context.signature.length) (hend : s + c ≠ scanEnd)
    (hread : m.Readable s (s + context.signature.length)) :
    (MatchesAt m context.signature s ∧
      stridedStep m context.signature e.value c stride scanEnd (s + c) = .ok (.done (some s))) ∨
    (¬ MatchesAt m context.signature s ∧
      stridedStep m context.signature e.value c stride scanEnd (s + c)
        = .ok (.next (s + c + stride))) := by
  obtain ⟨b, hb⟩ := hread (s + c) (by omega) (by omega)
  obtain ⟨r, hr, hiff⟩ := stdEqual_eq hread
  simp only [stridedStep, if_neg hend, Memory.read_of_some hb, ok_bind, Nat.add_sub_cancel, hr,
    pure_eq_ok]
  by_cases hbe : b = e.value
  · by_cases hrt : r = true
    · exact Or.inl ⟨hiff.mp hrt, by rw [if_pos hbe, if_pos hrt]⟩
    · exact Or.inr ⟨fun h => hrt (hiff.mpr h), by rw [if_pos hbe, if_neg hrt]⟩
  · exact Or.inr ⟨fun h => hbe (Option.some.inj (hb.symm.trans (hanchor h))), by rw [if_neg hbe]⟩

theorem findPatternSingleStrided_ok (hctx : context.Anchored) (hstride : 0 < stride)
    (hsize : first + context.signature.length ≤ last) (hread : m.Readable first last) :
    ∃ r, findPatternSingleStrided m stride first last context = .ok r ∧
      IsFirst (Hits m context.signature stride first last) r := by
  have hc := hctx.cmp.lt
  obtain ⟨e, he, hanchor⟩ := hctx.cmp.eq_of_matchesAt
  simp only [findPatternSingleStrided, he, ok_bind, pure_eq_ok]
  have hE := dvd_alignUp hstride (last - context.signature.length + 1)
  have hB := dvd_alignUp hstride first
  have hBle := le_alignUp stride first
  -- an aligned start below the rounded-up end fits, and one that fits is below it
  have hfit : ∀ s, stride ∣ s → s < alignUp stride (last - context.signature.length + 1) →
      s + context.signature.length ≤ last := by
    intro s hs hlt
    by_contra hgt
    have : alignUp stride (last - context.signature.length + 1) ≤ s :=
      alignUp_le hstride hs (by omega)
    omega
  have hlow : ∀ p ∈ Hits m context.signature stride first last, alignUp stride first ≤ p ∧
      p < alignUp stride (last - context.signature.length + 1) := by
    intro p hp
    obtain ⟨h1, h2, h3, _⟩ := hp
    have := le_alignUp stride (last - context.signature.length + 1)
    exact ⟨alignUp_le hstride h3 h1, by omega⟩
  generalize alignUp stride (last - context.signature.length + 1) = E at *
  generalize alignUp stride first = B at *
  by_cases hempty : B + context.cmpIndex ≥ E + context.cmpIndex
  · rw [if_pos hempty]
    refine ⟨none, rfl, Set.eq_empty_iff_forall_notMem.mpr fun p hp => ?_⟩
    have := hlow p hp
    omega
  rw [if_neg hempty, ← hitsFrom_first m context (i := B + context.cmpIndex) fun p hp => by
    have := hlow p hp; omega]
  refine run_isFirst
    (I := fun i => ∃ s, i = s + context.cmpIndex ∧ stride ∣ s ∧ B ≤ s ∧ s ≤ E)
    (hitsFrom m context stride first last) (fun i => E + context.cmpIndex - i) ?_
    ⟨B, rfl, hB, le_rfl, by omega⟩ (by omega)
  intro i hi
  obtain ⟨s, rfl, hs, hBs, hsE⟩ := hi
  by_cases hend : s + context.cmpIndex = E + context.cmpIndex
  · refine Or.inl ⟨none, by rw [stridedStep, if_pos hend]; rfl,
      Set.eq_empty_iff_forall_notMem.mpr fun p hp => ?_⟩
    have h1 := hlow p hp.1
    have h2 := hp.2
    omega
  have hsn := hfit s hs (by omega)
  rcases stridedStep_ok hanchor hc hend (hread.mono (by omega) hsn) with ⟨hm, hstep⟩ | ⟨hm, hstep⟩
  · exact Or.inl ⟨some s, hstep, isFirst_hitsFrom ⟨by omega, hsn, hs, hm⟩⟩
  · refine Or.inr ⟨_, hstep, ⟨s + stride, by omega, Nat.dvd_add hs (Nat.dvd_refl stride), by omega,
      add_le_of_dvd_of_lt hs hE (by omega)⟩, ?_, by omega⟩
    -- the starts between `s` and `s + stride` are not aligned
    ext p
    refine and_congr_right fun hp => ⟨fun h => by omega, fun h => ?_⟩
    have hne : s ≠ p := fun heq => hm (heq ▸ hp.2.2.2)
    have := add_le_of_dvd_of_lt hs hp.2.2.1 (by omega)
    omega

/-- One pass of the jumping loop: it stops at the first hit whose anchor is at or
past the cursor, or at none if there is none, or drops a start that is no hit. -/
theorem jumpStep_ok (hctx : context.Anchored) {e : SignatureElement} {i : Nat}
    (hanchor : ∀ {p}, MatchesAt m context.signature p → m (p + context.cmpIndex) = some e.value)
    (hsize : first + context.signature.length ≤ last) (hread : m.Readable first last)
    (hi : first + context.cmpIndex ≤ i)
    (hend : i < last - context.signature.length + 1 + context.cmpIndex) :
    (∃ r, jumpStep m context.signature e.value context.cmpIndex
        (last - context.signature.length + 1 + context.cmpIndex) i = .ok (.done r) ∧
      IsFirst (hitsFrom m context 1 first last i) r) ∨
    ∃ a, jumpStep m context.signature e.value context.cmpIndex
        (last - context.signature.length + 1 + context.cmpIndex) i = .ok (.next (a + 1)) ∧
      i ≤ a ∧ a < last - context.signature.length + 1 + context.cmpIndex ∧
      hitsFrom m context 1 first last (a + 1) = hitsFrom m context 1 first last i := by
  have hc := hctx.cmp.lt
  generalize hE : last - context.signature.length + 1 + context.cmpIndex = E at *
  have hrest : m.Readable i (i + (E - i)) := hread.mono (by omega) (by omega)
  obtain ⟨r, hr, hfirst⟩ := memchr_ok e.value hrest
  -- an anchor byte past the cursor is one that `memchr` looks at
  have hmem : ∀ p ∈ hitsFrom m context 1 first last i,
      p + context.cmpIndex ∈ {a | i ≤ a ∧ a < i + (E - i) ∧ m a = some e.value} := by
    intro p hp
    obtain ⟨⟨_, h2, _, h4⟩, h5⟩ := hp
    exact ⟨h5, by omega, hanchor h4⟩
  simp only [jumpStep, if_neg (show ¬ i = E by omega), hr, ok_bind]
  cases r with
  | none =>
    refine Or.inl ⟨none, rfl, Set.eq_empty_iff_forall_notMem.mpr fun p hp => ?_⟩
    have hp' := hmem p hp
    rw [isFirst_none.mp hfirst] at hp'
    exact hp'
  | some a =>
    obtain ⟨⟨hia, haE, hae⟩, hleast⟩ := isFirst_some.mp hfirst
    obtain ⟨s, rfl⟩ : ∃ s, a = s + context.cmpIndex := ⟨a - context.cmpIndex, by omega⟩
    have hsn : s + context.signature.length ≤ last := by omega
    have hstart : m.Readable s (s + context.signature.length) := hread.mono (by omega) hsn
    obtain ⟨b, hb, hiff⟩ := stdEqual_eq hstart
    have hlow : ∀ p ∈ hitsFrom m context 1 first last i, s ≤ p := by
      intro p hp
      have := hleast (hmem p hp)
      omega
    simp only [Nat.add_sub_cancel, hb, ok_bind, pure_eq_ok]
    by_cases hbt : b = true
    · have hhit : s ∈ Hits m context.signature 1 first last :=
        ⟨by omega, hsn, Nat.one_dvd s, hiff.mp hbt⟩
      exact Or.inl ⟨some s, by rw [if_pos hbt], ⟨hhit, hia⟩, hlow⟩
    · refine Or.inr ⟨s + context.cmpIndex, by rw [if_neg hbt], hia, by omega, ?_⟩
      ext p
      refine and_congr_right fun hp => ⟨fun h => by omega, fun h => ?_⟩
      have hsp := hlow p ⟨hp, h⟩
      have hne : s ≠ p := fun heq => hbt (hiff.mpr (heq ▸ hp.2.2.2))
      omega

theorem findPatternSingleX1_ok (hctx : context.Anchored)
    (hsize : first + context.signature.length ≤ last) (hread : m.Readable first last) :
    ∃ r, findPatternSingleX1 m first last context = .ok r ∧
      IsFirst (Hits m context.signature 1 first last) r := by
  have hc := hctx.cmp.lt
  obtain ⟨e, he, hanchor⟩ := hctx.cmp.eq_of_matchesAt
  simp only [findPatternSingleX1, he, ok_bind]
  rw [← hitsFrom_first m context (i := first + context.cmpIndex) fun p hp => by
    have := hp.1; omega]
  refine run_isFirst
    (I := fun i => first + context.cmpIndex ≤ i ∧
      i ≤ last - context.signature.length + 1 + context.cmpIndex)
    (hitsFrom m context 1 first last)
    (fun i => last - context.signature.length + 1 + context.cmpIndex - i) ?_
    ⟨le_rfl, by omega⟩ (by omega)
  intro i hi'
  obtain ⟨hi, hiE⟩ := hi'
  by_cases hend : i = last - context.signature.length + 1 + context.cmpIndex
  · refine Or.inl ⟨none, by rw [jumpStep, if_pos hend]; rfl,
      Set.eq_empty_iff_forall_notMem.mpr fun p hp => ?_⟩
    have h1 := hp.1.2.1
    have h2 := hp.2
    omega
  rcases jumpStep_ok hctx hanchor hsize hread hi (by omega) with h | ⟨a, hstep, hia, haE, hhits⟩
  · exact Or.inl h
  · exact Or.inr ⟨a + 1, hstep, ⟨by omega, by omega⟩, hhits, by omega⟩

/-- **The scalar scanner finds the first hit**, in every range that has room for
the signature. -/
theorem findPatternSingle_ok (alignment : ScanAlignment) (hctx : context.Anchored)
    (hsize : first + context.signature.length ≤ last) (hread : m.Readable first last) :
    ∃ r, findPatternSingle alignment m first last context = .ok r ∧
      IsFirst (Hits m context.signature alignment.toStride first last) r := by
  cases alignment
  case x1 => exact findPatternSingleX1_ok hctx hsize hread
  case x4 => exact findPatternSingleStrided_ok hctx (by decide) hsize hread
  case x16 => exact findPatternSingleStrided_ok hctx (by decide) hsize hread

end

end Libhat

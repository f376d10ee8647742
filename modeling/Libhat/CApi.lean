import Libhat.Scan
import Mathlib.Algebra.Order.BigOperators.Group.List

/-!
# The C interface

The C functions take and return raw pointers.  A handle points to an object whose
first fields are a magic number and a type tag, which the functions check before
they use it.  A `World` is what the pointers may point to: bytes, objects, and
places for results; null is `0`, and what is not null is taken to be valid.

* `libhatCreateSignature_ok`: a pair of arrays with a full mask byte becomes a
  signature object.
* `create_find_pattern`: `libhat_find_pattern` with that object stores the first
  place where the buffer agrees with the bytes under the mask.
-/

namespace Libhat

open FirstHit

/-- `libhat_status`. -/
inductive Status where
  | success
  | errUnknown
  | errSigMissingMaskedByte
  | errSigElementParseError
  | errSigEmptySignature
  | errSigExpectedWildcard
  | errSigInvalidTokenLength
  | errInvalidArgumentValue
  | errInvalidArgumentType
  deriving DecidableEq, Repr

/-- `object_magic`. -/
def objectMagic : BitVec 32 := 0x2C360B8A#32

/-- `libhat_signature::type_id`. -/
def signatureTypeId : BitVec 32 := 0xFD19C2B3#32

/-- What follows the header of an object. -/
inductive Payload where
  | signature (signature : Signature)
  | other

/-- `libhat_ffi_object`, or what is read in its place. -/
structure FfiObject where
  magic : BitVec 32
  type : BitVec 32
  payload : Payload

/-- What pointers may point to. -/
structure World where
  memory : Memory
  objects : Nat → Option FfiObject
  /-- the addresses of the objects that `new` made and `delete` did not free -/
  live : List Nat
  /-- the pointers stored through `signatureOut` and `resultOut` -/
  cells : Nat → Nat

/-- `operator new`: an address that is not null, and not in use. -/
structure Allocator where
  address : World → Nat
  address_ne_null : ∀ w, address w ≠ 0
  address_fresh : ∀ w, address w ∉ w.live

/-- An allocator that never uses an address again. -/
def Allocator.bump : Allocator where
  address w := w.live.sum + 1
  address_ne_null w := Nat.succ_ne_zero _
  address_fresh w h := by
    have := List.single_le_sum (fun x _ => Nat.zero_le x) _ h
    omega

namespace World

/-- `*out = value`. -/
def store (w : World) (out value : Nat) : World :=
  { w with cells := Function.update w.cells out value }

/-- `new libhat_signature{signature}`. -/
def newSignature (allocator : Allocator) (w : World) (signature : Signature) : Nat × World :=
  let p := allocator.address w
  (p, { w with
    objects := Function.update w.objects p
      (some ⟨objectMagic, signatureTypeId, .signature signature⟩)
    live := p :: w.live })

/-- The object behind a handle. -/
def objectAt (w : World) (p : Nat) : Exec FfiObject :=
  match w.objects p with
  | some object => .ok object
  | none => .error (.badObject p)

/-- `check_type(signature)`. -/
def checkSignature (w : World) (p : Nat) : Exec Bool := do
  let object ← w.objectAt p
  return object.magic == objectMagic && object.type == signatureTypeId

/-- `*signature`, as a `hat::signature`. -/
def signatureAt (w : World) (p : Nat) : Exec Signature := do
  let object ← w.objectAt p
  match object.payload with
  | .signature signature => return signature
  | .other => .error (.badObject p)

end World

/-- `to_cpp_align`. -/
def toCppAlign (align : BitVec 32) : Option ScanAlignment :=
  if align = 1#32 then some .x1
  else if align = 4#32 then some .x4
  else if align = 16#32 then some .x16
  else none

/-- `to_cpp_hints`. -/
def toCppHints (hints : BitVec 32) : ScanHint := hints.setWidth 64

/-- The loop of `libhat_create_signature`, for the `n` elements from index `i` on. -/
def createElements (m : Memory) (bytes mask : Nat) :
    Nat → Nat → Signature → Bool → Exec (Signature × Bool)
  | 0, _, signature, containsByte => pure (signature, containsByte)
  | n + 1, i, signature, containsByte => do
    let element := SignatureElement.ofMasked (← m.read (bytes + i)) (← m.read (mask + i))
    createElements m bytes mask n (i + 1) (signature ++ [element]) (containsByte || element.all)

/-- `libhat_create_signature`. -/
def libhatCreateSignature (allocator : Allocator) (w : World) (bytes mask size signatureOut : Nat) :
    Exec (Status × World) := do
  if signatureOut = 0 then
    return (.errInvalidArgumentValue, w)
  if size ≠ 0 ∧ (bytes = 0 ∨ mask = 0) then
    return (.errInvalidArgumentValue, w)
  if size = 0 then
    return (.errSigEmptySignature, w)
  let (signature, containsByte) ← createElements w.memory bytes mask size 0 [] false
  if !containsByte then
    return (.errSigMissingMaskedByte, w)
  let (p, w) := w.newSignature allocator signature
  return (.success, w.store signatureOut p)

/-- `libhat_find_pattern`. -/
def libhatFindPattern (target : Target) (w : World) (signature buffer size resultOut : Nat)
    (align hints : BitVec 32) : Exec (Status × World) := do
  if signature = 0 ∨ (buffer = 0 ∧ size ≠ 0) ∨ resultOut = 0 then
    return (.errInvalidArgumentValue, w)
  if !(← w.checkSignature signature) then
    return (.errInvalidArgumentType, w)
  match toCppAlign align with
  | none => return (.errInvalidArgumentValue, w)
  | some cppAlign =>
    let sig ← w.signatureAt signature
    let result ← findPattern target w.memory buffer (buffer + size) sig cppAlign (toCppHints hints)
    return (.success, w.store resultOut (result.getD 0))

/-! ### Signatures from bytes -/

/-- The signature of a pair of arrays. -/
def maskedSignature (values masks : List Byte) : Signature :=
  List.zipWith .ofMasked values masks

theorem length_maskedSignature {values masks : List Byte} (hlen : values.length = masks.length) :
    (maskedSignature values masks).length = values.length := by
  rw [maskedSignature, List.length_zipWith, hlen, Nat.min_self]

/-- The loop reads the arrays element by element. -/
theorem createElements_ok {m : Memory} {bytes mask : Nat} : ∀ {values masks : List Byte} {i : Nat}
    (signature : Signature) (containsByte : Bool), values.length = masks.length →
    m.Holds (bytes + i) values → m.Holds (mask + i) masks →
    createElements m bytes mask values.length i signature containsByte
      = .ok (signature ++ maskedSignature values masks,
          containsByte || (maskedSignature values masks).any SignatureElement.all) := by
  intro values
  induction values with
  | nil =>
    intro masks i signature containsByte _ _ _
    simp [createElements, maskedSignature]
  | cons value values ih =>
    intro masks i signature containsByte hlen hvalues hmasks
    cases masks with
    | nil => exact absurd hlen (by simp)
    | cons maskByte masks =>
      have hcons : maskedSignature (value :: values) (maskByte :: masks)
          = .ofMasked value maskByte :: maskedSignature values masks := rfl
      have hrest := ih (i := i + 1) (signature ++ [.ofMasked value maskByte])
        (containsByte || (SignatureElement.ofMasked value maskByte).all) (by simpa using hlen)
        hvalues.tail hmasks.tail
      rw [List.length_cons, createElements, Memory.read_of_some hvalues.head, ok_bind,
        Memory.read_of_some hmasks.head, ok_bind, hcons, List.any_cons, ← Bool.or_assoc]
      rw [List.append_assoc, List.singleton_append] at hrest
      exact hrest

/-- A full mask byte makes a fully masked element. -/
theorem hasFullByte_maskedSignature {values masks : List Byte} (hlen : values.length = masks.length)
    (hfull : 0xFF#8 ∈ masks) : HasFullByte (maskedSignature values masks) := by
  obtain ⟨i, hi, hmask⟩ := List.mem_iff_getElem.mp hfull
  have hi' : i < (maskedSignature values masks).length := by
    rw [length_maskedSignature hlen, hlen]
    exact hi
  refine ⟨(maskedSignature values masks)[i], List.getElem_mem hi', ?_⟩
  have helement : (maskedSignature values masks)[i] = .ofMasked values[i] masks[i] := by
    simp [maskedSignature]
  rw [helement, hmask]
  rfl

/-- **The signature of a pair of arrays matches where the bytes agree under the mask.** -/
theorem matchesAt_maskedSignature {m : Memory} {values masks : List Byte} {p : Nat}
    (hlen : values.length = masks.length) :
    MatchesAt m (maskedSignature values masks) p ↔
      ∀ (j : Nat) (hv : j < values.length) (hm : j < masks.length), ∃ b, m (p + j) = some b ∧
        b &&& masks[j] = values[j] &&& masks[j] := by
  have hsize := length_maskedSignature hlen
  constructor
  · intro h j hv hm
    obtain ⟨b, hb, haccepts⟩ := h j (by omega)
    refine ⟨b, hb, ?_⟩
    rw [← SignatureElement.ofMasked_accepts]
    simpa [maskedSignature] using haccepts
  · intro h j hj
    obtain ⟨b, hb, heq⟩ := h j (by omega) (by omega)
    refine ⟨b, hb, ?_⟩
    rw [← SignatureElement.ofMasked_accepts] at heq
    simpa [maskedSignature] using heq

/-- **`libhat_create_signature` succeeds** on a pair of arrays with a full mask byte,
and stores a pointer to a new signature object. -/
theorem libhatCreateSignature_ok (allocator : Allocator) {w : World} {bytes mask signatureOut : Nat}
    {values masks : List Byte} (hlen : values.length = masks.length) (hfull : 0xFF#8 ∈ masks)
    (hvalues : w.memory.Holds bytes values) (hmasks : w.memory.Holds mask masks)
    (hbytes : bytes ≠ 0) (hmask : mask ≠ 0) (hout : signatureOut ≠ 0) :
    ∃ p w', libhatCreateSignature allocator w bytes mask values.length signatureOut
        = .ok (.success, w') ∧
      p ≠ 0 ∧ w'.cells signatureOut = p ∧
      w'.objects p
        = some ⟨objectMagic, signatureTypeId, .signature (maskedSignature values masks)⟩ := by
  have hsize : values.length ≠ 0 := by
    rw [hlen]
    exact Nat.ne_of_gt (List.length_pos_of_mem hfull)
  have hany : (maskedSignature values masks).any SignatureElement.all = true := by
    obtain ⟨e, he, hall⟩ := hasFullByte_maskedSignature hlen hfull
    exact List.any_eq_true.mpr ⟨e, he, hall⟩
  have hcreate := createElements_ok (i := 0) [] false hlen hvalues hmasks
  rw [List.nil_append, Bool.false_or, hany] at hcreate
  refine ⟨allocator.address w,
    (w.newSignature allocator (maskedSignature values masks)).2.store signatureOut
      (allocator.address w), ?_, allocator.address_ne_null w, ?_, ?_⟩
  · have hnull : ¬ (values.length ≠ 0 ∧ (bytes = 0 ∨ mask = 0)) := by
      intro h
      exact h.2.elim hbytes hmask
    rw [libhatCreateSignature, if_neg hout, if_neg hnull, if_neg hsize, hcreate]
    rfl
  · simp [World.store]
  · simp [World.store, World.newSignature]

/-! ### Scans for a signature object -/

theorem toCppAlign_eq {align : BitVec 32} (h : align = 1#32 ∨ align = 4#32 ∨ align = 16#32) :
    ∃ a, toCppAlign align = some a ∧ a.toStride = align.toNat := by
  rcases h with rfl | rfl | rfl
  · exact ⟨.x1, rfl, rfl⟩
  · exact ⟨.x4, rfl, rfl⟩
  · exact ⟨.x16, rfl, rfl⟩

/-- **`libhat_find_pattern` stores the first hit** of the signature behind the handle. -/
theorem libhatFindPattern_ok (target : Target) {w : World} {p buffer size resultOut : Nat}
    {align : BitVec 32} {alignment : ScanAlignment} (hints : BitVec 32) {signature : Signature}
    (hp : p ≠ 0) (hobject : w.objects p = some ⟨objectMagic, signatureTypeId, .signature signature⟩)
    (hsig : HasFullByte signature)
    (hdef : MasksDefined target .auto signature alignment (toCppHints hints))
    (hread : w.memory.Readable buffer (buffer + size))
    (hbuffer : buffer = 0 → size = 0) (hout : resultOut ≠ 0)
    (halign : toCppAlign align = some alignment) :
    ∃ r w', libhatFindPattern target w p buffer size resultOut align hints = .ok (.success, w') ∧
      w'.cells resultOut = r.getD 0 ∧
      IsFirst (Hits w.memory signature alignment.toStride buffer (buffer + size)) r := by
  obtain ⟨r, hr, hfirst⟩ := findPattern_ok target alignment (toCppHints hints) hsig hdef hread
  refine ⟨r, w.store resultOut (r.getD 0), ?_, by simp [World.store], hfirst⟩
  have hnull : ¬ (p = 0 ∨ (buffer = 0 ∧ size ≠ 0) ∨ resultOut = 0) := by
    intro h
    rcases h with h | h | h
    · exact hp h
    · exact h.2 (hbuffer h.1)
    · exact hout h
  have hcheck : w.checkSignature p = .ok true := by
    rw [World.checkSignature, World.objectAt, hobject]
    rfl
  have hsignature : w.signatureAt p = .ok signature := by
    rw [World.signatureAt, World.objectAt, hobject]
    rfl
  rw [libhatFindPattern, if_neg hnull, hcheck, ok_bind, halign]
  simp only [Bool.not_true, Bool.false_eq_true, if_false, hsignature, ok_bind, hr, pure_eq_ok]

/-- **Creating a signature and scanning for it.**  `libhat_create_signature` takes
every pair of arrays of one length that has a full mask byte, whatever bits the
bytes have outside of the mask; and as long as the object is there, a scan whose masks
are defined stores the first aligned place in the buffer that agrees with the bytes under
the mask, or null if there is none. -/
theorem create_find_pattern (target : Target) (allocator : Allocator) (w : World)
    (bytes mask signatureOut : Nat) (values masks : List Byte)
    (hlen : values.length = masks.length) (hfull : 0xFF#8 ∈ masks)
    (hvalues : w.memory.Holds bytes values) (hmasks : w.memory.Holds mask masks)
    (hbytes : bytes ≠ 0) (hmask : mask ≠ 0) (hout : signatureOut ≠ 0) :
    ∃ p w', libhatCreateSignature allocator w bytes mask values.length signatureOut
        = .ok (.success, w') ∧ w'.cells signatureOut = p ∧
      ∀ (w₂ : World) (buffer size resultOut : Nat) (align hints : BitVec 32),
        w₂.objects p = w'.objects p → w₂.memory.Readable buffer (buffer + size) →
        (buffer = 0 → size = 0) → resultOut ≠ 0 →
        (align = 1#32 ∨ align = 4#32 ∨ align = 16#32) →
        (∀ alignment, toCppAlign align = some alignment →
          MasksDefined target .auto (maskedSignature values masks) alignment (toCppHints hints)) →
        ∃ r w₃, libhatFindPattern target w₂ p buffer size resultOut align hints
            = .ok (.success, w₃) ∧
          w₃.cells resultOut = r.getD 0 ∧ (∀ q, r = some q → q ≠ 0) ∧
          IsFirst {q | buffer ≤ q ∧ q + values.length ≤ buffer + size ∧ align.toNat ∣ q ∧
            ∀ (j : Nat) (hv : j < values.length) (hm : j < masks.length),
              ∃ b, w₂.memory (q + j) = some b ∧ b &&& masks[j] = values[j] &&& masks[j]} r := by
  obtain ⟨p, w', hcreate, hp, hcell, hobject⟩ :=
    libhatCreateSignature_ok allocator hlen hfull hvalues hmasks hbytes hmask hout
  refine ⟨p, w', hcreate, hcell, ?_⟩
  intro w₂ buffer size resultOut align hints hsame hread hbuffer hresult halign hdef
  rw [hobject] at hsame
  obtain ⟨alignment, hcpp, hstride⟩ := toCppAlign_eq halign
  obtain ⟨r, w₃, hfind, hstored, hfirst⟩ := libhatFindPattern_ok target hints hp hsame
    (hasFullByte_maskedSignature hlen hfull) (hdef alignment hcpp) hread hbuffer hresult hcpp
  have hsize := length_maskedSignature hlen
  have hhits : Hits w₂.memory (maskedSignature values masks) alignment.toStride buffer
        (buffer + size)
      = {q | buffer ≤ q ∧ q + values.length ≤ buffer + size ∧ align.toNat ∣ q ∧
          ∀ (j : Nat) (hv : j < values.length) (hm : j < masks.length),
            ∃ b, w₂.memory (q + j) = some b ∧ b &&& masks[j] = values[j] &&& masks[j]} := by
    ext q
    rw [Hits, Set.mem_ofPred_eq, Set.mem_ofPred_eq, hsize, hstride, matchesAt_maskedSignature hlen]
  rw [hhits] at hfirst
  refine ⟨r, w₃, hfind, hstored, ?_, hfirst⟩
  intro q hq hzero
  subst hq
  obtain ⟨h1, h2, _⟩ := (isFirst_some.mp hfirst).1
  have hpos : 0 < values.length := by
    rw [hlen]
    exact List.length_pos_of_mem hfull
  have := hbuffer (by omega)
  omega

theorem create_find_pattern_sample :
    ∃ p w' w₃, ∃ r : ScanResult, libhatCreateSignature .bump
        ⟨Memory.ofBytes 1000 [0x12, 0x34, 0xFF, 0xF0], fun _ => none, [], fun _ => 0⟩ 1000 1002 2 8
        = .ok (.success, w') ∧
      libhatFindPattern default
        ⟨Memory.ofBytes 1000 [0x12, 0x34, 0xFF, 0xF0], w'.objects, w'.live, w'.cells⟩
        p 1000 4 16 1 0 = .ok (.success, w₃) ∧
      w₃.cells 16 = r.getD 0 := by
  obtain ⟨p, w', hcreate, _, hfind⟩ := create_find_pattern default .bump
    ⟨Memory.ofBytes 1000 [0x12, 0x34, 0xFF, 0xF0], fun _ => none, [], fun _ => 0⟩ 1000 1002 8
    [0x12, 0x34] [0xFF, 0xF0] rfl (by simp) (by unfold Memory.Holds; decide)
    (by unfold Memory.Holds; decide) (by decide) (by decide) (by decide)
  obtain ⟨r, w₃, hrun, hcell, _⟩ := hfind
    ⟨Memory.ofBytes 1000 [0x12, 0x34, 0xFF, 0xF0], w'.objects, w'.live, w'.cells⟩ 1000 4 16 1 0
    rfl (Memory.readable_ofBytes 1000 [0x12, 0x34, 0xFF, 0xF0]) (by decide) (by decide)
    (Or.inl rfl) fun alignment halign => by
      obtain rfl : ScanAlignment.x1 = alignment := Option.some.inj halign
      exact masksDefined_x1 _ _ _ _
  exact ⟨p, w', w₃, r, hcreate, hrun, hcell⟩

end Libhat

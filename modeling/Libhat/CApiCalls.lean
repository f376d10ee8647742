import Libhat.CApi
import Libhat.CStringView
import Libhat.SignatureText

/-!
# The checks of the C interface

Every function of the C interface that returns a `libhat_status` is to check its
arguments before it uses them: first for null pointers, then the headers of the objects
that handles point to, then the alignment.

* `libhat_status_checked_iff`: a call is checked so if and only if it is not a call of
  `libhat_parse_signature` with a null pointer.
-/

namespace Libhat

/-! ### The functions -/

/-- `libhat_module::type_id`. -/
def moduleTypeId : BitVec 32 := 0xBAA5FEEC#32

namespace World

/-- `check_type` for the type with this tag. -/
def checkType (w : World) (type : BitVec 32) (p : Nat) : Exec Bool := do
  let object ← w.objectAt p
  return object.magic == objectMagic && object.type == type

/-- `check_type(module)`. -/
def checkModule (w : World) (p : Nat) : Exec Bool := w.checkType moduleTypeId p

/-- `*out = value` where `out` may be null. -/
def storeAt (w : World) (out value : Nat) : Exec World :=
  if out = 0 then .error .nullDeref else .ok (w.store out value)

/-- `*out = {data.data(), data.size()}`. -/
def storeSpan (w : World) (out : Nat) (data : Span) : World :=
  (w.store out data.data).store (out + 8) data.size

end World

namespace Memory

/-- The `n` characters from `p` on. -/
def readChars (m : Memory) : Nat → Nat → Exec Text
  | 0, _ => pure []
  | n + 1, p => do
    let b ← m.read p
    let rest ← m.readChars n (p + 1)
    return Char.ofNat b.toNat :: rest

/-- A `std::string_view` from a C string. -/
def readCStr (m : Memory) (p : Nat) : Exec Text := do
  if p = 0 then
    .error .nullDeref
  else
    let n ← traitsLength m (2 ^ 64) p
    m.readChars n p

end Memory

/-- What the members of `hat::process::module` say about the module object at an address. -/
structure ModuleFunctions where
  address : World → Nat → Nat
  getSymbol : World → Nat → Text → Nat
  getModuleData : World → Nat → Span
  getExecutableData : World → Nat → Span
  getSectionData : World → Nat → Text → Span
  /-- the sections that `for_each_section` goes through -/
  sections : World → Nat → List (Text × Span × BitVec 8)
  /-- the segments that `for_each_segment` goes through -/
  segments : World → Nat → List (Span × BitVec 8)

/-- What the C functions run with: the target they are built for, the allocator, the platform,
and the code behind the callbacks, which is told its `user_data`. -/
structure Host where
  target : Target
  allocator : Allocator
  modules : ModuleFunctions
  sectionCallback : Nat → Text → Span → BitVec 32 → Nat → World → Exec (Bool × World)
  segmentCallback : Nat → Span → BitVec 32 → Nat → World → Exec (Bool × World)

/-- The loop of `for_each_section` and of `for_each_segment`. -/
def forEach {α : Type} (callback : α → World → Exec (Bool × World)) : List α → World → Exec World
  | [], w => pure w
  | item :: items, w => do
    let (more, w) ← callback item w
    if more then
      forEach callback items w
    else
      return w

/-- `find_pattern` in a section of a module. -/
def findPatternSection (host : Host) (w : World) (signature : Signature) (sectionName : Text)
    (mod : Nat) (alignment : ScanAlignment) (hints : ScanHint) : Exec ScanResult :=
  let data := host.modules.getSectionData w mod sectionName
  findPattern host.target w.memory data.data (data.data + data.size) signature alignment hints

/-- The `switch` over the errors of `parse_signature`. -/
def SignatureError.toStatus : SignatureError → Status
  | .missingMaskedByte => .errSigMissingMaskedByte
  | .elementParseError => .errSigElementParseError
  | .emptySignature => .errSigEmptySignature
  | .expectedWildcard => .errSigExpectedWildcard
  | .invalidTokenLength => .errSigInvalidTokenLength

/-- `libhat_parse_signature`. -/
def libhatParseSignature (allocator : Allocator) (w : World) (signatureStr signatureOut : Nat) :
    Exec (Status × World) := do
  let str ← w.memory.readCStr signatureStr
  match ← parseSignature str with
  | .error e =>
    let w ← w.storeAt signatureOut 0
    return (e.toStatus, w)
  | .ok signature =>
    let (p, w) := w.newSignature allocator signature
    let w ← w.storeAt signatureOut p
    return (.success, w)

/-- `libhat_find_pattern_mod`. -/
def libhatFindPatternMod (host : Host) (w : World) (signature mod sectionName resultOut : Nat)
    (align hints : BitVec 32) : Exec (Status × World) := do
  if signature = 0 ∨ mod = 0 ∨ sectionName = 0 ∨ resultOut = 0 then
    return (.errInvalidArgumentValue, w)
  if !(← w.checkSignature signature) then
    return (.errInvalidArgumentType, w)
  if !(← w.checkModule mod) then
    return (.errInvalidArgumentType, w)
  match toCppAlign align with
  | none => return (.errInvalidArgumentValue, w)
  | some cppAlign =>
    let sig ← w.signatureAt signature
    let name ← w.memory.readCStr sectionName
    let result ← findPatternSection host w sig name mod cppAlign (toCppHints hints)
    return (.success, w.store resultOut (result.getD 0))

/-- What the functions on a module share: `pointers` are the other arguments that must not
be null, and `body` is the rest of the function. -/
def moduleCall (w : World) (mod : Nat) (pointers : List Nat) (body : Exec World) :
    Exec (Status × World) := do
  if 0 ∈ mod :: pointers then
    return (.errInvalidArgumentValue, w)
  if !(← w.checkModule mod) then
    return (.errInvalidArgumentType, w)
  let w ← body
  return (.success, w)

/-- `libhat_module_address`. -/
def libhatModuleAddress (host : Host) (w : World) (mod out : Nat) : Exec (Status × World) :=
  moduleCall w mod [out] (pure (w.store out (host.modules.address w mod)))

/-- `libhat_module_get_symbol`. -/
def libhatModuleGetSymbol (host : Host) (w : World) (mod name out : Nat) : Exec (Status × World) :=
  moduleCall w mod [name, out] do
    let name ← w.memory.readCStr name
    return w.store out (host.modules.getSymbol w mod name)

/-- `libhat_module_get_data`. -/
def libhatModuleGetData (host : Host) (w : World) (mod out : Nat) : Exec (Status × World) :=
  moduleCall w mod [out] (pure (w.storeSpan out (host.modules.getModuleData w mod)))

/-- `libhat_module_get_executable_data`. -/
def libhatModuleGetExecutableData (host : Host) (w : World) (mod out : Nat) :
    Exec (Status × World) :=
  moduleCall w mod [out] (pure (w.storeSpan out (host.modules.getExecutableData w mod)))

/-- `libhat_module_get_section_data`. -/
def libhatModuleGetSectionData (host : Host) (w : World) (mod name out : Nat) :
    Exec (Status × World) :=
  moduleCall w mod [name, out] do
    let name ← w.memory.readCStr name
    return w.storeSpan out (host.modules.getSectionData w mod name)

/-- `libhat_module_for_each_section`. -/
def libhatModuleForEachSection (host : Host) (w : World) (mod callback userData : Nat) :
    Exec (Status × World) :=
  moduleCall w mod [callback]
    (forEach (fun item => host.sectionCallback callback item.1 item.2.1 (item.2.2.setWidth 32)
      userData) (host.modules.sections w mod) w)

/-- `libhat_module_for_each_segment`. -/
def libhatModuleForEachSegment (host : Host) (w : World) (mod callback userData : Nat) :
    Exec (Status × World) :=
  moduleCall w mod [callback]
    (forEach (fun item => host.segmentCallback callback item.1 (item.2.setWidth 32) userData)
      (host.modules.segments w mod) w)

/-! ### Calls -/

/-- A call of a function that returns a `libhat_status`, with its arguments. -/
inductive StatusCall where
  | parseSignature (signatureStr signatureOut : Nat)
  | createSignature (bytes mask size signatureOut : Nat)
  | findPattern (signature buffer size resultOut : Nat) (align hints : BitVec 32)
  | findPatternMod (signature mod sectionName resultOut : Nat) (align hints : BitVec 32)
  | moduleAddress (mod out : Nat)
  | moduleGetSymbol (mod name out : Nat)
  | moduleGetData (mod out : Nat)
  | moduleGetExecutableData (mod out : Nat)
  | moduleGetSectionData (mod name out : Nat)
  | moduleForEachSection (mod callback userData : Nat)
  | moduleForEachSegment (mod callback userData : Nat)

namespace StatusCall

/-- The call is made. -/
def exec (host : Host) (w : World) : StatusCall → Exec (Status × World)
  | parseSignature signatureStr signatureOut =>
    libhatParseSignature host.allocator w signatureStr signatureOut
  | createSignature bytes mask size signatureOut =>
    libhatCreateSignature host.allocator w bytes mask size signatureOut
  | findPattern signature buffer size resultOut align hints =>
    libhatFindPattern host.target w signature buffer size resultOut align hints
  | findPatternMod signature mod sectionName resultOut align hints =>
    libhatFindPatternMod host w signature mod sectionName resultOut align hints
  | moduleAddress mod out => libhatModuleAddress host w mod out
  | moduleGetSymbol mod name out => libhatModuleGetSymbol host w mod name out
  | moduleGetData mod out => libhatModuleGetData host w mod out
  | moduleGetExecutableData mod out => libhatModuleGetExecutableData host w mod out
  | moduleGetSectionData mod name out => libhatModuleGetSectionData host w mod name out
  | moduleForEachSection mod callback userData =>
    libhatModuleForEachSection host w mod callback userData
  | moduleForEachSegment mod callback userData =>
    libhatModuleForEachSegment host w mod callback userData

/-- The arguments that must not be null: all pointers but `user_data`, and a data buffer only
if its size is not `0`. -/
def nonNullable : StatusCall → List Nat
  | parseSignature signatureStr signatureOut => [signatureStr, signatureOut]
  | createSignature bytes mask size signatureOut =>
    if size = 0 then [signatureOut] else [bytes, mask, signatureOut]
  | findPattern signature buffer size resultOut _ _ =>
    if size = 0 then [signature, resultOut] else [signature, buffer, resultOut]
  | findPatternMod signature mod sectionName resultOut _ _ =>
    [signature, mod, sectionName, resultOut]
  | moduleAddress mod out => [mod, out]
  | moduleGetSymbol mod name out => [mod, name, out]
  | moduleGetData mod out => [mod, out]
  | moduleGetExecutableData mod out => [mod, out]
  | moduleGetSectionData mod name out => [mod, name, out]
  | moduleForEachSection mod callback _ => [mod, callback]
  | moduleForEachSegment mod callback _ => [mod, callback]

/-- The opaque pointers, with the tags of their types. -/
def opaquePointers : StatusCall → List (BitVec 32 × Nat)
  | parseSignature _ _ => []
  | createSignature _ _ _ _ => []
  | findPattern signature _ _ _ _ _ => [(signatureTypeId, signature)]
  | findPatternMod signature mod _ _ _ _ => [(signatureTypeId, signature), (moduleTypeId, mod)]
  | moduleAddress mod _ => [(moduleTypeId, mod)]
  | moduleGetSymbol mod _ _ => [(moduleTypeId, mod)]
  | moduleGetData mod _ => [(moduleTypeId, mod)]
  | moduleGetExecutableData mod _ => [(moduleTypeId, mod)]
  | moduleGetSectionData mod _ _ => [(moduleTypeId, mod)]
  | moduleForEachSection mod _ _ => [(moduleTypeId, mod)]
  | moduleForEachSegment mod _ _ => [(moduleTypeId, mod)]

/-- The alignment, of the functions that take one. -/
def align : StatusCall → Option (BitVec 32)
  | findPattern _ _ _ _ align _ => some align
  | findPatternMod _ _ _ _ align _ => some align
  | _ => none

end StatusCall

/-! ### Checked calls -/

/-- What a handle of a type points to. -/
def World.IsObject (w : World) (type : BitVec 32) (p : Nat) : Prop :=
  ∃ object, w.objects p = some object ∧ object.magic = objectMagic ∧ object.type = type

/-- The hardening of the interface: a call with an argument that is ruled out returns the error
for it and leaves everything as it is. -/
structure StatusCall.Checked (host : Host) (w : World) (call : StatusCall) : Prop where
  null : 0 ∈ call.nonNullable → call.exec host w = .ok (.errInvalidArgumentValue, w)
  type : 0 ∉ call.nonNullable → (∃ o ∈ call.opaquePointers, ¬ w.IsObject o.1 o.2) →
    call.exec host w = .ok (.errInvalidArgumentType, w)
  align : 0 ∉ call.nonNullable → (∀ o ∈ call.opaquePointers, w.IsObject o.1 o.2) →
    (∃ align, call.align = some align ∧ align ≠ 1#32 ∧ align ≠ 4#32 ∧ align ≠ 16#32) →
    call.exec host w = .ok (.errInvalidArgumentValue, w)

section

variable {w : World} {type : BitVec 32} {p : Nat}

theorem World.checkType_of_isObject (h : w.IsObject type p) : w.checkType type p = .ok true := by
  obtain ⟨object, hobject, hmagic, htype⟩ := h
  rw [checkType, objectAt, hobject]
  simp [hmagic, htype]

theorem World.checkType_of_not_isObject (hreadable : w.objects p ≠ none)
    (h : ¬ w.IsObject type p) : w.checkType type p = .ok false := by
  obtain ⟨object, hobject⟩ := Option.ne_none_iff_exists'.mp hreadable
  have hne : ¬ (object.magic = objectMagic ∧ object.type = type) :=
    fun heq => h ⟨object, hobject, heq⟩
  rw [checkType, objectAt, hobject]
  simpa using hne

theorem toCppAlign_eq_none {align : BitVec 32} (h1 : align ≠ 1#32) (h4 : align ≠ 4#32)
    (h16 : align ≠ 16#32) : toCppAlign align = none := by
  rw [toCppAlign, if_neg h1, if_neg h4, if_neg h16]

/-! ### One function after the other -/

/-- `libhat_parse_signature` has no checks. -/
theorem libhatParseSignature_null {allocator : Allocator} {signatureStr signatureOut : Nat}
    (h : signatureStr = 0 ∨ signatureOut = 0) :
    ∃ fault, libhatParseSignature allocator w signatureStr signatureOut = .error fault := by
  rw [libhatParseSignature]
  rcases h with rfl | rfl
  · exact ⟨.nullDeref, rfl⟩
  · cases w.memory.readCStr signatureStr with
    | error fault => exact ⟨fault, rfl⟩
    | ok str =>
      rw [ok_bind]
      cases parseSignature str with
      | error fault => exact ⟨fault, rfl⟩
      | ok result =>
        rw [ok_bind]
        cases result with
        | error e => exact ⟨.nullDeref, rfl⟩
        | ok signature => exact ⟨.nullDeref, rfl⟩

variable {host : Host}

theorem createSignature_checked (bytes mask size signatureOut : Nat) :
    (StatusCall.createSignature bytes mask size signatureOut).Checked host w where
  null h := by
    rw [StatusCall.exec, libhatCreateSignature]
    by_cases hout : signatureOut = 0
    · rw [if_pos hout]
      rfl
    · have hsize : size ≠ 0 := by
        intro hsize
        rw [StatusCall.nonNullable, if_pos hsize, List.mem_singleton] at h
        exact hout h.symm
      have hnull : bytes = 0 ∨ mask = 0 := by
        rw [StatusCall.nonNullable, if_neg hsize] at h
        simp only [List.mem_cons, List.not_mem_nil, or_false] at h
        rcases h with h | h | h
        · exact Or.inl h.symm
        · exact Or.inr h.symm
        · exact absurd h.symm hout
      rw [if_neg hout, if_pos ⟨hsize, hnull⟩]
      rfl
  type _ h := absurd h (by simp [StatusCall.opaquePointers])
  align _ _ h := absurd h (by simp [StatusCall.align])

theorem findPattern_checked {signature buffer size resultOut : Nat} {align hints : BitVec 32}
    (hreadable : signature ≠ 0 → w.objects signature ≠ none) :
    (StatusCall.findPattern signature buffer size resultOut align hints).Checked host w := by
  have hnull : 0 ∈ (StatusCall.findPattern signature buffer size resultOut align hints).nonNullable
      ↔ signature = 0 ∨ (buffer = 0 ∧ size ≠ 0) ∨ resultOut = 0 := by
    rw [StatusCall.nonNullable]
    by_cases hsize : size = 0
    · simp [hsize, eq_comm]
    · simp [hsize, eq_comm]
  refine ⟨fun h => ?_, fun h htype => ?_, fun h htype halign => ?_⟩
  · rw [StatusCall.exec, libhatFindPattern, if_pos (hnull.mp h)]
    rfl
  · rw [hnull] at h
    have hcheck : w.checkSignature signature = .ok false := by
      refine World.checkType_of_not_isObject (hreadable fun hzero => h (Or.inl hzero)) ?_
      simpa [StatusCall.opaquePointers] using htype
    rw [StatusCall.exec, libhatFindPattern, if_neg h, hcheck]
    rfl
  · rw [hnull] at h
    have hcheck : w.checkSignature signature = .ok true :=
      World.checkType_of_isObject (htype _ List.mem_cons_self)
    obtain ⟨a, ha, h1, h4, h16⟩ := halign
    rw [StatusCall.align, Option.some.injEq] at ha
    subst ha
    rw [StatusCall.exec, libhatFindPattern, if_neg h, hcheck, ok_bind,
      toCppAlign_eq_none h1 h4 h16]
    rfl

theorem findPatternMod_checked {signature mod sectionName resultOut : Nat}
    {align hints : BitVec 32} (hsignature : signature ≠ 0 → w.objects signature ≠ none)
    (hmod : mod ≠ 0 → w.objects mod ≠ none) :
    (StatusCall.findPatternMod signature mod sectionName resultOut align hints).Checked host w := by
  have hnull : 0 ∈ (StatusCall.findPatternMod signature mod sectionName resultOut align
      hints).nonNullable ↔ signature = 0 ∨ mod = 0 ∨ sectionName = 0 ∨ resultOut = 0 := by
    simp [StatusCall.nonNullable, eq_comm]
  refine ⟨fun h => ?_, fun h htype => ?_, fun h htype halign => ?_⟩
  · rw [StatusCall.exec, libhatFindPatternMod, if_pos (hnull.mp h)]
    rfl
  · rw [hnull] at h
    rw [StatusCall.exec, libhatFindPatternMod, if_neg h]
    by_cases hobject : w.IsObject signatureTypeId signature
    · have hcheck : w.checkSignature signature = .ok true := World.checkType_of_isObject hobject
      have hother : w.checkModule mod = .ok false := by
        refine World.checkType_of_not_isObject (hmod fun hzero => h (Or.inr (Or.inl hzero))) ?_
        simpa [StatusCall.opaquePointers, hobject] using htype
      rw [hcheck, ok_bind, hother]
      rfl
    · have hcheck : w.checkSignature signature = .ok false :=
        World.checkType_of_not_isObject (hsignature fun hzero => h (Or.inl hzero)) hobject
      rw [hcheck]
      rfl
  · rw [hnull] at h
    have hcheck : w.checkSignature signature = .ok true :=
      World.checkType_of_isObject (htype _ List.mem_cons_self)
    have hother : w.checkModule mod = .ok true :=
      World.checkType_of_isObject (htype _ (List.mem_cons_of_mem _ List.mem_cons_self))
    obtain ⟨a, ha, h1, h4, h16⟩ := halign
    rw [StatusCall.align, Option.some.injEq] at ha
    subst ha
    rw [StatusCall.exec, libhatFindPatternMod, if_neg h, hcheck, ok_bind, hother, ok_bind,
      toCppAlign_eq_none h1 h4 h16]
    rfl

/-- **The functions on a module** are checked, whatever their rest does. -/
theorem moduleCall_checked {call : StatusCall} {mod : Nat} {pointers : List Nat}
    {body : Exec World} (hexec : call.exec host w = moduleCall w mod pointers body)
    (hpointers : call.nonNullable = mod :: pointers)
    (hobjects : call.opaquePointers = [(moduleTypeId, mod)]) (halign : call.align = none)
    (hreadable : mod ≠ 0 → w.objects mod ≠ none) : call.Checked host w where
  null h := by
    rw [hpointers] at h
    rw [hexec, moduleCall, if_pos h]
    rfl
  type h htype := by
    rw [hpointers] at h
    have hmod : mod ≠ 0 := fun hzero => h (hzero ▸ List.mem_cons_self)
    have hcheck : w.checkModule mod = .ok false := by
      refine World.checkType_of_not_isObject (hreadable hmod) ?_
      simpa [hobjects] using htype
    rw [hexec, moduleCall, if_neg h, hcheck]
    rfl
  align _ _ h := absurd h (by simp [halign])

end

/-! ### All of them -/

/-- `libhat_parse_signature` with a null pointer. -/
def StatusCall.ParsesNull : StatusCall → Prop
  | parseSignature signatureStr signatureOut => signatureStr = 0 ∨ signatureOut = 0
  | _ => False

/-- **The hardening of the C interface.**  Whatever objects the handles point to, a call is
checked if and only if it is not a call of `libhat_parse_signature` with a null pointer. -/
theorem libhat_status_checked_iff (host : Host) (w : World) (call : StatusCall)
    (hreadable : ∀ o ∈ call.opaquePointers, o.2 ≠ 0 → w.objects o.2 ≠ none) :
    call.Checked host w ↔ ¬ call.ParsesNull := by
  cases call with
  | parseSignature signatureStr signatureOut =>
    constructor
    · intro hchecked hnull
      obtain ⟨fault, hfault⟩ : ∃ fault, libhatParseSignature host.allocator w signatureStr
        signatureOut = .error fault := libhatParseSignature_null hnull
      have hvalue := hchecked.null
        (by simpa [StatusCall.nonNullable, StatusCall.ParsesNull, eq_comm] using hnull)
      rw [StatusCall.exec, hfault] at hvalue
      exact absurd hvalue (by simp)
    · intro hnull
      refine ⟨fun h => absurd ?_ hnull, fun _ h => ?_, fun _ _ h => ?_⟩
      · simpa [StatusCall.nonNullable, StatusCall.ParsesNull, eq_comm] using h
      · exact absurd h (by simp [StatusCall.opaquePointers])
      · exact absurd h (by simp [StatusCall.align])
  | createSignature bytes mask size signatureOut =>
    exact iff_of_true (createSignature_checked bytes mask size signatureOut) id
  | findPattern signature buffer size resultOut align hints =>
    exact iff_of_true (findPattern_checked (hreadable _ List.mem_cons_self)) id
  | findPatternMod signature mod sectionName resultOut align hints =>
    refine iff_of_true (findPatternMod_checked (hreadable _ List.mem_cons_self) ?_) id
    exact hreadable _ (List.mem_cons_of_mem _ List.mem_cons_self)
  | moduleAddress mod out =>
    exact iff_of_true (moduleCall_checked rfl rfl rfl rfl (hreadable _ List.mem_cons_self)) id
  | moduleGetSymbol mod name out =>
    exact iff_of_true (moduleCall_checked rfl rfl rfl rfl (hreadable _ List.mem_cons_self)) id
  | moduleGetData mod out =>
    exact iff_of_true (moduleCall_checked rfl rfl rfl rfl (hreadable _ List.mem_cons_self)) id
  | moduleGetExecutableData mod out =>
    exact iff_of_true (moduleCall_checked rfl rfl rfl rfl (hreadable _ List.mem_cons_self)) id
  | moduleGetSectionData mod name out =>
    exact iff_of_true (moduleCall_checked rfl rfl rfl rfl (hreadable _ List.mem_cons_self)) id
  | moduleForEachSection mod callback userData =>
    exact iff_of_true (moduleCall_checked rfl rfl rfl rfl (hreadable _ List.mem_cons_self)) id
  | moduleForEachSegment mod callback userData =>
    exact iff_of_true (moduleCall_checked rfl rfl rfl rfl (hreadable _ List.mem_cons_self)) id

/-- A host whose modules are empty, and whose callbacks return at once. -/
def idleHost : Host where
  target := default
  allocator := .bump
  modules := ⟨fun _ _ => 0, fun _ _ _ => 0, fun _ _ => .empty, fun _ _ => .empty,
    fun _ _ _ => .empty, fun _ _ => [], fun _ _ => []⟩
  sectionCallback _ _ _ _ _ w := .ok (true, w)
  segmentCallback _ _ _ _ w := .ok (true, w)

/-- A module object at address 16. -/
def moduleWorld : World where
  memory _ := none
  objects p := if p = 16 then some ⟨objectMagic, moduleTypeId, .other⟩ else none
  live := [16]
  cells _ := 0

theorem libhat_status_checked_iff_sample :
    (StatusCall.findPattern 16 0 0 8 1 0).exec idleHost moduleWorld
      = .ok (.errInvalidArgumentType, moduleWorld) := by
  have hreadable : ∀ o ∈ (StatusCall.findPattern 16 0 0 8 1 0).opaquePointers, o.2 ≠ 0 →
      moduleWorld.objects o.2 ≠ none := by
    simp [StatusCall.opaquePointers, moduleWorld]
  refine ((libhat_status_checked_iff idleHost moduleWorld (.findPattern 16 0 0 8 1 0)
    hreadable).mpr id).type (by decide) ?_
  refine ⟨_, List.mem_cons_self, ?_⟩
  intro hobject
  obtain ⟨object, hobject, _, htype⟩ := hobject
  rw [← Option.some.inj hobject] at htype
  exact absurd htype (by decide)

/-- A null string makes `libhat_parse_signature` read through the null pointer. -/
theorem parse_null_not_checked :
    0 ∈ (StatusCall.parseSignature 0 8).nonNullable ∧
    (StatusCall.parseSignature 0 8).exec idleHost moduleWorld = .error .nullDeref ∧
    ¬ (StatusCall.parseSignature 0 8).Checked idleHost moduleWorld := by
  have hfault : (StatusCall.parseSignature 0 8).exec idleHost moduleWorld = .error .nullDeref := rfl
  refine ⟨by decide, hfault, fun hchecked => ?_⟩
  have hvalue := hchecked.null (by decide)
  rw [hfault] at hvalue
  exact absurd hvalue (by simp)

end Libhat

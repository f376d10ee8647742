import Libhat.CApiHandles
import Libhat.Lib.Raising

/-!
# Scans with the Java binding

The Java binding calls the C interface through JNA.  A direct `ByteBuffer` is scanned from its
position up to its limit, and what is found is a position in it, an `int`.  A `Signature` has a
handle until `close`, which a `try` statement calls at its end.

* `parseSignature_ends`: a `Signature` is made, or the error of the parser is thrown.
* `findPatternText_ends`: all ends of `findPattern` with a text for the signature; none of them
  leaves an object behind.
-/

namespace Libhat.Java

open FirstHit Raising

/-! ### The binding -/

/-- What the functions of the binding throw. -/
inductive Throwable where
  /-- `LibhatException`, with its message -/
  | libhatException (status : Status) (message : String)
  | illegalArgumentException (message : String)
  | nullPointerException
  deriving DecidableEq

/-- What a method does. -/
abbrev Method := Program Crash World Throwable

/-- The process that the virtual machine runs in. -/
structure Jvm where
  target : Target
  allocator : Allocator
  /-- the bytes that JNA makes of a string -/
  encode : Text → List Byte
  /-- where JNA puts a string, and the variable for a result -/
  arguments : Nat
  result : Nat
  arguments_ne_null : arguments ≠ 0
  result_ne_null : result ≠ 0

/-- `Signature`. -/
structure Signature where
  handle : Option Nat

/-- A `ByteBuffer`, with all its bytes up to its capacity. -/
structure ByteBuffer where
  isDirect : Bool
  address : Nat
  bytes : List Byte
  position : Nat
  limit : Nat
  address_ne_null : address ≠ 0
  position_le : position ≤ limit
  limit_le : limit ≤ bytes.length
  capacity_lt : bytes.length < 2 ^ 31

/-- `ScanHint`. -/
inductive ScanHint where
  | x86_64
  | pair0
  | aarch64

/-- `1 << this.ordinal()`. -/
def ScanHint.bit : ScanHint → BitVec 32
  | x86_64 => 1#32 <<< 0
  | pair0 => 1#32 <<< 1
  | aarch64 => 1#32 <<< 2

/-- `ScanHint.toFlags`. -/
def toFlags (hints : List ScanHint) : BitVec 32 :=
  hints.foldl (fun mask hint => mask ||| hint.bit) 0

/-- A function of the C library is called. -/
def call {α : Type} (f : World → Exec (α × World)) : Method α :=
  Program.foreign fun w =>
    match f w with
    | .error fault => .error (.fault fault)
    | .ok r => .ok r

/-- `libhat_free`. -/
def free (handle : Nat) : Method Unit :=
  Program.foreign fun w =>
    match libhatFree w handle with
    | .error fault => .error (.fault fault)
    | .ok .ignored => .ok ((), w)
    | .ok (.destroyed w) => .ok ((), w)
    | .ok .terminated => .error .terminated

/-- `if (status != 0) throw new LibhatException(status)`. -/
def checkStatus (status : Status) : Method Unit :=
  if status = .success then pure ()
  else Program.raise (.libhatException status (libhatStatusToString status))

/-- `Objects.requireNonNull`. -/
def requireNonNull {α : Type} : Option α → Method α
  | none => Program.raise .nullPointerException
  | some a => pure a

namespace Signature

/-- `new Signature(handle)`. -/
def make (handle : Nat) : Method Signature :=
  if handle = 0 then Program.raise .nullPointerException else pure ⟨some handle⟩

/-- `close`: the object after it. -/
def close (signature : Signature) : Method Signature :=
  match signature.handle with
  | none => pure signature
  | some handle => do
    free handle
    return ⟨none⟩

end Signature

/-- `(int) (Pointer.nativeValue(result) - start) + buffer.position()`. -/
def toPosition (result start position : Nat) : Int :=
  ((BitVec.ofNat 64 result - BitVec.ofNat 64 start).setWidth 32 + BitVec.ofNat 32 position).toInt

namespace Jvm

variable (jvm : Jvm)

/-- `new PointerByReference()`. -/
def clearResult : Method Unit := Program.modify fun w => w.store jvm.result 0

/-- `out.getValue()`. -/
def resultValue : Method Nat := Program.ask fun w => w.cells jvm.result

/-- `parseSignature`. -/
def parseSignature (signature : Text) : Method Signature := do
  Program.modify fun w => w.withBytes jvm.arguments (jvm.encode signature ++ [0])
  jvm.clearResult
  let status ← call fun w => libhatParseSignature jvm.allocator w jvm.arguments jvm.result
  checkStatus status
  Signature.make (← jvm.resultValue)

/-- `findPattern`, in a buffer. -/
def findPattern (signature : Signature) (buffer : ByteBuffer) (alignment : ScanAlignment)
    (hints : List ScanHint) : Method (Option Int) := do
  if !buffer.isDirect then
    Program.raise (.illegalArgumentException "Provided buffer must be direct")
  else
    let start := buffer.address + buffer.position
    let count := buffer.limit - buffer.position
    Program.modify fun w => w.withBytes buffer.address buffer.bytes
    jvm.clearResult
    let handle ← requireNonNull signature.handle
    let status ← call fun w => libhatFindPattern jvm.target w handle start count jvm.result
      (alignValue alignment) (toFlags hints)
    checkStatus status
    let result ← jvm.resultValue
    if result = 0 then return none else return some (toPosition result start buffer.position)

/-- `findPattern`, with a text for the signature. -/
def findPatternText (signature : Text) (buffer : ByteBuffer) (alignment : ScanAlignment)
    (hints : List ScanHint) : Method (Option Int) := do
  let sig ← jvm.parseSignature signature
  (jvm.findPattern sig buffer alignment hints).followedBy do
    let _ ← sig.close

end Jvm

/-! ### What the functions do -/

section

variable {jvm : Jvm} {w : World} {α : Type}

theorem call_ok {f : World → Exec (α × World)} {a : α} {w' : World} (h : f w = .ok (a, w')) :
    call f w = .ok (.ok a, w') := by
  rw [call, Program.foreign, h]

theorem resultValue_store (jvm : Jvm) (w : World) (value : Nat) :
    jvm.resultValue (w.store jvm.result value) = .ok (.ok value, w.store jvm.result value) := by
  have hcell : (w.store jvm.result value).cells jvm.result = value := by simp [World.store]
  show Except.ok (Except.ok ((w.store jvm.result value).cells jvm.result), _) = _
  rw [hcell]

/-- **A position in the buffer** is computed without an overflow. -/
theorem toPosition_eq {address position i : Nat} (hle : position ≤ i) (hlt : i < 2 ^ 31) :
    toPosition (address + i) (address + position) position = i := by
  have hsub : BitVec.ofNat 64 (address + i) - BitVec.ofNat 64 (address + position)
      = BitVec.ofNat 64 (i - position) := by
    have hi : address + i = address + position + (i - position) := by omega
    rw [hi, BitVec.ofNat_add (address + position), BitVec.add_comm, BitVec.add_sub_cancel]
  have hadd : (BitVec.ofNat 64 (i - position)).setWidth 32 + BitVec.ofNat 32 position
      = BitVec.ofNat 32 i := by
    rw [BitVec.setWidth_ofNat_of_le (by decide), ← BitVec.ofNat_add, Nat.sub_add_cancel hle]
  have hnat : (BitVec.ofNat 32 i).toNat = i := by
    rw [BitVec.toNat_ofNat]
    omega
  rw [toPosition, hsub, hadd, BitVec.toInt_eq_toNat_of_lt (by omega), hnat]

/-- How `parseSignature` ends. -/
inductive Parses (jvm : Jvm) (w : World) (str : Text) : Except Throwable Signature → World → Prop
  where
  | signature {sig : Libhat.Signature} {p : Nat} {w' : World}
      (hparse : Libhat.parseSignature (cText (jvm.encode str)) = .ok (.ok sig))
      (hfull : HasFullByte sig) (hmade : w.Made w' (.signature sig) p) :
      Parses jvm w str (.ok ⟨some p⟩) w'
  | error {e : SignatureError} {w' : World}
      (hparse : Libhat.parseSignature (cText (jvm.encode str)) = .ok (.error e))
      (hw : w.SameObjects w') :
      Parses jvm w str (.error (.libhatException e.toStatus (libhatStatusToString e.toStatus))) w'

/-- **`parseSignature`** makes a `Signature`, or throws the error of the parser. -/
theorem parseSignature_ends (jvm : Jvm) (w : World) (str : Text)
    (hstr : (jvm.encode str).length < 2 ^ 64) :
    (jvm.parseSignature str).Ends w fun r w' => Parses jvm w str r w' := by
  have hsame : w.SameObjects
      ((w.withBytes jvm.arguments (jvm.encode str ++ [0])).store jvm.result 0) := ⟨rfl, rfl⟩
  have hread : ((w.withBytes jvm.arguments (jvm.encode str ++ [0])).store jvm.result
      0).memory.readCStr jvm.arguments = .ok (cText (jvm.encode str)) :=
    readCStr_ok jvm.arguments_ne_null hstr (w.withBytes_holds _ _)
  have hstart : jvm.parseSignature str w = (do
      let status ← call fun w => libhatParseSignature jvm.allocator w jvm.arguments jvm.result
      checkStatus status
      Signature.make (← jvm.resultValue) : Method Signature)
        ((w.withBytes jvm.arguments (jvm.encode str ++ [0])).store jvm.result 0) := rfl
  by_cases htext : IsSignatureText (cText (jvm.encode str))
  · obtain ⟨sig, hparse, hfull, _⟩ := parseSignature_text htext
    obtain ⟨p, w', hcall, hcell, hmade⟩ := libhatParseSignature_made jvm.allocator hread hparse
      jvm.result_ne_null
    refine ⟨.ok ⟨some p⟩, w', ?_, .signature hparse hfull (hmade.of_same hsame)⟩
    rw [hstart, bind_ok (call_ok hcall)]
    show Signature.make (w'.cells jvm.result) w' = _
    rw [hcell, Signature.make, if_neg hmade.ne_null]
    rfl
  · obtain ⟨e, hparse⟩ := parseSignature_error htext
    have hcall := libhatParseSignature_failed jvm.allocator hread hparse jvm.result_ne_null
    refine ⟨.error (.libhatException e.toStatus (libhatStatusToString e.toStatus)), _, ?_,
      .error hparse (hsame.trans (World.sameObjects_store _ jvm.result 0))⟩
    rw [hstart, bind_ok (call_ok hcall), checkStatus, if_neg e.toStatus_ne]
    rfl

/-- How `findPattern` ends with an open signature. -/
def Finds (sig : Libhat.Signature) (buffer : ByteBuffer) (alignment : ScanAlignment)
    (r : Except Throwable (Option Int)) : Prop :=
  if buffer.isDirect then
    ∃ o : Option Nat, r = .ok (o.map Int.ofNat) ∧
      IsFirst (BufferHits buffer.bytes sig alignment buffer.address buffer.position buffer.limit) o
  else r = .error (.illegalArgumentException "Provided buffer must be direct")

/-- **`findPattern`** with an open signature. -/
theorem findPattern_ends (jvm : Jvm) {p : Nat} (hp : p ≠ 0) {sig : Libhat.Signature}
    (hobject : w.objects p = some ⟨objectMagic, (Payload.signature sig).typeId, .signature sig⟩)
    (hfull : HasFullByte sig) (buffer : ByteBuffer) {alignment : ScanAlignment}
    {hints : List ScanHint}
    (hdef : MasksDefined jvm.target .auto sig alignment (toCppHints (toFlags hints))) :
    (jvm.findPattern ⟨some p⟩ buffer alignment hints).Ends w fun r w' =>
      w.SameObjects w' ∧ Finds sig buffer alignment r := by
  rw [Jvm.findPattern]
  cases hdirect : buffer.isDirect with
  | false =>
    refine ends_raise ⟨.refl w, ?_⟩
    rw [Finds, hdirect]
    rfl
  | true =>
    obtain ⟨o, hcall, hfirst⟩ := libhatFindPattern_buffer (w := w) jvm.target alignment
      (toFlags hints) hp hobject hfull hdef buffer.position_le buffer.limit_le
      buffer.address_ne_null jvm.result_ne_null
    refine ⟨.ok (o.map Int.ofNat), ((w.withBytes buffer.address buffer.bytes).store jvm.result
      0).store jvm.result ((o.map (buffer.address + ·)).getD 0), ?_, ⟨rfl, rfl⟩, ?_⟩
    · show (do
        let status ← call fun w => libhatFindPattern jvm.target w p
          (buffer.address + buffer.position) (buffer.limit - buffer.position) jvm.result
          (alignValue alignment) (toFlags hints)
        checkStatus status
        let result ← jvm.resultValue
        if result = 0 then return none
        else return some (toPosition result (buffer.address + buffer.position) buffer.position)
          : Method (Option Int)) ((w.withBytes buffer.address buffer.bytes).store jvm.result 0) = _
      rw [bind_ok (call_ok hcall), bind_ok (a := ()) rfl, bind_ok (resultValue_store jvm _ _)]
      cases o with
      | none => rfl
      | some i =>
        have hi := (isFirst_some.mp hfirst).1
        have hle : buffer.position ≤ i := hi.1
        have hend : i + sig.length ≤ buffer.limit := hi.2.1
        have hlt : i < 2 ^ 31 := by
          have := buffer.limit_le
          have := buffer.capacity_lt
          omega
        have hne : buffer.address + i ≠ 0 := by
          have := buffer.address_ne_null
          omega
        rw [Option.map_some, Option.getD_some, if_neg hne, toPosition_eq hle hlt]
        rfl
    · rw [Finds, hdirect, if_pos rfl]
      exact ⟨o, rfl, hfirst⟩

/-- **`close`** frees the object of the signature, and nothing else. -/
theorem close_ends {p : Nat} (hp : p ≠ 0) {sig : Libhat.Signature}
    (hobject : w.objects p = some ⟨objectMagic, (Payload.signature sig).typeId, .signature sig⟩)
    (hlive : p ∈ w.live) :
    (Signature.close ⟨some p⟩).Ends w fun r w' => r = .ok ⟨none⟩ ∧
      w'.live = w.live.filter (· ≠ p) ∧ ∀ q ≠ p, w'.objects q = w.objects q := by
  have htype : (Payload.signature sig).typeId ≠ tombstoneTypeId := by
    simp [Payload.typeId, signatureTypeId, tombstoneTypeId]
  obtain ⟨w', hfree, hlive', hobjects⟩ := libhatFree_live hp hobject rfl htype hlive
  refine ⟨.ok ⟨none⟩, w', ?_, rfl, hlive', fun q hq => ?_⟩
  · have hrun : free p w = .ok (.ok (), w') := by
      rw [free, Program.foreign, hfree]
    exact (bind_ok hrun).trans rfl
  · rw [hobjects, Function.update_of_ne hq]

/-- Nothing is left behind, and what was there stays as it was. -/
structure Undisturbed (w w' : World) : Prop where
  live : w'.live = w.live
  objects : ∀ q ∈ w.live, w'.objects q = w.objects q

theorem undisturbed_of_same {w' : World} (h : w.SameObjects w') : Undisturbed w w' :=
  ⟨h.live, fun q _ => congrFun h.objects q⟩

/-- How `findPattern` ends with a text for the signature. -/
structure TextEnds (text : Text) (buffer : ByteBuffer) (alignment : ScanAlignment)
    (r : Except Throwable (Option Int)) : Prop where
  /-- the first position at which the bytes agree with the tokens, or none -/
  found : IsSignatureText text → buffer.isDirect = true → ∃ o : Option Nat,
    r = .ok (o.map Int.ofNat) ∧
    IsFirst (TextHits buffer.bytes text alignment buffer.address buffer.position buffer.limit) o
  not_direct : IsSignatureText text → buffer.isDirect = false →
    r = .error (.illegalArgumentException "Provided buffer must be direct")
  no_signature : ¬ IsSignatureText text → ∃ e, Libhat.parseSignature text = .ok (.error e) ∧
    r = .error (.libhatException e.toStatus (libhatStatusToString e.toStatus))

/-- **A text that is scanned for in a buffer.**  `findPattern` with a text for the signature returns
the first position from that of the buffer on, with the whole match before its limit, at which the
bytes agree with the tokens and whose address is aligned, or nothing if there is none.  It throws
the error of the parser if the text is none of a signature, and an exception if the buffer is not
direct.  In all cases it frees the signature that it made, and disturbs no other object. -/
theorem findPatternText_ends (jvm : Jvm) (w : World) (str : Text)
    (hstr : (jvm.encode str).length < 2 ^ 64) (buffer : ByteBuffer) (alignment : ScanAlignment)
    (hints : List ScanHint)
    (hdef : ∀ sig, Libhat.parseSignature (cText (jvm.encode str)) = .ok (.ok sig) →
      MasksDefined jvm.target .auto sig alignment (toCppHints (toFlags hints))) :
    (jvm.findPatternText str buffer alignment hints).Ends w fun r w' =>
      Undisturbed w w' ∧ TextEnds (cText (jvm.encode str)) buffer alignment r := by
  refine Program.Ends.bind (parseSignature_ends jvm w str hstr) (fun e w' h => ?_) fun x w' h => ?_
  · cases h with
    | error hparse hw =>
      have hnot : ¬ IsSignatureText (cText (jvm.encode str)) := by
        intro htext
        obtain ⟨sig, hparse', _⟩ := parseSignature_text htext
        rw [hparse] at hparse'
        exact absurd hparse' (by simp)
      exact ⟨undisturbed_of_same hw, fun htext => absurd htext hnot, fun htext => absurd htext hnot,
        fun _ => ⟨_, hparse, rfl⟩⟩
  · cases h with
    | @signature sig p _ hparse hfull hmade =>
      obtain ⟨htext, hsig⟩ := isSignatureText_of_parseSignature hparse
      have hobject : w'.objects p
          = some ⟨objectMagic, (Payload.signature sig).typeId, .signature sig⟩ := by
        rw [hmade.objects, Function.update_self]
      refine Program.Ends.followedBy (findPattern_ends jvm hmade.ne_null hobject hfull buffer
        (hdef sig hparse)) fun r u hu => ?_
      obtain ⟨hw, hfinds⟩ := hu
      have hobject' : u.objects p = some ⟨objectMagic, _, .signature sig⟩ :=
        (congrFun hw.objects p).trans hobject
      have hlive : u.live = p :: w.live := hw.live.trans hmade.live
      refine Program.Ends.bind (close_ends hmade.ne_null hobject' (hlive ▸ List.mem_cons_self))
        (fun _ _ hv => absurd hv.1 (by simp)) fun _ v hv => ends_pure ⟨rfl, ?_, ?_⟩
      · refine ⟨?_, fun q hq => ?_⟩
        · rw [hv.2.1, hlive, List.filter_cons_of_neg (by simp)]
          refine List.filter_eq_self.mpr fun q hq => ?_
          have hqp : q ≠ p := fun heq => hmade.fresh (heq ▸ hq)
          simpa using hqp
        · have hqp : q ≠ p := fun heq => hmade.fresh (heq ▸ hq)
          rw [hv.2.2 q hqp, hw.objects, hmade.objects, Function.update_of_ne hqp]
      · rw [Finds] at hfinds
        refine ⟨fun _ hdirect => ?_, fun _ hdirect => ?_, fun hnot => absurd htext hnot⟩
        · rw [if_pos hdirect, bufferHits_eq_textHits hsig] at hfinds
          exact hfinds
        · rw [if_neg (by simp [hdirect])] at hfinds
          exact hfinds

/-- A process whose strings are of one byte for each character. -/
def sampleJvm : Jvm where
  target := default
  allocator := .bump
  encode str := str.map fun c => BitVec.ofNat 8 c.toNat
  arguments := 8192
  result := 24
  arguments_ne_null := by decide
  result_ne_null := by decide

def sampleBuffer : ByteBuffer where
  isDirect := true
  address := 2000
  bytes := [0x7F, 0x12, 0x7F]
  position := 1
  limit := 3
  address_ne_null := by decide
  position_le := by decide
  limit_le := by decide
  capacity_lt := by decide

theorem findPatternText_ends_sample :
    (sampleJvm.findPatternText "7F".toList sampleBuffer .x1 [.x86_64]).Ends Lifetimes.emptyWorld
      fun r w' => Undisturbed Lifetimes.emptyWorld w' ∧
        TextEnds (cText (sampleJvm.encode "7F".toList)) sampleBuffer .x1 r :=
  findPatternText_ends sampleJvm Lifetimes.emptyWorld "7F".toList (by decide) sampleBuffer .x1
    [.x86_64] fun _ _ => masksDefined_x1 _ _ _ _

end

end Libhat.Java

import Libhat.CApiLifetime
import Libhat.TextScan

/-!
# What the C functions do for a binding

A binding hands over strings that end with a null byte, pointers to variables that are not null,
and handles that it was given before.

* `World.Made`, `World.SameObjects`: a call makes one object, or none.
* `readCStr_ok`: a string is read up to its first null byte.
* `libhatParseSignature_made`, `libhatCreateSignature_made`: a signature that is made can be
  scanned for.
* `libhatFindPattern_found`, `libhatFindPatternMod_found`: a scan stores the first match.
* `libhatFindPattern_buffer`: in a part of a buffer that is the first one in that part.
-/

namespace Libhat

open FirstHit

/-- What ends a process that calls the C functions. -/
inductive Crash where
  | fault (fault : Fault)
  /-- `std::terminate` -/
  | terminated

/-- `libhat_status_to_string`, for a value of the enumeration. -/
def libhatStatusToString : Status → String
  | .success => "libhat_success"
  | .errUnknown => "libhat_err_unknown"
  | .errSigMissingMaskedByte => "libhat_err_sig_missing_masked_byte"
  | .errSigElementParseError => "libhat_err_sig_element_parse_error"
  | .errSigEmptySignature => "libhat_err_sig_empty_signature"
  | .errSigExpectedWildcard => "libhat_err_sig_expected_wildcard"
  | .errSigInvalidTokenLength => "libhat_err_sig_invalid_token_length"
  | .errInvalidArgumentValue => "libhat_err_invalid_argument_value"
  | .errInvalidArgumentType => "libhat_err_invalid_argument_type"

/-- `libhat_module_at`; `inModule` says of which addresses `hat::process::module_at` has a
module. -/
def libhatModuleAt (allocator : Allocator) (inModule : Nat → Bool) (w : World) (address : Nat) :
    Nat × World :=
  if inModule address then w.newModule allocator else (0, w)

/-- The bytes are at this address. -/
def World.withBytes (w : World) (address : Nat) (bytes : List Byte) : World :=
  { w with
    memory := fun a =>
      if address ≤ a ∧ a < address + bytes.length then bytes[a - address]? else w.memory a }

/-- The value of an alignment. -/
def alignValue (align : ScanAlignment) : BitVec 32 := BitVec.ofNat 32 align.toStride

/-! ### Strings -/

/-- The text that C code reads from bytes that end with a null byte. -/
def cText (bytes : List Byte) : Text := (bytes.takeWhile (· ≠ 0)).map fun b => Char.ofNat b.toNat

theorem World.withBytes_holds (w : World) (address : Nat) (bytes : List Byte) :
    (w.withBytes address bytes).memory.Holds address bytes := by
  intro i hi
  show (if address ≤ address + i ∧ address + i < address + bytes.length
    then bytes[address + i - address]? else w.memory (address + i)) = some bytes[i]
  rw [if_pos (by omega), Nat.add_sub_cancel_left]
  exact List.getElem?_eq_getElem hi

theorem World.readable_withBytes {w : World} {first last : Nat} (address : Nat)
    (bytes : List Byte) (h : w.memory.Readable first last) :
    (w.withBytes address bytes).memory.Readable first last := by
  intro a ha ha'
  show ∃ b, (if address ≤ a ∧ a < address + bytes.length
    then bytes[a - address]? else w.memory a) = some b
  by_cases hin : address ≤ a ∧ a < address + bytes.length
  · rw [if_pos hin]
    exact ⟨_, List.getElem?_eq_getElem (by omega)⟩
  · rw [if_neg hin]
    exact h a ha ha'

/-- The characters of a block of memory. -/
theorem Memory.readChars_ok {m : Memory} : ∀ {bytes : List Byte} {p : Nat}, m.Holds p bytes →
    m.readChars bytes.length p = .ok (bytes.map fun b => Char.ofNat b.toNat) := by
  intro bytes
  induction bytes with
  | nil => intro p _; rfl
  | cons b rest ih =>
    intro p h
    rw [List.length_cons, Memory.readChars, Memory.read_of_some h.head, ok_bind, ih h.tail]
    rfl

/-- The bytes of a string up to the first null byte, and the null byte. -/
theorem exists_takeWhile_append (bytes : List Byte) :
    ∃ rest, bytes ++ [0] = bytes.takeWhile (· ≠ 0) ++ 0 :: rest := by
  induction bytes with
  | nil => exact ⟨[], rfl⟩
  | cons b bytes ih =>
    by_cases hb : b = 0
    · subst hb
      exact ⟨bytes ++ [0], rfl⟩
    · obtain ⟨rest, hrest⟩ := ih
      refine ⟨rest, ?_⟩
      rw [List.takeWhile_cons_of_pos (by simpa using hb), List.cons_append, List.cons_append, hrest]

/-- **A string that is handed over** is read up to its first null byte. -/
theorem readCStr_ok {m : Memory} {p : Nat} {bytes : List Byte} (hp : p ≠ 0)
    (hlen : bytes.length < 2 ^ 64) (h : m.Holds p (bytes ++ [0])) :
    m.readCStr p = .ok (cText bytes) := by
  obtain ⟨rest, hrest⟩ := exists_takeWhile_append bytes
  rw [hrest] at h
  have hhead : (bytes.takeWhile (· ≠ 0)).length < 2 ^ 64 :=
    Nat.lt_of_le_of_lt (List.takeWhile_prefix _).length_le hlen
  have hlength : traitsLength m (2 ^ 64) p = .ok (bytes.takeWhile (· ≠ 0)).length := by
    refine traitsLength_ok hhead (fun i hi => ⟨_, h.append_left i hi, ?_⟩) h.append_right.head
    simpa using List.mem_takeWhile_imp (List.getElem_mem hi)
  rw [Memory.readCStr, if_neg hp, hlength, ok_bind, Memory.readChars_ok h.append_left]
  rfl

/-! ### Objects -/

theorem World.SameObjects.trans {w w' w'' : World} (h : w.SameObjects w')
    (h' : w'.SameObjects w'') : w.SameObjects w'' :=
  ⟨h'.live.trans h.live, h'.objects.trans h.objects⟩

theorem World.sameObjects_withBytes (w : World) (address : Nat) (bytes : List Byte) :
    w.SameObjects (w.withBytes address bytes) := ⟨rfl, rfl⟩

theorem World.sameObjects_store (w : World) (out value : Nat) : w.SameObjects (w.store out value) :=
  ⟨rfl, rfl⟩

/-- An object with this payload was made at `p`. -/
structure World.Made (w w' : World) (payload : Payload) (p : Nat) : Prop where
  ne_null : p ≠ 0
  fresh : p ∉ w.live
  objects : w'.objects
    = Function.update w.objects p (some ⟨objectMagic, payload.typeId, payload⟩)
  live : w'.live = p :: w.live

theorem World.made_newSignature (allocator : Allocator) (w : World) (signature : Signature)
    (out value : Nat) : w.Made ((w.newSignature allocator signature).2.store out value)
      (.signature signature) (allocator.address w) :=
  ⟨allocator.address_ne_null w, allocator.address_fresh w, rfl, rfl⟩

theorem World.made_newModule (allocator : Allocator) (w : World) :
    w.Made (w.newModule allocator).2 .other (allocator.address w) :=
  ⟨allocator.address_ne_null w, allocator.address_fresh w, rfl, rfl⟩

theorem World.Made.of_same {w w' w'' : World} {payload : Payload} {p : Nat}
    (h : w.SameObjects w') (h' : w'.Made w'' payload p) : w.Made w'' payload p :=
  ⟨h'.ne_null, h.live ▸ h'.fresh, h.objects ▸ h'.objects, h.live ▸ h'.live⟩

section

variable {w : World} {out : Nat}

/-- **`libhat_parse_signature`** makes an object for the text of a signature. -/
theorem libhatParseSignature_made (allocator : Allocator) {str : Nat} {text : Text}
    {sig : Signature} (hread : w.memory.readCStr str = .ok text)
    (hparse : parseSignature text = .ok (.ok sig)) (hout : out ≠ 0) :
    ∃ p w', libhatParseSignature allocator w str out = .ok (.success, w') ∧
      w'.cells out = p ∧ w.Made w' (.signature sig) p := by
  refine ⟨allocator.address w, (w.newSignature allocator sig).2.store out (allocator.address w),
    ?_, by simp [World.store], World.made_newSignature allocator w sig out _⟩
  rw [libhatParseSignature, hread, ok_bind, hparse, ok_bind]
  simp only [World.storeAt, if_neg hout, ok_bind, pure_eq_ok]
  rfl

theorem SignatureError.toStatus_ne (e : SignatureError) : e.toStatus ≠ .success := by
  cases e <;> decide

/-- For any other text it makes none. -/
theorem libhatParseSignature_failed (allocator : Allocator) {str : Nat} {text : Text}
    {e : SignatureError} (hread : w.memory.readCStr str = .ok text)
    (hparse : parseSignature text = .ok (.error e)) (hout : out ≠ 0) :
    libhatParseSignature allocator w str out = .ok (e.toStatus, w.store out 0) := by
  rw [libhatParseSignature, hread, ok_bind, hparse, ok_bind]
  simp only [World.storeAt, if_neg hout, ok_bind, pure_eq_ok]

/-- **`libhat_create_signature`** makes an object that can be scanned for, or none. -/
theorem libhatCreateSignature_made (allocator : Allocator) {bytes mask : Nat}
    {values masks : List Byte} (hlen : values.length = masks.length)
    (hvalues : w.memory.Holds bytes values)
    (hmasks : w.memory.Holds mask masks) (hbytes : bytes ≠ 0) (hmask : mask ≠ 0) (hout : out ≠ 0) :
    (∃ p w' sig,
      libhatCreateSignature allocator w bytes mask masks.length out = .ok (.success, w') ∧
      w'.cells out = p ∧ w.Made w' (.signature sig) p ∧ HasFullByte sig) ∨
    ∃ status, status ≠ .success ∧
      libhatCreateSignature allocator w bytes mask masks.length out = .ok (status, w) := by
  have hnull : ¬ (masks.length ≠ 0 ∧ (bytes = 0 ∨ mask = 0)) := by
    intro h
    exact h.2.elim hbytes hmask
  rw [libhatCreateSignature, if_neg hout, if_neg hnull]
  by_cases hsize : masks.length = 0
  · rw [if_pos hsize]
    exact Or.inr ⟨.errSigEmptySignature, by decide, rfl⟩
  have hcreate := createElements_ok (i := 0) [] false hlen hvalues hmasks
  rw [List.nil_append, Bool.false_or, hlen] at hcreate
  rw [if_neg hsize, hcreate, ok_bind]
  cases hany : (maskedSignature values masks).any SignatureElement.all with
  | false => exact Or.inr ⟨.errSigMissingMaskedByte, by decide, rfl⟩
  | true =>
    refine Or.inl ⟨allocator.address w, (w.newSignature allocator (maskedSignature values
      masks)).2.store out (allocator.address w), maskedSignature values masks, rfl,
      by simp [World.store], World.made_newSignature allocator w _ out _, ?_⟩
    obtain ⟨e, he, hall⟩ := List.any_eq_true.mp hany
    exact ⟨e, he, hall⟩

end

/-! ### Scans -/

section

variable {w : World} {out buffer size p : Nat}

theorem toCppAlign_alignValue (align : ScanAlignment) :
    toCppAlign (alignValue align) = some align := by
  cases align <;> rfl

/-- **`libhat_find_pattern`** with the handle of a signature. -/
theorem libhatFindPattern_found (target : Target) (align : ScanAlignment) (hints : BitVec 32)
    (hp : p ≠ 0) (hcheck : w.checkSignature p = .ok true)
    {sig : Signature} (hsig : w.signatureAt p = .ok sig) (hfull : HasFullByte sig)
    (hdef : MasksDefined target .auto sig align (toCppHints hints))
    (hread : w.memory.Readable buffer (buffer + size)) (hbuffer : buffer ≠ 0) (hout : out ≠ 0) :
    ∃ r, libhatFindPattern target w p buffer size out (alignValue align) hints
        = .ok (.success, w.store out (r.getD 0)) ∧
      IsFirst (Hits w.memory sig align.toStride buffer (buffer + size)) r := by
  obtain ⟨r, hr, hfirst⟩ := findPattern_ok target align (toCppHints hints) hfull hdef hread
  refine ⟨r, ?_, hfirst⟩
  have hnull : ¬ (p = 0 ∨ (buffer = 0 ∧ size ≠ 0) ∨ out = 0) := by
    intro h
    exact h.elim hp (Or.rec (fun h => hbuffer h.1) hout)
  rw [libhatFindPattern, if_neg hnull, hcheck, ok_bind, toCppAlign_alignValue]
  simp only [Bool.not_true, Bool.false_eq_true, if_false, hsig, ok_bind, hr, pure_eq_ok]

/-- The bytes of a buffer, by their offsets. -/
def offsets (bytes : List Byte) : Memory := fun i => bytes[i]?

/-- The offsets in a buffer, from one to another, at which the signature matches and whose address
is aligned. -/
def BufferHits (bytes : List Byte) (sig : Signature) (align : ScanAlignment)
    (address first last : Nat) : Set Nat :=
  {i | first ≤ i ∧ i + sig.length ≤ last ∧ align.toStride ∣ address + i ∧
    MatchesAt (offsets bytes) sig i}

/-- The offsets at which the bytes agree with the tokens of a text. -/
def TextHits (bytes : List Byte) (str : Text) (align : ScanAlignment)
    (address first last : Nat) : Set Nat :=
  {i | first ≤ i ∧ i + (tokens str).length ≤ last ∧ align.toStride ∣ address + i ∧
    TextMatchesAt (offsets bytes) str i}

theorem bufferHits_eq_textHits {str : Text} {sig : Signature}
    (h : List.Forall₂ (fun w e => ∀ b, e.accepts b = true ↔ TokenAccepts w b) (tokens str) sig)
    (bytes : List Byte) (align : ScanAlignment) (address first last : Nat) :
    BufferHits bytes sig align address first last
      = TextHits bytes str align address first last := by
  ext i
  rw [BufferHits, TextHits, Set.mem_ofPred_eq, Set.mem_ofPred_eq, h.length_eq,
    matchesAt_iff_text h]

/-- **A match in memory** is one in the buffer that is there. -/
theorem hits_withBytes (w : World) {address first last : Nat} {bytes : List Byte}
    (hlast : last ≤ bytes.length) (sig : Signature) (align : ScanAlignment) :
    {i | address + i ∈ Hits (w.withBytes address bytes).memory sig align.toStride
        (address + first) (address + last)}
      = BufferHits bytes sig align address first last := by
  ext i
  rw [Set.mem_ofPred_eq, Hits, Set.mem_ofPred_eq, BufferHits, Set.mem_ofPred_eq, Nat.add_assoc,
    Nat.add_le_add_iff_left, Nat.add_le_add_iff_left]
  refine and_congr_right fun _ => and_congr_right fun hend => and_congr_right fun _ => ?_
  apply forall₂_congr
  intro j hj
  have hlt : i + j < bytes.length := by omega
  have hmemory : (w.withBytes address bytes).memory (address + (i + j))
      = offsets bytes (i + j) := by
    rw [offsets, List.getElem?_eq_getElem hlt]
    exact w.withBytes_holds address bytes (i + j) hlt
  rw [Nat.add_assoc, hmemory]

/-- **A scan of a part of a buffer** with a signature that was made. -/
theorem libhatFindPattern_buffer (target : Target) (align : ScanAlignment) (hints : BitVec 32)
    (hp : p ≠ 0) {sig : Signature}
    (hobject : w.objects p = some ⟨objectMagic, (Payload.signature sig).typeId, .signature sig⟩)
    (hfull : HasFullByte sig) (hdef : MasksDefined target .auto sig align (toCppHints hints))
    {address first last : Nat} {bytes : List Byte}
    (hfirst : first ≤ last) (hlast : last ≤ bytes.length) (haddress : address ≠ 0)
    (hout : out ≠ 0) :
    ∃ o, libhatFindPattern target ((w.withBytes address bytes).store out 0) p (address + first)
        (last - first) out (alignValue align) hints
        = .ok (.success, ((w.withBytes address bytes).store out 0).store out
          ((o.map (address + ·)).getD 0)) ∧
      IsFirst (BufferHits bytes sig align address first last) o := by
  have hobject' : ((w.withBytes address bytes).store out 0).objects p = _ := hobject
  have hcheck : ((w.withBytes address bytes).store out 0).checkSignature p = .ok true := by
    rw [World.checkSignature, World.objectAt, hobject']
    rfl
  have hsig : ((w.withBytes address bytes).store out 0).signatureAt p = .ok sig := by
    rw [World.signatureAt, World.objectAt, hobject']
    rfl
  have hsize : address + first + (last - first) = address + last := by omega
  have hread : ((w.withBytes address bytes).store out 0).memory.Readable (address + first)
      (address + first + (last - first)) := by
    intro a ha ha'
    exact (w.withBytes_holds address bytes).readable a (by omega) (by omega)
  obtain ⟨r, hcall, hr⟩ := libhatFindPattern_found target align hints hp hcheck hsig hfull hdef
    hread (by omega) hout
  rw [hsize] at hr
  have hbase : ∀ q ∈ Hits (w.withBytes address bytes).memory sig align.toStride (address + first)
      (address + last), address ≤ q := fun q hq => by
    have hle : address + first ≤ q := hq.1
    omega
  have hsub := IsFirst.sub hr hbase
  refine ⟨r.map (· - address), ?_, ?_⟩
  · rw [hcall]
    cases r with
    | none => rfl
    | some q =>
      have hadd : address + (q - address) = q :=
        Nat.add_sub_of_le (hbase q (isFirst_some.mp hr).1)
      rw [Option.map_some, Option.map_some, hadd]
  · rw [← hits_withBytes w hlast sig align]
    exact hsub

variable {host : Host} {sectionName : Nat} {name : Text}

/-- **`libhat_find_pattern_mod`** with the handles of a signature and of a module. -/
theorem libhatFindPatternMod_found (align : ScanAlignment) (hints : BitVec 32) {p q : Nat}
    (hp : p ≠ 0) (hq : q ≠ 0) (hname : sectionName ≠ 0) (hout : out ≠ 0)
    (hcheck : w.checkSignature p = .ok true) (hmod : w.checkModule q = .ok true)
    {sig : Signature} (hsig : w.signatureAt p = .ok sig) (hfull : HasFullByte sig)
    (hdef : MasksDefined host.target .auto sig align (toCppHints hints))
    (htext : w.memory.readCStr sectionName = .ok name)
    (hread : w.memory.Readable (host.modules.getSectionData w q name).data
      ((host.modules.getSectionData w q name).data + (host.modules.getSectionData w q name).size)) :
    ∃ r, libhatFindPatternMod host w p q sectionName out (alignValue align) hints
        = .ok (.success, w.store out (r.getD 0)) ∧
      IsFirst (Hits w.memory sig align.toStride (host.modules.getSectionData w q name).data
        ((host.modules.getSectionData w q name).data
          + (host.modules.getSectionData w q name).size)) r := by
  obtain ⟨r, hr, hfirst⟩ := findPattern_ok host.target align (toCppHints hints) hfull hdef hread
  refine ⟨r, ?_, hfirst⟩
  have hnull : ¬ (p = 0 ∨ q = 0 ∨ sectionName = 0 ∨ out = 0) := by
    intro h
    exact h.elim hp (Or.rec hq (Or.rec hname hout))
  have hscan : findPatternSection host w sig name q align (toCppHints hints) = .ok r := hr
  rw [libhatFindPatternMod, if_neg hnull, hcheck, ok_bind, hmod, ok_bind, toCppAlign_alignValue]
  simp only [Bool.not_true, Bool.false_eq_true, if_false, hsig, htext, hscan, ok_bind, pure_eq_ok]

end

end Libhat

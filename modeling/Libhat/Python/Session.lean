import Libhat.Lib.Runs
import Libhat.Python.Calls

/-!
# Sessions with the Python binding

The objects of the C library belong to the `Signature` and `Module` objects of a session, each
to one, and there are no others; the signature that a text is parsed to for a scan lives as
long as the scan.

* `Owns`: the handles of some objects of the binding are all the live objects.
* `session_owned`: in every session, whatever is closed, closed again or used after it was
  closed, no `libhat_free` ends the process and nothing is used that is not there, and an
  object of the C library is live exactly as long as an open object of the binding has its
  handle.
-/

namespace Libhat.Python

open Raising Runs

/-! ### Ownership -/

/-- The handles of the objects are all the live objects of the C library. -/
structure Owns (w : World) (xs : List Wrapper) : Prop where
  valid : ∀ x ∈ xs, x.Valid w
  perm : (xs.filterMap Wrapper.handle).Perm w.live
  nodup : w.live.Nodup

/-- The object after `close`. -/
def Wrapper.closed (x : Wrapper) : Wrapper := { x with handle := none }

section

variable {w w' : World} {x : Wrapper} {xs ys : List Wrapper} {p : Nat} {kind : Kind}

theorem Owns.same (h : Owns w xs) (hw : w.SameObjects w') : Owns w' xs where
  valid x hx := (h.valid x hx).same hw
  perm := by
    rw [hw.live]
    exact h.perm
  nodup := by
    rw [hw.live]
    exact h.nodup

theorem Owns.of_perm (h : Owns w xs) (hxs : xs.Perm ys) : Owns w ys where
  valid x hx := h.valid x (hxs.mem_iff.mpr hx)
  perm := (hxs.symm.filterMap Wrapper.handle).trans h.perm
  nodup := h.nodup

/-- A closed object owns nothing. -/
theorem owns_closed_iff : Owns w (x.closed :: xs) ↔ Owns w xs := by
  constructor
  · intro h
    exact ⟨fun y hy => h.valid y (List.mem_cons_of_mem _ hy), h.perm, h.nodup⟩
  · intro h
    refine ⟨fun y hy => ?_, h.perm, h.nodup⟩
    rcases List.mem_cons.mp hy with rfl | hy
    · intro p hp
      exact absurd hp (by simp [Wrapper.closed])
    · exact h.valid y hy

/-- The handle of an object is live. -/
theorem Owns.mem_live (h : Owns w xs) (hx : x ∈ xs) (hp : x.handle = some p) : p ∈ w.live :=
  h.perm.mem_iff.mp (List.mem_filterMap.mpr ⟨x, hx, hp⟩)

/-- **An object that is made** belongs to a new object of the binding. -/
theorem Owns.made (h : Owns w xs) {payload : Payload} (hw : w.Made w' payload p)
    (hfits : kind.Fits payload) : Owns w' (⟨kind, some p⟩ :: xs) where
  valid y hy q hq := by
    rcases List.mem_cons.mp hy with rfl | hy
    · obtain rfl : p = q := Option.some.inj hq
      exact ⟨hw.ne_null, payload, hfits, by rw [hw.objects, Function.update_self]⟩
    · obtain ⟨hne, found, hfound, hobject⟩ := h.valid y hy q hq
      have hqp : q ≠ p := fun heq => hw.fresh (heq ▸ h.mem_live hy hq)
      exact ⟨hne, found, hfound, by rw [hw.objects, Function.update_of_ne hqp, hobject]⟩
  perm := by
    rw [hw.live]
    exact h.perm.cons p
  nodup := by
    rw [hw.live]
    exact List.nodup_cons.mpr ⟨hw.fresh, h.nodup⟩

/-- **An object that is freed** belongs to nothing any more. -/
theorem Owns.freed (h : Owns w (x :: xs)) (hx : x.handle = some p)
    (hlive : w'.live = w.live.filter (· ≠ p)) {tombstone : FfiObject}
    (hobjects : w'.objects = Function.update w.objects p (some tombstone)) :
    Owns w' (x.closed :: xs) := by
  have hcons : (x :: xs).filterMap Wrapper.handle = p :: xs.filterMap Wrapper.handle :=
    List.filterMap_cons_some hx
  have hperm := h.perm
  rw [hcons] at hperm
  have hnodup := List.nodup_cons.mp (hperm.nodup_iff.mpr h.nodup)
  refine owns_closed_iff.mpr ⟨fun y hy q hq => ?_, ?_, ?_⟩
  · obtain ⟨hne, found, hfound, hobject⟩ := h.valid y (List.mem_cons_of_mem _ hy) q hq
    have hqp : q ≠ p := fun heq => hnodup.1 (heq ▸ List.mem_filterMap.mpr ⟨y, hy, hq⟩)
    exact ⟨hne, found, hfound, by rw [hobjects, Function.update_of_ne hqp, hobject]⟩
  · have hfilter : (p :: xs.filterMap Wrapper.handle).filter (· ≠ p)
        = xs.filterMap Wrapper.handle := by
      rw [List.filter_cons_of_neg (by simp)]
      refine List.filter_eq_self.mpr fun q hq => ?_
      have hqp : q ≠ p := fun heq => hnodup.1 (heq ▸ hq)
      simpa using hqp
    rw [hlive, ← hfilter]
    exact hperm.filter _
  · rw [hlive]
    exact h.nodup.filter _

end

/-- All live objects belong to the variables of the session. -/
def Session.Owned (s : Session) : Prop := Owns s.world s.locals

/-! ### The parts of the functions -/

section

variable {s : Session} {x : Wrapper} {xs : List Wrapper} {α : Type}

theorem call_ok {f : World → Exec (α × World)} {a : α} {w : World} (h : f s.world = .ok (a, w)) :
    call f s = .ok (.ok a, ⟨w, s.locals⟩) := by
  rw [call, Program.foreign, h]

theorem checkStatus_of_ne {status : Status} (h : status ≠ .success) :
    checkStatus status = Program.raise (.libhatError status (libhatStatusToString status)) :=
  if_neg h

/-- **`close`** frees the object, or nothing. -/
theorem close_ends (h : Owns s.world (x :: xs)) : x.close.Ends s fun r t =>
    r = .ok x.closed ∧ t.locals = s.locals ∧ Owns t.world (x.closed :: xs) := by
  rw [Wrapper.close]
  cases hx : x.handle with
  | none =>
    have hclosed : x.closed = x := by
      rw [Wrapper.closed, ← hx]
    refine ends_pure ⟨?_, rfl, ?_⟩
    · rw [hclosed]
    · rw [hclosed]
      exact h
  | some p =>
    obtain ⟨hp, payload, _, hobject⟩ := h.valid x List.mem_cons_self p hx
    have htype : payload.typeId ≠ tombstoneTypeId := by
      cases payload <;> simp [Payload.typeId, signatureTypeId, moduleTypeId, tombstoneTypeId]
    obtain ⟨w', hfree, hlive, hobjects⟩ := libhatFree_live hp hobject rfl htype
      (h.mem_live List.mem_cons_self hx)
    refine ⟨.ok x.closed, ⟨w', s.locals⟩, ?_, rfl, rfl, h.freed hx hlive hobjects⟩
    have hrun : free p s = .ok (.ok (), ⟨w', s.locals⟩) := by
      rw [free, Program.foreign, hfree]
    exact (bind_ok hrun).trans rfl

/-- A program that neither makes nor frees an object, nor changes a variable. -/
def Keeps (x : Py α) (s : Session) : Prop :=
  x.Ends s fun _ t => t.locals = s.locals ∧ s.world.SameObjects t.world

theorem keeps_pure (a : α) (s : Session) : Keeps (pure a) s := ends_pure ⟨rfl, .refl s.world⟩

theorem keeps_raise (e : PyError) (s : Session) : Keeps (Program.raise e : Py α) s :=
  ends_raise ⟨rfl, .refl s.world⟩

theorem keeps_ask (f : Session → α) (s : Session) : Keeps (Program.ask f) s :=
  ends_ask ⟨rfl, .refl s.world⟩

theorem Keeps.bind {β : Type} {y : Py α} {f : α → Py β} (hy : Keeps y s)
    (hf : ∀ a t, t.locals = s.locals → s.world.SameObjects t.world → Keeps (f a) t) :
    Keeps (y >>= f) s := by
  refine Program.Ends.bind hy (fun _ _ h => h) fun a t h => ?_
  refine (hf a t h.1 h.2).imp fun _ u hu => ⟨hu.1.trans h.1, h.2.trans hu.2⟩

theorem keeps_checkStatus (status : Status) (s : Session) : Keeps (checkStatus status) s := by
  rw [checkStatus]
  by_cases h : status = .success
  · rw [if_pos h]
    exact keeps_pure () s
  · rw [if_neg h]
    exact keeps_raise _ s

theorem keeps_call {f : World → Exec (Status × World)} (h : KeepsObjects s.world (f s.world)) :
    Keeps (call f) s := by
  obtain ⟨status, w, hrun, hw⟩ := h
  exact ⟨.ok status, ⟨w, s.locals⟩, call_ok hrun, rfl, hw⟩

theorem lookup_ends (i : Nat) (s : Session) : (lookup i).Ends s fun r t =>
    t = s ∧ ∀ x, r = .ok x → s.locals[i]? = some x := by
  have hask : (Program.ask (fun s => s.locals[i]?) : Py (Option Wrapper)) s
    = .ok (.ok s.locals[i]?, s) := rfl
  cases hx : s.locals[i]? with
  | none =>
    refine ⟨.error .nameError, s, ?_, rfl, fun x h => absurd h (by simp)⟩
    rw [lookup, bind_ok hask, hx]
    rfl
  | some x =>
    refine ⟨.ok x, s, ?_, rfl, fun y h => ?_⟩
    · rw [lookup, bind_ok hask, hx]
      rfl
    · rw [Except.ok.inj h]

end

/-! ### The functions -/

/-- A function that makes an object of the binding, or raises. -/
def Makes (x : Py Wrapper) (s : Session) : Prop :=
  x.Ends s fun r t => t.locals = s.locals ∧
    match r with
    | .ok y => Owns t.world (y :: s.locals)
    | .error _ => Owns t.world s.locals

section

variable {python : Interpreter} {s : Session} {α : Type}

/-- The world in which a function is called that stores its result. -/
def Interpreter.ready (python : Interpreter) (w : World) (bytes : List Byte) : World :=
  (w.withBytes python.arguments bytes).store python.result 0

theorem sameObjects_ready (python : Interpreter) (w : World) (bytes : List Byte) :
    w.SameObjects (python.ready w bytes) := ⟨rfl, rfl⟩

/-- A string that is passed is read up to its first null byte. -/
theorem readCStr_ready (python : Interpreter) {str : Text} (hstr : (encode str).length < 2 ^ 64)
    (w : World) :
    (python.ready w (encode str ++ [0])).memory.readCStr python.arguments
      = .ok (cText (encode str)) :=
  readCStr_ok python.arguments_ne_null hstr (w.withBytes_holds _ _)

/-- How `parse_signature` ends. -/
inductive Parses (w : World) (str : Text) : Except PyError Wrapper → World → Prop where
  | signature {sig : Signature} {p : Nat} {w' : World}
      (hparse : Libhat.parseSignature (cText (encode str)) = .ok (.ok sig))
      (hfull : HasFullByte sig) (hmade : w.Made w' (.signature sig) p) :
      Parses w str (.ok ⟨.signature, some p⟩) w'
  | error {e : SignatureError} {w' : World}
      (hparse : Libhat.parseSignature (cText (encode str)) = .ok (.error e))
      (hw : w.SameObjects w') :
      Parses w str (.error (.libhatError e.toStatus (libhatStatusToString e.toStatus))) w'

/-- **`parse_signature`** makes a `Signature`, or raises the error of the parser. -/
theorem parseSignature_ends (str : Text) (hstr : (encode str).length < 2 ^ 64) :
    (python.parseSignature str).Ends s fun r t =>
      t.locals = s.locals ∧ Parses s.world str r t.world := by
  have hsame := sameObjects_ready python s.world (encode str ++ [0])
  have hread := readCStr_ready python hstr s.world
  have hstart : python.parseSignature str s = (do
      let status ← call fun w =>
        libhatParseSignature python.host.allocator w python.arguments python.result
      checkStatus status
      Wrapper.make .signature (← python.resultValue) : Py Wrapper)
        ⟨python.ready s.world (encode str ++ [0]), s.locals⟩ := rfl
  by_cases htext : IsSignatureText (cText (encode str))
  · obtain ⟨sig, hparse, hfull, _⟩ := parseSignature_text htext
    obtain ⟨p, w', hcall, hcell, hmade⟩ := libhatParseSignature_made
      python.host.allocator hread hparse python.result_ne_null
    refine ⟨.ok ⟨.signature, some p⟩, ⟨w', s.locals⟩, ?_, rfl,
      .signature hparse hfull (hmade.of_same hsame)⟩
    rw [hstart, bind_ok (call_ok hcall)]
    show Wrapper.make .signature (w'.cells python.result) ⟨w', s.locals⟩ = _
    rw [hcell, Wrapper.make, if_neg hmade.ne_null]
    rfl
  · obtain ⟨e, hparse⟩ := parseSignature_error htext
    have hcall := libhatParseSignature_failed python.host.allocator hread hparse
      python.result_ne_null
    refine ⟨.error (.libhatError e.toStatus (libhatStatusToString e.toStatus)),
      ⟨(python.ready s.world (encode str ++ [0])).store python.result 0, s.locals⟩, ?_, rfl,
      .error hparse (hsame.trans (World.sameObjects_store _ _ _))⟩
    rw [hstart, bind_ok (call_ok hcall), checkStatus_of_ne e.toStatus_ne]
    rfl

theorem parseSignature_makes (hs : s.Owned) (str : Text) (hstr : (encode str).length < 2 ^ 64) :
    Makes (python.parseSignature str) s := by
  refine (parseSignature_ends str hstr).imp fun r t h => ⟨h.1, ?_⟩
  cases h.2 with
  | signature _ hfull hmade => exact Owns.made hs hmade hfull
  | error _ hw => exact Owns.same hs hw

/-- **`create_signature`** makes a `Signature` that can be scanned for, or raises. -/
theorem createSignature_makes (hs : s.Owned) (sigBytes sigMask : List Byte) :
    Makes (python.createSignature sigBytes sigMask) s := by
  rw [Interpreter.createSignature]
  by_cases hlen : sigBytes.length ≠ sigMask.length
  · rw [if_pos hlen]
    exact ends_raise ⟨rfl, hs⟩
  rw [if_neg hlen]
  have hsame := sameObjects_ready python s.world (sigBytes ++ [0] ++ sigMask ++ [0])
  have hholds := s.world.withBytes_holds python.arguments (sigBytes ++ [0] ++ sigMask ++ [0])
  have hmask : (python.ready s.world (sigBytes ++ [0] ++ sigMask ++ [0])).memory.Holds
      (python.arguments + sigBytes.length + 1) sigMask := by
    have hright := hholds.append_left.append_right
    rw [List.length_append] at hright
    rw [Nat.add_assoc]
    exact hright
  have hbytes : (python.ready s.world (sigBytes ++ [0] ++ sigMask ++ [0])).memory.Holds
      python.arguments sigBytes := hholds.append_left.append_left.append_left
  have hstart : (do
      python.pass (sigBytes ++ [0] ++ sigMask ++ [0])
      python.clearResult
      let status ← call fun w => libhatCreateSignature python.host.allocator w python.arguments
        (python.arguments + sigBytes.length + 1) sigMask.length python.result
      checkStatus status
      Wrapper.make .signature (← python.resultValue) : Py Wrapper) s = (do
      let status ← call fun w => libhatCreateSignature python.host.allocator w python.arguments
        (python.arguments + sigBytes.length + 1) sigMask.length python.result
      checkStatus status
      Wrapper.make .signature (← python.resultValue) : Py Wrapper)
        ⟨python.ready s.world (sigBytes ++ [0] ++ sigMask ++ [0]), s.locals⟩ := rfl
  rcases libhatCreateSignature_made python.host.allocator (not_not.mp hlen) hbytes
    hmask python.arguments_ne_null (Nat.succ_ne_zero _) python.result_ne_null with hmade | hfailed
  · obtain ⟨p, w', sig, hcall, hcell, hmade, hfull⟩ := hmade
    refine ⟨.ok ⟨.signature, some p⟩, ⟨w', s.locals⟩, ?_, rfl,
      Owns.made hs (hmade.of_same hsame) hfull⟩
    rw [hstart, bind_ok (call_ok hcall)]
    show Wrapper.make .signature (w'.cells python.result) ⟨w', s.locals⟩ = _
    rw [hcell, Wrapper.make, if_neg hmade.ne_null]
    rfl
  · obtain ⟨status, hstatus, hcall⟩ := hfailed
    refine ⟨.error (.libhatError status (libhatStatusToString status)),
      ⟨python.ready s.world (sigBytes ++ [0] ++ sigMask ++ [0]), s.locals⟩, ?_, rfl,
      Owns.same hs hsame⟩
    rw [hstart, bind_ok (call_ok hcall), checkStatus_of_ne hstatus]
    rfl

/-- A function that makes a `Module`, or returns `None`. -/
def MakesModule (x : Py (Option Wrapper)) (s : Session) : Prop :=
  x.Ends s fun r t => t.locals = s.locals ∧
    match r with
    | .ok (some y) => Owns t.world (y :: s.locals)
    | _ => Owns t.world s.locals

theorem getProcessModule_makes (hs : s.Owned) (hprogram : python.loaded.program = true) :
    Makes python.getProcessModule s := by
  have hmade := World.made_newModule python.host.allocator s.world
  refine ⟨.ok ⟨.module, some (python.host.allocator.address s.world)⟩,
    ⟨(s.world.newModule python.host.allocator).2, s.locals⟩, ?_, rfl, Owns.made hs hmade trivial⟩
  have hcall : call (fun w => libhatGetProcessModule python.host.allocator python.loaded w) s
      = .ok (.ok (python.host.allocator.address s.world),
          ⟨(s.world.newModule python.host.allocator).2, s.locals⟩) := call_ok (if_pos hprogram)
  rw [Interpreter.getProcessModule, bind_ok hcall, Wrapper.make, if_neg hmade.ne_null]
  rfl

/-- A module that was made, or a null pointer. -/
theorem makeModule_makes (hs : s.Owned) {f : World → Exec (Nat × World)} {w w' : World} {p : Nat}
    (hsame : s.world.SameObjects w) (hrun : f w = .ok (p, w'))
    (hresult : (p ≠ 0 → w.Made w' .other p) ∧ (p = 0 → w.SameObjects w')) :
    MakesModule (call f >>= Interpreter.makeModule) ⟨w, s.locals⟩ := by
  have hcall : call f ⟨w, s.locals⟩ = .ok (.ok p, ⟨w', s.locals⟩) := call_ok hrun
  by_cases hp : p = 0
  · refine ⟨.ok none, ⟨w', s.locals⟩, ?_, rfl, Owns.same hs (hsame.trans (hresult.2 hp))⟩
    rw [bind_ok hcall, Interpreter.makeModule, if_pos hp]
    rfl
  · refine ⟨.ok (some ⟨.module, some p⟩), ⟨w', s.locals⟩, ?_, rfl,
      Owns.made hs ((hresult.1 hp).of_same hsame) trivial⟩
    rw [bind_ok hcall, Interpreter.makeModule, if_neg hp]
    show (Wrapper.make .module p >>= fun x => pure (some x)) ⟨w', s.locals⟩ = _
    rw [Wrapper.make, if_neg hp]
    rfl

theorem getModule_makes (hs : s.Owned) (name : Text) (hname : (encode name).length < 2 ^ 64) :
    MakesModule (python.getModule name) s := by
  have hread : (s.world.withBytes python.arguments (encode name ++ [0])).memory.readCStr
      python.arguments = .ok (cText (encode name)) :=
    readCStr_ok python.arguments_ne_null hname (s.world.withBytes_holds _ _)
  have hsame := s.world.sameObjects_withBytes python.arguments (encode name ++ [0])
  show MakesModule ((call fun w => libhatGetModule python.host.allocator python.loaded w
    python.arguments) >>= Interpreter.makeModule)
      ⟨s.world.withBytes python.arguments (encode name ++ [0]), s.locals⟩
  by_cases hloaded : python.loaded.named (cText (encode name)) = true
  · refine makeModule_makes hs hsame (p := python.host.allocator.address _) ?_
      ⟨fun _ => World.made_newModule python.host.allocator _,
        fun hzero => absurd hzero (python.host.allocator.address_ne_null _)⟩
    rw [libhatGetModule, if_neg python.arguments_ne_null, hread, ok_bind, if_pos hloaded]
    rfl
  · refine makeModule_makes hs hsame (p := 0) ?_ ⟨fun hne => absurd rfl hne, fun _ => .refl _⟩
    rw [libhatGetModule, if_neg python.arguments_ne_null, hread, ok_bind, if_neg hloaded]
    rfl

theorem moduleAt_makes (hs : s.Owned) (addr : Nat) : MakesModule (python.moduleAt addr) s := by
  rw [Interpreter.moduleAt]
  by_cases hin : python.inModule addr = true
  · refine makeModule_makes hs (.refl s.world) (p := python.host.allocator.address s.world) ?_
      ⟨fun _ => World.made_newModule python.host.allocator _,
        fun hzero => absurd hzero (python.host.allocator.address_ne_null _)⟩
    rw [libhatModuleAt, if_pos hin]
    rfl
  · refine makeModule_makes hs (.refl s.world) (p := 0) ?_
      ⟨fun hne => absurd rfl hne, fun _ => .refl _⟩
    rw [libhatModuleAt, if_neg hin]

/-- What is prepared for a call makes and frees no object. -/
theorem keeps_from {x y : Py α} {w : World} (hw : s.world.SameObjects w)
    (hstart : x s = y ⟨w, s.locals⟩) (hy : Keeps y ⟨w, s.locals⟩) : Keeps x s := by
  obtain ⟨r, t, hrun, hlocals, hsame⟩ := hy
  exact ⟨r, t, hstart.trans hrun, hlocals, hw.trans hsame⟩

/-- The masks of a scan for the signature of an object are defined. -/
def Interpreter.MasksReady (python : Interpreter) (w : World) (x : Wrapper)
    (align : ScanAlignment) (hints : BitVec 32) : Prop :=
  ∀ sig, w.signatureAt x.pointer = .ok sig →
    MasksDefined python.host.target .auto sig align (toCppHints hints)

/-- The section that `find_pattern_mod` scans. -/
def Interpreter.sectionSpan (python : Interpreter) (w : World) (mod : Nat) (sectionName : Text) :
    Span :=
  python.host.modules.getSectionData (python.ready w (encode sectionName ++ [0])) mod
    (cText (encode sectionName))

/-- The section is mapped when it is scanned. -/
def Interpreter.SectionMapped (python : Interpreter) (w : World) (mod : Nat) (sectionName : Text) :
    Prop :=
  (python.ready w (encode sectionName ++ [0])).memory.Readable
    (python.sectionSpan w mod sectionName).data
    ((python.sectionSpan w mod sectionName).data + (python.sectionSpan w mod sectionName).size)

/-- **The scan of a buffer**, whatever is taken for a signature. -/
theorem scanBuffer_keeps {x : Wrapper} (hx : x.Valid s.world) (buf : MemoryBuffer)
    {align : ScanAlignment} {hints : BitVec 32}
    (hdef : python.MasksReady s.world x align hints) :
    Keeps (python.scanBuffer x buf buf.address buf.bytes.length align hints) s := by
  have hsame : s.world.SameObjects
    ((s.world.withBytes buf.address buf.bytes).store python.result 0) := ⟨rfl, rfl⟩
  have hread : ((s.world.withBytes buf.address buf.bytes).store python.result 0).memory.Readable
    buf.address (buf.address + buf.bytes.length) := (s.world.withBytes_holds _ _).readable
  refine keeps_from hsame (y := do
    let status ← call fun w => libhatFindPattern python.host.target w x.pointer buf.address
      buf.bytes.length python.result (alignValue align) hints
    checkStatus status
    let result ← python.resultValue
    return if result ≠ 0 then some (result - buf.address) else none) rfl ?_
  refine (keeps_call (libhatFindPattern_keeps (hx.same hsame) hdef hread buf.address_ne_null
    python.result_ne_null)).bind fun status t _ _ => ?_
  refine (keeps_checkStatus status t).bind fun _ t _ _ => ?_
  exact (keeps_ask _ t).bind fun result t _ _ => keeps_pure _ t

/-- **The scan of a section**, whatever is taken for a signature and a module. -/
theorem scanModule_keeps {x y : Wrapper} (hx : x.Valid s.world) (hy : y.Valid s.world)
    (sectionName : Text) (hname : (encode sectionName).length < 2 ^ 64) {align : ScanAlignment}
    {hints : BitVec 32} (hdef : python.MasksReady s.world x align hints)
    (hread : ∀ q, y.handle = some q → python.SectionMapped s.world q sectionName) :
    Keeps (python.scanModule x y sectionName align hints) s := by
  have hsame := sameObjects_ready python s.world (encode sectionName ++ [0])
  refine keeps_from hsame (y := do
    let status ← call fun w => libhatFindPatternMod python.host w x.pointer y.pointer
      python.arguments python.result (alignValue align) hints
    checkStatus status
    let result ← python.resultValue
    if result = 0 then Program.raise .typeError else return result) rfl ?_
  refine (keeps_call (libhatFindPatternMod_keeps (hx.same hsame) (hy.same hsame)
    python.arguments_ne_null python.result_ne_null (readCStr_ready python hname s.world) hdef
    hread)).bind fun status t _ _ => ?_
  refine (keeps_checkStatus status t).bind fun _ t _ _ => ?_
  refine (keeps_ask _ t).bind fun result t _ _ => ?_
  by_cases hresult : result = 0
  · rw [if_pos hresult]
    exact keeps_raise _ t
  · rw [if_neg hresult]
    exact keeps_pure _ t

/-- A function after which the session owns what it owned. -/
def Restores (x : Py α) (s : Session) : Prop :=
  x.Ends s fun _ t => t.locals = s.locals ∧ Owns t.world s.locals

theorem Keeps.restores {x : Py α} (hs : s.Owned) (h : Keeps x s) : Restores x s :=
  h.imp fun _ _ ht => ⟨ht.1, Owns.same hs ht.2⟩

/-- The strings of a signature fit into memory. -/
def SignatureFits : Text ⊕ Nat → Prop
  | .inl str => (encode str).length < 2 ^ 64
  | .inr _ => True

/-- The object that is scanned with, and the session in which the scan begins. -/
def Interpreter.Scans (python : Interpreter) (s : Session) :
    Text ⊕ Nat → Wrapper → Session → Prop
  | .inl str, x, t => python.parseSignature str s = .ok (.ok x, t)
  | .inr i, x, t => t = s ∧ s.locals[i]? = some x

/-- **The signature of a text** is closed behind the scan, whether that raises or not. -/
theorem withSignature_restores (hs : s.Owned) {sig : Text ⊕ Nat} (hsig : SignatureFits sig)
    {body : Wrapper → Py α} (hbody : ∀ x t, python.Scans s sig x t → x.Valid t.world →
      (∀ y ∈ s.locals, y.Valid t.world) → Keeps (body x) t) :
    Restores (python.withSignature sig body) s := by
  cases sig with
  | inl str =>
    refine Program.Ends.bind (parseSignature_makes hs str hsig).with_run (fun _ _ h => h.1)
      fun x t h => ?_
    obtain ⟨⟨hlocals, howns⟩, hrun⟩ := h
    have hkeeps := hbody x t hrun (howns.valid x List.mem_cons_self)
      fun y hy => howns.valid y (List.mem_cons_of_mem _ hy)
    refine Program.Ends.followedBy hkeeps fun _ u hu => ?_
    refine Program.Ends.bind (close_ends (howns.same hu.2)) (fun _ _ hv => ?_) fun _ v hv => ?_
    · exact absurd hv.1 (by simp)
    · exact ends_pure ⟨rfl, hv.2.1.trans (hu.1.trans hlocals), owns_closed_iff.mp hv.2.2⟩
  | inr i =>
    refine Program.Ends.bind (lookup_ends i s) (fun _ _ h => ?_) fun x t h => ?_
    · rw [h.1]
      exact ⟨rfl, hs⟩
    · obtain ⟨rfl, hx⟩ := h
      have hmem := List.mem_of_getElem? (hx x rfl)
      exact (hbody x t ⟨rfl, hx x rfl⟩ (hs.valid x hmem) hs.valid).restores hs

/-- **`find_pattern`** leaves nothing behind. -/
theorem findPattern_restores (hs : s.Owned) {sig : Text ⊕ Nat} (hsig : SignatureFits sig)
    (buf : MemoryBuffer) {align : ScanAlignment} {hints : BitVec 32}
    (hdef : ∀ x t, python.Scans s sig x t → python.MasksReady t.world x align hints) :
    Restores (python.findPattern sig buf align hints) s := by
  have hbody : Restores (python.withSignature sig fun x =>
      python.scanBuffer x buf buf.address buf.bytes.length align hints) s :=
    withSignature_restores hs hsig fun x t hscans hx _ => scanBuffer_keeps hx buf (hdef x t hscans)
  rw [Interpreter.findPattern, underlyingBuffer]
  cases buf.type with
  | bytes => exact hbody
  | bytearray => exact hbody
  | memoryview isReadonly =>
    cases isReadonly with
    | true => exact ends_raise ⟨rfl, hs⟩
    | false => exact hbody
  | array => exact hbody

/-- **`find_pattern_mod`** leaves nothing behind. -/
theorem findPatternMod_restores (hs : s.Owned) {sig : Text ⊕ Nat} (hsig : SignatureFits sig)
    (mod : Nat) (sectionName : Text) (hname : (encode sectionName).length < 2 ^ 64)
    {align : ScanAlignment} {hints : BitVec 32}
    (hdef : ∀ x t, python.Scans s sig x t → python.MasksReady t.world x align hints)
    (hread : ∀ x t, python.Scans s sig x t → ∀ y q, s.locals[mod]? = some y →
      y.handle = some q → python.SectionMapped t.world q sectionName) :
    Restores (python.findPatternMod sig mod sectionName align hints) s := by
  refine Program.Ends.bind (lookup_ends mod s) (fun _ _ h => ?_) fun y t h => ?_
  · rw [h.1]
    exact ⟨rfl, hs⟩
  · obtain ⟨rfl, hy⟩ := h
    have hmem := List.mem_of_getElem? (hy y rfl)
    exact withSignature_restores hs hsig fun x u hscans hx hlocals =>
      scanModule_keeps hx (hlocals y hmem) sectionName hname (hdef x u hscans)
        fun q hq => hread x u hscans y q (hy y rfl) hq

/-- What a method of `Module` does first, with the handle of an open one. -/
theorem moduleMethod_keeps (hs : s.Owned) (self : Nat) {f : Nat → World → Exec (Status × World)}
    (hf : ∀ p, IsHandle (s.world.store python.result 0) .module p →
      KeepsObjects (s.world.store python.result 0) (f p (s.world.store python.result 0))) :
    Keeps (python.moduleMethod self f) s := by
  refine Program.Ends.bind (lookup_ends self s) (fun _ _ h => ?_) fun x t h => ?_
  · rw [h.1]
    exact ⟨rfl, .refl s.world⟩
  obtain ⟨rfl, hx⟩ := h
  have hvalid := hs.valid x (List.mem_of_getElem? (hx x rfl))
  by_cases hkind : x.kind ≠ .module
  · rw [if_pos hkind]
    exact keeps_raise _ t
  rw [if_neg hkind]
  refine keeps_from (World.sameObjects_store t.world python.result 0) (y := do
    let handle ← x.checkHandle
    let status ← call (f handle)
    checkStatus status) rfl ?_
  rw [Wrapper.checkHandle]
  cases hhandle : x.handle with
  | none => exact ⟨_, _, bind_error rfl, rfl, .refl _⟩
  | some p =>
    have hp : IsHandle t.world .module p := not_not.mp hkind ▸ hvalid p hhandle
    exact (keeps_call (hf p (hp.same (World.sameObjects_store _ _ _)))).bind
      fun status u _ _ => keeps_checkStatus status u

theorem view_keeps (s : Session) : Keeps python.view s := by
  refine (keeps_ask _ s).bind fun data t _ _ => ?_
  refine (keeps_ask _ t).bind fun size u _ _ => ?_
  by_cases hdata : data = 0
  · rw [if_pos hdata]
    exact keeps_raise _ u
  · rw [if_neg hdata]
    exact keeps_pure _ u

theorem result_ne (python : Interpreter) : 0 ∉ [python.result] := by
  simpa using Ne.symm python.result_ne_null

theorem arguments_result_ne (python : Interpreter) : 0 ∉ [python.arguments, python.result] := by
  simpa using ⟨Ne.symm python.arguments_ne_null, Ne.symm python.result_ne_null⟩

/-- A method that is told nothing. -/
theorem plainMethod_keeps (hs : s.Owned) (self : Nat) (body : Nat → World → World)
    (hbody : ∀ p (w : World), w.SameObjects (body p w)) :
    Keeps (python.moduleMethod self fun handle w =>
      moduleCall w handle [python.result] (pure (body handle w))) s :=
  moduleMethod_keeps hs self fun p hp => moduleCall_pure_keeps hp (result_ne python) (hbody p _)

theorem moduleAddress_keeps (hs : s.Owned) (self : Nat) : Keeps (python.moduleAddress self) s :=
  (plainMethod_keeps hs self (fun p w =>
    w.store python.result (python.host.modules.address w p)) fun _ _ => ⟨rfl, rfl⟩).bind
    fun _ t _ _ => keeps_ask _ t

theorem getModuleData_keeps (hs : s.Owned) (self : Nat) : Keeps (python.getModuleData self) s :=
  (plainMethod_keeps hs self (fun p w =>
    w.storeSpan python.result (python.host.modules.getModuleData w p)) fun _ _ => ⟨rfl, rfl⟩).bind
    fun _ t _ _ => view_keeps t

theorem getExecutableData_keeps (hs : s.Owned) (self : Nat) :
    Keeps (python.getExecutableData self) s :=
  (plainMethod_keeps hs self (fun p w =>
    w.storeSpan python.result (python.host.modules.getExecutableData w p))
    fun _ _ => ⟨rfl, rfl⟩).bind fun _ t _ _ => view_keeps t

/-- A method that is told a name. -/
theorem namedMethod_keeps (hs : s.Owned) (self : Nat) (name : Text)
    (hname : (encode name).length < 2 ^ 64) (body : Nat → World → Text → World)
    (hbody : ∀ p (w : World) text, w.SameObjects (body p w text)) :
    Keeps (python.moduleMethod self fun handle w =>
      moduleCall w handle [python.arguments, python.result] do
        let name ← w.memory.readCStr python.arguments
        return body handle w name)
      ⟨s.world.withBytes python.arguments (encode name ++ [0]), s.locals⟩ := by
  have howned : Session.Owned
      ⟨s.world.withBytes python.arguments (encode name ++ [0]), s.locals⟩ :=
    Owns.same hs (s.world.sameObjects_withBytes python.arguments (encode name ++ [0]))
  refine moduleMethod_keeps howned self fun p hp => ?_
  have hread := readCStr_ready python hname s.world
  refine moduleCall_keeps hp (arguments_result_ne python) (body p _ (cText (encode name))) ?_
    (hbody p _ _)
  have hread' : ((s.world.withBytes python.arguments (encode name ++ [0])).store python.result
    0).memory.readCStr python.arguments = .ok (cText (encode name)) := hread
  rw [hread']
  rfl

theorem getSymbol_keeps (hs : s.Owned) (self : Nat) (name : Text)
    (hname : (encode name).length < 2 ^ 64) : Keeps (python.getSymbol self name) s := by
  refine keeps_from (s.world.sameObjects_withBytes python.arguments (encode name ++ [0])) (y := do
    python.moduleMethod self fun handle w =>
      libhatModuleGetSymbol python.host w handle python.arguments python.result
    let result ← python.resultValue
    return if result ≠ 0 then some result else none) rfl ?_
  exact (namedMethod_keeps hs self name hname (fun p w text =>
    w.store python.result (python.host.modules.getSymbol w p text)) fun _ _ _ => ⟨rfl, rfl⟩).bind
    fun _ t _ _ => (keeps_ask _ t).bind fun _ u _ _ => keeps_pure _ u

theorem getSectionData_keeps (hs : s.Owned) (self : Nat) (name : Text)
    (hname : (encode name).length < 2 ^ 64) : Keeps (python.getSectionData self name) s := by
  refine keeps_from (s.world.sameObjects_withBytes python.arguments (encode name ++ [0])) (y := do
    python.moduleMethod self fun handle w =>
      libhatModuleGetSectionData python.host w handle python.arguments python.result
    python.view) rfl ?_
  exact (namedMethod_keeps hs self name hname (fun p w text =>
    w.storeSpan python.result (python.host.modules.getSectionData w p text))
    fun _ _ _ => ⟨rfl, rfl⟩).bind fun _ t _ _ => view_keeps t

end

/-! ### Sessions -/

/-- What can be done in a session; a `with` statement over a `Signature` or a `Module` closes it at
its end. -/
inductive Command where
  | parseSignature (signatureStr : Text)
  | createSignature (sigBytes sigMask : List Byte)
  | getProcessModule
  | getModule (name : Text)
  | moduleAt (addr : Nat)
  | close (i : Nat)
  | findPattern (sig : Text ⊕ Nat) (buf : MemoryBuffer) (align : ScanAlignment)
      (hints : BitVec 32)
  | findPatternMod (sig : Text ⊕ Nat) (mod : Nat) (sectionName : Text) (align : ScanAlignment)
      (hints : BitVec 32)
  | moduleAddress (self : Nat)
  | getSymbol (self : Nat) (name : Text)
  | getModuleData (self : Nat)
  | getExecutableData (self : Nat)
  | getSectionData (self : Nat) (name : Text)

/-- The strings of a command fit into memory. -/
def Command.Fits : Command → Prop
  | parseSignature signatureStr => (encode signatureStr).length < 2 ^ 64
  | getModule name => (encode name).length < 2 ^ 64
  | findPattern sig _ _ _ => SignatureFits sig
  | findPatternMod sig _ sectionName _ _ =>
    SignatureFits sig ∧ (encode sectionName).length < 2 ^ 64
  | getSymbol _ name => (encode name).length < 2 ^ 64
  | getSectionData _ name => (encode name).length < 2 ^ 64
  | _ => True

/-- What a command needs of the session it is given in: `get_process_module` finds the program,
the masks of a scan are defined, and the section that is scanned is mapped. -/
def Command.Ready (python : Interpreter) (s : Session) : Command → Prop
  | getProcessModule => python.loaded.program = true
  | findPattern sig _ align hints =>
    ∀ x t, python.Scans s sig x t → python.MasksReady t.world x align hints
  | findPatternMod sig mod sectionName align hints =>
    ∀ x t, python.Scans s sig x t → python.MasksReady t.world x align hints ∧
      ∀ y q, s.locals[mod]? = some y → y.handle = some q →
        python.SectionMapped t.world q sectionName
  | _ => True

/-- An object is kept in a new variable, if there is one. -/
def assignSome : Option Wrapper → Py Unit
  | none => pure ()
  | some x => assign x

/-- A variable is closed. -/
def closeVariable (i : Nat) : Py Unit := do
  let x ← lookup i
  let y ← x.close
  Program.modify fun s => { s with locals := s.locals.set i y }

/-- A command. -/
def Interpreter.exec (python : Interpreter) : Command → Py Unit
  | .parseSignature signatureStr => do assign (← python.parseSignature signatureStr)
  | .createSignature sigBytes sigMask => do assign (← python.createSignature sigBytes sigMask)
  | .getProcessModule => do assign (← python.getProcessModule)
  | .getModule name => do assignSome (← python.getModule name)
  | .moduleAt addr => do assignSome (← python.moduleAt addr)
  | .close i => closeVariable i
  | .findPattern sig buf align hints => do let _ ← python.findPattern sig buf align hints
  | .findPatternMod sig mod sectionName align hints => do
    let _ ← python.findPatternMod sig mod sectionName align hints
  | .moduleAddress self => do let _ ← python.moduleAddress self
  | .getSymbol self name => do let _ ← python.getSymbol self name
  | .getModuleData self => do let _ ← python.getModuleData self
  | .getExecutableData self => do let _ ← python.getExecutableData self
  | .getSectionData self name => do let _ ← python.getSectionData self name

/-- The process with a session.  What a command raises ends the command only. -/
structure Process where
  session : Session
  progress : Progress

/-- One command, in a process that is running. -/
def Process.step (python : Interpreter) (p : Process) (c : Command) : Process :=
  if p.progress ≠ .running then p else
  match python.exec c p.session with
  | .ok (_, session) => { p with session }
  | .error (.fault _) => { p with progress := .faulted }
  | .error .terminated => { p with progress := .terminated }

/-- The process goes on, and all live objects belong to open variables of the session. -/
structure Process.Sound (p : Process) : Prop where
  running : p.progress = .running
  owned : p.session.Owned

section

variable {python : Interpreter} {s : Session} {α : Type}

theorem Owns.append {w : World} {xs : List Wrapper} {x : Wrapper} (h : Owns w (x :: xs)) :
    Owns w (xs ++ [x]) :=
  h.of_perm (List.perm_append_singleton x xs).symm

/-- What a function makes is kept in a variable. -/
theorem Makes.assign {x : Py Wrapper} (h : Makes x s) :
    (x >>= assign).Ends s fun _ t => t.Owned := by
  refine Program.Ends.bind h (fun e t ht => ?_) fun y t ht => ?_
  · rw [Session.Owned, ht.1]
    exact ht.2
  · refine ends_modify ?_
    show Owns t.world (t.locals ++ [y])
    rw [ht.1]
    exact Owns.append ht.2

theorem MakesModule.assign {x : Py (Option Wrapper)} (h : MakesModule x s) :
    (x >>= assignSome).Ends s fun _ t => t.Owned := by
  refine Program.Ends.bind h (fun e t ht => ?_) fun y t ht => ?_
  · rw [Session.Owned, ht.1]
    exact ht.2
  · cases y with
    | none =>
      refine ends_pure ?_
      rw [Session.Owned, ht.1]
      exact ht.2
    | some y =>
      refine ends_modify ?_
      show Owns t.world (t.locals ++ [y])
      rw [ht.1]
      exact Owns.append ht.2

theorem Restores.owned {x : Py α} (h : Restores x s) :
    (x >>= fun _ => pure ()).Ends s fun _ t => t.Owned := by
  refine Program.Ends.bind h (fun e t ht => ?_) fun a t ht => ends_pure ?_
  · rw [Session.Owned, ht.1]
    exact ht.2
  · rw [Session.Owned, ht.1]
    exact ht.2

/-- **A variable that is closed** owns nothing any more, also if it is closed again. -/
theorem closeVariable_owned (hs : s.Owned) (i : Nat) :
    (closeVariable i).Ends s fun _ t => t.Owned := by
  refine Program.Ends.bind (lookup_ends i s) (fun _ _ h => ?_) fun x t h => ?_
  · rw [h.1]
    exact hs
  obtain ⟨rfl, hx⟩ := h
  obtain ⟨hi, hget⟩ := List.getElem?_eq_some_iff.mp (hx x rfl)
  have hperm : t.locals.Perm (x :: t.locals.eraseIdx i) := by
    rw [← hget]
    exact (List.getElem_cons_eraseIdx_perm hi).symm
  refine Program.Ends.bind (close_ends (Owns.of_perm hs hperm)) (fun _ _ h => ?_) fun y u h => ?_
  · exact absurd h.1 (by simp)
  · obtain ⟨hy, hlocals, howns⟩ := h
    obtain rfl : y = x.closed := Except.ok.inj hy
    refine ends_modify ?_
    show Owns u.world (u.locals.set i x.closed)
    rw [hlocals]
    exact howns.of_perm (List.set_perm_cons_eraseIdx hi x.closed).symm

/-- **One command.** -/
theorem exec_owned (python : Interpreter) (hs : s.Owned) {c : Command} (hc : c.Fits)
    (hready : c.Ready python s) :
    (python.exec c).Ends s fun _ t => t.Owned := by
  cases c with
  | parseSignature signatureStr => exact (parseSignature_makes hs signatureStr hc).assign
  | createSignature sigBytes sigMask => exact (createSignature_makes hs sigBytes sigMask).assign
  | getProcessModule => exact (getProcessModule_makes hs hready).assign
  | getModule name => exact (getModule_makes hs name hc).assign
  | moduleAt addr => exact (moduleAt_makes hs addr).assign
  | close i => exact closeVariable_owned hs i
  | findPattern sig buf align hints => exact (findPattern_restores hs hc buf hready).owned
  | findPatternMod sig mod sectionName align hints =>
    exact (findPatternMod_restores hs hc.1 mod sectionName hc.2
      (fun x t hscans => (hready x t hscans).1) fun x t hscans => (hready x t hscans).2).owned
  | moduleAddress self => exact ((moduleAddress_keeps hs self).restores hs).owned
  | getSymbol self name => exact ((getSymbol_keeps hs self name hc).restores hs).owned
  | getModuleData self => exact ((getModuleData_keeps hs self).restores hs).owned
  | getExecutableData self => exact ((getExecutableData_keeps hs self).restores hs).owned
  | getSectionData self name => exact ((getSectionData_keeps hs self name hc).restores hs).owned

theorem Process.Sound.step {p : Process} (h : p.Sound) {c : Command}
    (hc : c.Fits ∧ c.Ready python p.session) : (p.step python c).Sound := by
  obtain ⟨r, t, hrun, ht⟩ := exec_owned python h.owned hc.1 hc.2
  rw [Process.step, if_neg (not_not_intro h.running), hrun]
  exact ⟨h.running, ht⟩

end

/-- A process in which every section has four bytes. -/
def samplePython : Interpreter where
  host :=
    { idleHost with
      modules := { idleHost.modules with getSectionData := fun _ _ _ => ⟨1000, 4⟩ } }
  loaded := ⟨true, fun _ => true⟩
  inModule _ := true
  arguments := 4096
  result := 8
  arguments_ne_null := by decide
  result_ne_null := by decide

/-- The section is there. -/
def sectionWorld : World :=
  { Lifetimes.emptyWorld with memory := Memory.ofBytes 1000 [0x12, 0x34, 0x7F, 0x56] }

end Libhat.Python

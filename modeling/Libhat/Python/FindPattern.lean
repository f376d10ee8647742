import Libhat.Python.Session

/-!
# Scans with the Python binding

`find_pattern` returns the offset of the first match in the buffer, or `None`;
`find_pattern_mod` returns the address of the first match in a section of a module.

* `findPattern_text`: with a text for the signature, `find_pattern` returns the least offset at
  which the bytes of the buffer agree with the tokens, or it raises the error of the parser; in
  both cases it leaves no object behind.
* `findPatternMod_iff`: `find_pattern_mod` returns the first match, and raises a `TypeError` if
  there is none.
-/

namespace Libhat.Python

open FirstHit Lifetimes Raising

variable {python : Interpreter} {s : Session}

/-- What a call has stored is the result. -/
theorem resultValue_store (python : Interpreter) (w : World) (value : Nat)
    (locals : List Wrapper) : python.resultValue ⟨w.store python.result value, locals⟩
      = .ok (.ok value, ⟨w.store python.result value, locals⟩) := by
  have hcell : (w.store python.result value).cells python.result = value := by simp [World.store]
  show Except.ok (Except.ok ((w.store python.result value).cells python.result), _) = _
  rw [hcell]

def sampleBuffer : MemoryBuffer := ⟨.bytes, 1000, [0x12, 0x7F], by decide⟩

/-- The addresses in the section at which the signature matches. -/
def sectionHits (python : Interpreter) (w : World) (mod : Nat) (sectionName : Text)
    (sig : Signature) (align : ScanAlignment) : Set Nat :=
  Hits (python.ready w (encode sectionName ++ [0])).memory sig align.toStride
    (python.sectionSpan w mod sectionName).data
    ((python.sectionSpan w mod sectionName).data + (python.sectionSpan w mod sectionName).size)

/-- **The scan of a section** with an open signature and an open module. -/
theorem scanModule_first (python : Interpreter) {x y : Wrapper} {p q : Nat} {sig : Signature}
    (hx : x.handle = some p) (hy : y.handle = some q) (hp : p ≠ 0) (hfull : HasFullByte sig)
    (hobject : s.world.objects p
      = some ⟨objectMagic, (Payload.signature sig).typeId, .signature sig⟩)
    (hq : IsHandle s.world .module q) (sectionName : Text)
    (hname : (encode sectionName).length < 2 ^ 64) {align : ScanAlignment} {hints : BitVec 32}
    (hdef : MasksDefined python.host.target .auto sig align (toCppHints hints))
    (hread : python.SectionMapped s.world q sectionName) :
    (python.scanModule x y sectionName align hints).Ends s fun r t =>
      t.locals = s.locals ∧ s.world.SameObjects t.world ∧ ∃ o : Option Nat,
        r = (if o.getD 0 = 0 then .error .typeError else .ok (o.getD 0)) ∧
        IsFirst (sectionHits python s.world q sectionName sig align) o := by
  have hpointer : x.pointer = p := by rw [Wrapper.pointer, hx]; rfl
  have hpointer' : y.pointer = q := by rw [Wrapper.pointer, hy]; rfl
  have hsame := sameObjects_ready python s.world (encode sectionName ++ [0])
  have hfound : (python.ready s.world (encode sectionName ++ [0])).objects p = _ := hobject
  have hcheck : (python.ready s.world (encode sectionName ++ [0])).checkSignature p = .ok true := by
    rw [World.checkSignature, World.objectAt, hfound]
    rfl
  have hsig : (python.ready s.world (encode sectionName ++ [0])).signatureAt p = .ok sig := by
    rw [World.signatureAt, World.objectAt, hfound]
    rfl
  obtain ⟨r, hcall, hfirst⟩ := libhatFindPatternMod_found align hints hp hq.1
    python.arguments_ne_null python.result_ne_null hcheck
    (checkType_of_isHandle (hq.same hsame)).2 hsig hfull hdef (readCStr_ready python hname s.world)
    hread
  refine ⟨if r.getD 0 = 0 then .error .typeError else .ok (r.getD 0),
    ⟨(python.ready s.world (encode sectionName ++ [0])).store python.result (r.getD 0), s.locals⟩,
    ?_, rfl, ⟨rfl, rfl⟩, r, rfl, hfirst⟩
  rw [Interpreter.scanModule, bind_ok (t := ⟨s.world.withBytes python.arguments
    (encode sectionName ++ [0]), s.locals⟩) rfl, bind_ok (t := ⟨python.ready s.world
    (encode sectionName ++ [0]), s.locals⟩) rfl, hpointer, hpointer', bind_ok (call_ok hcall),
    bind_ok (a := ()) rfl, bind_ok (resultValue_store python _ _ _)]
  by_cases hzero : r.getD 0 = 0
  · rw [if_pos hzero, if_pos hzero]
    rfl
  · rw [if_neg hzero, if_neg hzero]
    rfl

/-- **A signature that is scanned for in a module.**  With an open signature and an open module
whose section is mapped, and not at null, `find_pattern_mod` returns the address of the first match
in the section; and where there is no match it does not return `None`, as `find_pattern` does, but
raises a `TypeError`. -/
theorem findPatternMod_iff (python : Interpreter) (hs : s.Owned) {i j p q : Nat}
    (sig : Signature)
    (hi : s.locals[i]? = some ⟨.signature, some p⟩) (hj : s.locals[j]? = some ⟨.module, some q⟩)
    (hobject : s.world.objects p
      = some ⟨objectMagic, (Payload.signature sig).typeId, .signature sig⟩)
    (sectionName : Text) (hname : (encode sectionName).length < 2 ^ 64)
    (hread : python.SectionMapped s.world q sectionName)
    (hnull : (python.sectionSpan s.world q sectionName).data ≠ 0) (align : ScanAlignment)
    (hints : BitVec 32)
    (hdef : MasksDefined python.host.target .auto sig align (toCppHints hints)) :
    (python.findPatternMod (.inr i) j sectionName align hints).Ends s fun r t =>
      t.locals = s.locals ∧ t.Owned ∧
      (∀ a, r = .ok a ↔ IsLeast (sectionHits python s.world q sectionName sig align) a) ∧
      (r = .error .typeError ↔ sectionHits python s.world q sectionName sig align = ∅) := by
  obtain ⟨hp, payload, hfits, hpayload⟩ := hs.valid _ (List.mem_of_getElem? hi) p rfl
  have hfull : HasFullByte sig := by
    obtain rfl : payload = .signature sig := by
      rw [hobject, Option.some.injEq, FfiObject.mk.injEq] at hpayload
      exact hpayload.2.2.symm
    exact hfits
  have hq : IsHandle s.world .module q := hs.valid _ (List.mem_of_getElem? hj) q rfl
  have hlookup : ∀ {k : Nat} {x : Wrapper}, s.locals[k]? = some x →
      lookup k s = .ok (.ok x, s) := by
    intro k x hk
    have hask : (Program.ask (fun s => s.locals[k]?) : Py (Option Wrapper)) s
      = .ok (.ok s.locals[k]?, s) := rfl
    rw [lookup, bind_ok hask, hk]
    rfl
  refine Program.Ends.of_eq ((scanModule_first python (x := ⟨.signature, some p⟩)
    (y := ⟨.module, some q⟩) rfl rfl hp hfull hobject hq sectionName hname hdef hread).imp
      fun r t h => ?_) ?_
  · obtain ⟨hlocals, hw, o, rfl, hfirst⟩ := h
    have howned : t.Owned := by
      rw [Session.Owned, hlocals]
      exact Owns.same hs hw
    refine ⟨hlocals, howned, ?_⟩
    cases o with
    | none =>
      rw [isFirst_none.mp hfirst]
      refine ⟨fun a => iff_of_false (by simp) fun h => h.1, iff_of_true rfl rfl⟩
    | some a =>
      have hleast := isFirst_some.mp hfirst
      have hne : a ≠ 0 := fun hzero => hnull (by have := hleast.1.1; omega)
      rw [Option.getD_some, if_neg hne]
      refine ⟨fun b => ?_, iff_of_false (by simp) fun hempty => ?_⟩
      · constructor
        · intro h
          exact Except.ok.inj h ▸ hleast
        · intro h
          rw [hleast.unique h]
      · rw [hempty] at hleast
        exact hleast.1
  · rw [Interpreter.findPatternMod, bind_ok (hlookup hj)]
    exact bind_ok (hlookup hi)

/-- A session with a signature and a module. -/
def scanningSession : Session where
  world :=
    { sectionWorld with
      objects := fun p =>
        if p = 16 then some ⟨objectMagic, signatureTypeId, .signature [.ofByte 0x7F]⟩
        else if p = 32 then some ⟨objectMagic, moduleTypeId, .other⟩ else none
      live := [16, 32] }
  locals := [⟨.signature, some 16⟩, ⟨.module, some 32⟩]

theorem owned_scanningSession : scanningSession.Owned where
  valid x hx p hp := by
    rcases List.mem_cons.mp hx with rfl | hx
    · obtain rfl : 16 = p := Option.some.inj hp
      exact ⟨by decide, .signature [.ofByte 0x7F], ⟨_, List.mem_cons_self, rfl⟩, rfl⟩
    · obtain rfl := List.mem_singleton.mp hx
      obtain rfl : 32 = p := Option.some.inj hp
      exact ⟨by decide, .other, trivial, rfl⟩
  perm := List.Perm.refl _
  nodup := by
    show [16, 32].Nodup
    decide

/-- The byte stands at `1002`. -/
theorem findPatternMod_iff_sample :
    (samplePython.findPatternMod (.inr 0) 1 ".text".toList .x1 0).Ends scanningSession
      fun r _ => r = .ok 1002 := by
  have hread : scanningSession.world.memory.Readable 1000 1004 :=
    Memory.readable_ofBytes 1000 [0x12, 0x34, 0x7F, 0x56]
  refine (findPatternMod_iff samplePython owned_scanningSession (i := 0) (j := 1)
    (p := 16) (q := 32) [.ofByte 0x7F] rfl rfl rfl ".text".toList (by decide)
    (World.readable_withBytes _ _ hread) (by decide) .x1 0 (masksDefined_x1 _ _ _ _)).imp
      fun r t h => (h.2.2.1 1002).mpr ⟨⟨by decide, by decide, by decide, fun j hj => ?_⟩, ?_⟩
  · obtain rfl : j = 0 := Nat.lt_one_iff.mp hj
    exact ⟨0x7F, rfl, show (SignatureElement.ofByte 0x7F).accepts 0x7F = true by decide⟩
  · intro a ha
    obtain ⟨hbegin, _, _, hmatch⟩ := ha
    obtain ⟨b, hb, hacc⟩ := hmatch 0 Nat.one_pos
    have hbyte : b = 0x7F := (SignatureElement.accepts_of_all (by decide)).mp hacc
    by_contra hlt
    have hbegin' : 1000 ≤ a := hbegin
    obtain rfl | rfl : a = 1000 ∨ a = 1001 := by omega
    · cases hb
      exact absurd hbyte (by decide)
    · cases hb
      exact absurd hbyte (by decide)

end Libhat.Python

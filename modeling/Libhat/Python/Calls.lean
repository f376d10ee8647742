import Libhat.Python.Binding

/-!
# What the C functions do for the Python binding

A handle of an object of the binding is null, or points to an object of its kind.

* `checkType_of_isHandle`: the header of an object says what kind it is.
* `libhatFindPattern_keeps`, `libhatFindPatternMod_keeps`: a scan ends, whatever is taken for a
  signature or a module.
* `moduleCall_keeps`: so do the functions on a module.
-/

namespace Libhat

namespace Python

/-! ### Handles -/

/-- What an object of the binding can be a handle of. -/
def Kind.Fits : Kind → Payload → Prop
  | .signature, .signature sig => HasFullByte sig
  | .module, .other => True
  | _, _ => False

/-- A handle of this kind. -/
def IsHandle (w : World) (kind : Kind) (p : Nat) : Prop :=
  p ≠ 0 ∧ ∃ payload, kind.Fits payload ∧
    w.objects p = some ⟨objectMagic, payload.typeId, payload⟩

/-- An object of the binding is closed, or it has a handle of its kind. -/
def Wrapper.Valid (w : World) (x : Wrapper) : Prop := ∀ p, x.handle = some p → IsHandle w x.kind p

section

variable {w w' : World} {kind : Kind} {p : Nat} {x y : Wrapper}

theorem IsHandle.same (h : IsHandle w kind p) (hw : w.SameObjects w') : IsHandle w' kind p := by
  obtain ⟨hp, payload, hfits, hobject⟩ := h
  exact ⟨hp, payload, hfits, by rw [hw.objects]; exact hobject⟩

theorem Wrapper.Valid.same (h : x.Valid w) (hw : w.SameObjects w') : x.Valid w' :=
  fun p hp => (h p hp).same hw

/-- The header of an object says what kind it is. -/
theorem checkType_of_isHandle (h : IsHandle w kind p) :
    w.checkSignature p = .ok (decide (kind = .signature)) ∧
      w.checkModule p = .ok (decide (kind = .module)) := by
  obtain ⟨_, payload, hfits, hobject⟩ := h
  rw [World.checkSignature, World.checkModule, World.checkType, World.objectAt, hobject]
  cases kind with
  | signature =>
    cases payload with
    | signature sig => exact ⟨rfl, rfl⟩
    | other => exact absurd hfits id
  | module =>
    cases payload with
    | signature sig => exact absurd hfits id
    | other => exact ⟨rfl, rfl⟩

theorem signatureAt_of_isHandle (h : IsHandle w .signature p) :
    ∃ sig, w.signatureAt p = .ok sig ∧ HasFullByte sig := by
  obtain ⟨_, payload, hfits, hobject⟩ := h
  cases payload with
  | signature sig => exact ⟨sig, by rw [World.signatureAt, World.objectAt, hobject]; rfl, hfits⟩
  | other => exact absurd hfits id

theorem Wrapper.handle_of_pointer_ne (x : Wrapper) (h : x.pointer ≠ 0) :
    x.handle = some x.pointer := by
  rw [Wrapper.pointer] at h ⊢
  cases hhandle : x.handle with
  | none =>
    rw [hhandle] at h
    exact absurd rfl h
  | some p => rfl

/-- The pointer of a closed object is null. -/
theorem Wrapper.Valid.pointer (h : x.Valid w) :
    x.pointer = 0 ∨ IsHandle w x.kind x.pointer := by
  rw [Wrapper.pointer]
  cases hhandle : x.handle with
  | none => exact Or.inl rfl
  | some p => exact Or.inr (h p hhandle)

/-! ### Scans -/

variable {target : Target} {buffer size out : Nat} {align : ScanAlignment} {hints : BitVec 32}

/-- A call that neither makes nor frees an object. -/
def KeepsObjects (w : World) (result : Exec (Status × World)) : Prop :=
  ∃ status w', result = .ok (status, w') ∧ w.SameObjects w'

/-- **Whatever is taken for a signature**, the scan of a buffer ends. -/
theorem libhatFindPattern_keeps (hx : x.Valid w)
    (hdef : ∀ sig, w.signatureAt x.pointer = .ok sig →
      MasksDefined target .auto sig align (toCppHints hints))
    (hread : w.memory.Readable buffer (buffer + size)) (hbuffer : buffer ≠ 0) (hout : out ≠ 0) :
    KeepsObjects w
      (libhatFindPattern target w x.pointer buffer size out (alignValue align) hints) := by
  rcases hx.pointer with hnull | hhandle
  · rw [libhatFindPattern, if_pos (Or.inl hnull)]
    exact ⟨_, w, rfl, .refl w⟩
  have hcheck := (checkType_of_isHandle hhandle).1
  by_cases hkind : x.kind = .signature
  · rw [hkind] at hhandle
    rw [decide_eq_true hkind] at hcheck
    obtain ⟨sig, hsig, hfull⟩ := signatureAt_of_isHandle hhandle
    obtain ⟨r, hr, _⟩ := libhatFindPattern_found target align hints hhandle.1 hcheck hsig hfull
      (hdef sig hsig) hread hbuffer hout
    exact ⟨_, _, hr, World.sameObjects_store w out _⟩
  · have hnull : ¬ (x.pointer = 0 ∨ (buffer = 0 ∧ size ≠ 0) ∨ out = 0) := by
      intro h
      exact h.elim hhandle.1 (Or.rec (fun h => hbuffer h.1) hout)
    rw [decide_eq_false hkind] at hcheck
    rw [libhatFindPattern, if_neg hnull, hcheck]
    exact ⟨_, w, rfl, .refl w⟩

variable {host : Host} {sectionName : Nat} {name : Text}

/-- **Whatever is taken for a signature and a module**, the scan of a section ends. -/
theorem libhatFindPatternMod_keeps (hx : x.Valid w) (hy : y.Valid w) (hname : sectionName ≠ 0)
    (hout : out ≠ 0) (htext : w.memory.readCStr sectionName = .ok name)
    (hdef : ∀ sig, w.signatureAt x.pointer = .ok sig →
      MasksDefined host.target .auto sig align (toCppHints hints))
    (hread : ∀ q, y.handle = some q →
      w.memory.Readable (host.modules.getSectionData w q name).data
        ((host.modules.getSectionData w q name).data
          + (host.modules.getSectionData w q name).size)) :
    KeepsObjects w (libhatFindPatternMod host w x.pointer y.pointer sectionName out
      (alignValue align) hints) := by
  rcases hx.pointer with hnull | hsig
  · rw [libhatFindPatternMod, if_pos (Or.inl hnull)]
    exact ⟨_, w, rfl, .refl w⟩
  rcases hy.pointer with hnull | hmod
  · rw [libhatFindPatternMod, if_pos (Or.inr (Or.inl hnull))]
    exact ⟨_, w, rfl, .refl w⟩
  have hnull : ¬ (x.pointer = 0 ∨ y.pointer = 0 ∨ sectionName = 0 ∨ out = 0) := by
    intro h
    exact h.elim hsig.1 (Or.rec hmod.1 (Or.rec hname hout))
  have hcheck := (checkType_of_isHandle hsig).1
  have hcheckMod := (checkType_of_isHandle hmod).2
  by_cases hkind : x.kind = .signature
  · rw [hkind] at hsig
    rw [decide_eq_true hkind] at hcheck
    by_cases hkind' : y.kind = .module
    · rw [decide_eq_true hkind'] at hcheckMod
      obtain ⟨sig, hat, hfull⟩ := signatureAt_of_isHandle hsig
      obtain ⟨r, hr, _⟩ := libhatFindPatternMod_found align hints hsig.1
        hmod.1 hname hout hcheck hcheckMod hat hfull (hdef sig hat) htext
        (hread _ (y.handle_of_pointer_ne hmod.1))
      exact ⟨_, _, hr, World.sameObjects_store w out _⟩
    · rw [decide_eq_false hkind'] at hcheckMod
      rw [libhatFindPatternMod, if_neg hnull, hcheck, ok_bind, hcheckMod]
      exact ⟨_, w, rfl, .refl w⟩
  · rw [decide_eq_false hkind] at hcheck
    rw [libhatFindPatternMod, if_neg hnull, hcheck]
    exact ⟨_, w, rfl, .refl w⟩

/-! ### Modules -/

/-- **The functions on a module**, with its handle. -/
theorem moduleCall_keeps (h : IsHandle w .module p) {pointers : List Nat}
    (hpointers : 0 ∉ pointers) {body : Exec World} (w' : World) (hbody : body = .ok w')
    (hw : w.SameObjects w') : KeepsObjects w (moduleCall w p pointers body) := by
  have hnull : 0 ∉ p :: pointers := by
    rw [List.mem_cons, not_or]
    exact ⟨Ne.symm h.1, hpointers⟩
  have hcheck : w.checkModule p = .ok true := (checkType_of_isHandle h).2
  rw [moduleCall, if_neg hnull, hcheck, ok_bind, hbody]
  exact ⟨.success, w', rfl, hw⟩

theorem moduleCall_pure_keeps (h : IsHandle w .module p) {pointers : List Nat}
    (hpointers : 0 ∉ pointers) (hw : w.SameObjects w') :
    KeepsObjects w (moduleCall w p pointers (pure w')) :=
  moduleCall_keeps h hpointers w' rfl hw

end

end Python

end Libhat

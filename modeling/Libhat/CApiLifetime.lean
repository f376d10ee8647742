import Libhat.CApiCalls
import Libhat.Lib.Runs

/-!
# The objects of the C interface

`libhat_free` destroys an object and leaves a tombstone in the freed bytes, by which it
knows the object when it is freed again.  The bytes stay as they are until the allocator
uses their address for another object; objects at two addresses do not overlap.

* `destroyed_nodup`: no object is destroyed twice.
* `stale_free_detected_iff`: in a run of calls, freeing a handle that was freed before always
  ends in `std::terminate` if and only if no such handle is freed while an object lives at
  its address.
-/

namespace Libhat

open Runs

/-! ### The functions -/

/-- `tombstone_type::type_id`. -/
def tombstoneTypeId : BitVec 32 := 0xF27EC9D1#32

/-- The tag of an object with this payload. -/
def Payload.typeId : Payload → BitVec 32
  | signature _ => signatureTypeId
  | other => moduleTypeId

namespace World

/-- `new libhat_module{…}`. -/
def newModule (allocator : Allocator) (w : World) : Nat × World :=
  let p := allocator.address w
  (p, { w with
    objects := Function.update w.objects p (some ⟨objectMagic, moduleTypeId, .other⟩)
    live := p :: w.live })

/-- An object is made at an address. -/
def newAt (w : World) (payload : Payload) (p : Nat) : World :=
  { w with
    objects := Function.update w.objects p (some ⟨objectMagic, payload.typeId, payload⟩)
    live := p :: w.live }

/-- The tag of the object that was read at `p` is overwritten. -/
def setType (w : World) (p : Nat) (object : FfiObject) (type : BitVec 32) : World :=
  { w with objects := Function.update w.objects p (some { object with type := type }) }

/-- `p.destroy(p)`: what stood at the address stays there. -/
def destroy (w : World) (p : Nat) : Exec World :=
  if p ∈ w.live then .ok { w with live := w.live.filter (· ≠ p) } else .error (.badObject p)

end World

/-- What the platform finds: whether `hat::process::get_process_module` has a module to return,
and of which names `hat::process::get_module` has one. -/
structure LoadedModules where
  program : Bool
  named : Text → Bool

/-- `libhat_get_process_module`. -/
def libhatGetProcessModule (allocator : Allocator) (loaded : LoadedModules) (w : World) :
    Exec (Nat × World) :=
  if loaded.program then .ok (w.newModule allocator) else .error .abort

/-- `libhat_get_module`. -/
def libhatGetModule (allocator : Allocator) (loaded : LoadedModules) (w : World) (name : Nat) :
    Exec (Nat × World) :=
  if name = 0 then
    libhatGetProcessModule allocator loaded w
  else do
    let name ← w.memory.readCStr name
    if loaded.named name then
      return w.newModule allocator
    return (0, w)

/-- How `libhat_free` ends. -/
inductive FreeResult where
  | ignored
  | destroyed (w : World)
  /-- `std::terminate` -/
  | terminated

/-- `libhat_free`. -/
def libhatFree (w : World) (object : Nat) : Exec FreeResult := do
  if object = 0 then
    return .ignored
  let p ← w.objectAt object
  if p.magic ≠ objectMagic then
    return .terminated
  let w := w.setType object p tombstoneTypeId
  if p.type = tombstoneTypeId then
    return .terminated
  let w ← w.destroy object
  return .destroyed w

/-! ### Runs -/

/-- A call that makes or frees objects, or what the program does in between.  Every call has an
allocator of its own, which may return any address not in use. -/
inductive LifetimeCall where
  | parseSignature (allocator : Allocator) (signatureStr signatureOut : Nat)
  | createSignature (allocator : Allocator) (bytes mask size signatureOut : Nat)
  | getModule (allocator : Allocator) (name : Nat)
  /-- `libhat_free` of the handle with this number -/
  | free (handle : Nat)
  /-- the program writes to its own memory -/
  | write (memory : Memory)

/-- Whether the program goes on. -/
inductive Progress where
  | running
  | terminated
  | aborted
  | faulted
  deriving DecidableEq

/-- The state of a run.  The handles and their objects are numbered in the order in which the
calls gave them. -/
structure Lifetimes where
  world : World
  /-- the addresses behind the handles -/
  handles : List Nat
  /-- the handles that were freed -/
  freed : List Nat
  /-- the last object made at an address -/
  occupant : Nat → Nat
  /-- the objects that were destroyed -/
  destroyed : List Nat
  progress : Progress

namespace Lifetimes

/-- No handle is given yet. -/
def start (w : World) : Lifetimes := ⟨w, [], [], fun _ => 0, [], .running⟩

/-- A call has made the object at `p`. -/
def issue (s : Lifetimes) (w : World) (p : Nat) : Lifetimes :=
  { s with
    world := w
    handles := s.handles ++ [p]
    occupant := Function.update s.occupant p s.handles.length }

/-- After a call that stores its handle through `out`. -/
def afterStatus (s : Lifetimes) (out : Nat) : Exec (Status × World) → Lifetimes
  | .ok (status, w) => if status = .success then s.issue w (w.cells out) else { s with world := w }
  | .error _ => { s with progress := .faulted }

/-- After a call that returns its handle, or null. -/
def afterPointer (s : Lifetimes) : Exec (Nat × World) → Lifetimes
  | .ok (p, w) => if p = 0 then { s with world := w } else s.issue w p
  | .error .abort => { s with progress := .aborted }
  | .error _ => { s with progress := .faulted }

/-- After `libhat_free` of a handle, which has the address `p`. -/
def afterFree (s : Lifetimes) (handle p : Nat) : Exec FreeResult → Lifetimes
  | .ok .ignored => { s with freed := handle :: s.freed }
  | .ok (.destroyed w) =>
    { s with
      world := w
      freed := handle :: s.freed
      destroyed := s.destroyed ++ [s.occupant p] }
  | .ok .terminated => { s with progress := .terminated }
  | .error _ => { s with progress := .faulted }

/-- One call.  A number that no handle has yet names nothing, and a program that has ended
makes no calls. -/
def step (loaded : LoadedModules) (s : Lifetimes) (call : LifetimeCall) : Lifetimes :=
  if s.progress ≠ .running then s else
  match call with
  | .parseSignature allocator signatureStr signatureOut =>
    s.afterStatus signatureOut
      (libhatParseSignature allocator s.world signatureStr signatureOut)
  | .createSignature allocator bytes mask size signatureOut =>
    s.afterStatus signatureOut
      (libhatCreateSignature allocator s.world bytes mask size signatureOut)
  | .getModule allocator name => s.afterPointer (libhatGetModule allocator loaded s.world name)
  | .free handle =>
    match s.handles[handle]? with
    | some p => s.afterFree handle p (libhatFree s.world p)
    | none => s
  | .write memory => { s with world := { s.world with memory := memory } }

/-- The call frees a handle that was freed before. -/
def Stale (s : Lifetimes) : LifetimeCall → Prop
  | .free handle => s.progress = .running ∧ handle ∈ s.freed
  | _ => False

/-- What the tombstone is for: such a call ends in `std::terminate`, and destroys nothing. -/
def Detected (loaded : LoadedModules) (s : Lifetimes) (call : LifetimeCall) : Prop :=
  s.Stale call → (s.step loaded call).progress = .terminated ∧
    (s.step loaded call).destroyed = s.destroyed

/-- The call frees no handle that was freed before and whose address has an object again. -/
def AddressNotReused (s : Lifetimes) (call : LifetimeCall) : Prop :=
  s.Stale call → ∀ handle p, call = .free handle → s.handles[handle]? = some p → p ∉ s.world.live

end Lifetimes

/-! ### What a call changes -/

/-- An object was made at `p`. -/
structure World.Created (w w' : World) (p : Nat) : Prop where
  ne_null : p ≠ 0
  fresh : p ∉ w.live
  live : w'.live = p :: w.live
  objects : ∃ object : FfiObject, object.magic = objectMagic ∧ object.type ≠ tombstoneTypeId ∧
    w'.objects = Function.update w.objects p (some object)

/-- No object was made or freed. -/
structure World.SameObjects (w w' : World) : Prop where
  live : w'.live = w.live
  objects : w'.objects = w.objects

section

variable {w w' : World} {allocator : Allocator} {p : Nat}

theorem World.SameObjects.refl (w : World) : w.SameObjects w := ⟨rfl, rfl⟩

theorem signatureTypeId_ne : signatureTypeId ≠ tombstoneTypeId := by decide

theorem World.created_newSignature (signature : Signature) (out : Nat) :
    w.Created ((w.newSignature allocator signature).2.store out (allocator.address w))
      (allocator.address w) where
  ne_null := allocator.address_ne_null w
  fresh := allocator.address_fresh w
  live := rfl
  objects := ⟨⟨objectMagic, signatureTypeId, .signature signature⟩, rfl, signatureTypeId_ne, rfl⟩

theorem World.created_newModule :
    w.Created (w.newModule allocator).2 (allocator.address w) where
  ne_null := allocator.address_ne_null w
  fresh := allocator.address_fresh w
  live := rfl
  objects := ⟨⟨objectMagic, moduleTypeId, .other⟩, rfl, by decide, rfl⟩

/-- What a call that gives its handle through `out` does to the objects. -/
def MakesObject (w : World) (out : Nat) (result : Exec (Status × World)) : Prop :=
  ∀ status w', result = .ok (status, w') →
    (status = .success → w.Created w' (w'.cells out)) ∧ (status ≠ .success → w.SameObjects w')

theorem makesObject_error {out : Nat} {fault : Fault} : MakesObject w out (.error fault) := by
  intro status w' h
  exact absurd h (by simp)

theorem makesObject_failure {out : Nat} {status : Status} (hw : w.SameObjects w')
    (hstatus : status ≠ .success) : MakesObject w out (.ok (status, w')) := by
  intro status₂ w₂ h
  rw [Except.ok.injEq, Prod.mk.injEq] at h
  obtain ⟨rfl, rfl⟩ := h
  exact ⟨fun hsuccess => absurd hsuccess hstatus, fun _ => hw⟩

theorem makesObject_newSignature (signature : Signature) (out : Nat) :
    MakesObject w out (.ok (.success,
      (w.newSignature allocator signature).2.store out (allocator.address w))) := by
  intro status w' h
  rw [Except.ok.injEq, Prod.mk.injEq] at h
  obtain ⟨rfl, rfl⟩ := h
  refine ⟨fun _ => ?_, fun hne => absurd rfl hne⟩
  have hcell : ((w.newSignature allocator signature).2.store out (allocator.address w)).cells out
      = allocator.address w := by
    simp [World.store]
  rw [hcell]
  exact World.created_newSignature signature out

theorem libhatParseSignature_makesObject (signatureStr signatureOut : Nat) :
    MakesObject w signatureOut
      (libhatParseSignature allocator w signatureStr signatureOut) := by
  rw [libhatParseSignature]
  cases w.memory.readCStr signatureStr with
  | error fault => exact makesObject_error
  | ok str =>
    rw [ok_bind]
    cases parseSignature str with
    | error fault => exact makesObject_error
    | ok result =>
      rw [ok_bind]
      by_cases hout : signatureOut = 0
      · subst hout
        cases result with
        | error e => exact makesObject_error
        | ok signature => exact makesObject_error
      · cases result with
        | error e =>
          simp only [World.storeAt, if_neg hout, ok_bind, pure_eq_ok]
          refine makesObject_failure ⟨rfl, rfl⟩ ?_
          cases e <;> decide
        | ok signature =>
          simp only [World.storeAt, if_neg hout, ok_bind, pure_eq_ok]
          exact makesObject_newSignature signature signatureOut

theorem libhatCreateSignature_makesObject (bytes mask size signatureOut : Nat) :
    MakesObject w signatureOut
      (libhatCreateSignature allocator w bytes mask size signatureOut) := by
  rw [libhatCreateSignature]
  by_cases hout : signatureOut = 0
  · rw [if_pos hout]
    exact makesObject_failure (.refl w) (by decide)
  rw [if_neg hout]
  by_cases hnull : size ≠ 0 ∧ (bytes = 0 ∨ mask = 0)
  · rw [if_pos hnull]
    exact makesObject_failure (.refl w) (by decide)
  rw [if_neg hnull]
  by_cases hsize : size = 0
  · rw [if_pos hsize]
    exact makesObject_failure (.refl w) (by decide)
  rw [if_neg hsize]
  cases createElements w.memory bytes mask size 0 [] false with
  | error fault => exact makesObject_error
  | ok result =>
    obtain ⟨signature, containsByte⟩ := result
    cases containsByte with
    | false => exact makesObject_failure (.refl w) (by decide)
    | true => exact makesObject_newSignature signature signatureOut

theorem libhatGetModule_ok {loaded : LoadedModules} {name : Nat}
    (h : libhatGetModule allocator loaded w name = .ok (p, w')) :
    (p ≠ 0 → w.Created w' p) ∧ (p = 0 → w.SameObjects w') := by
  have hnew : ∀ p w', w.newModule allocator = (p, w') →
      (p ≠ 0 → w.Created w' p) ∧ (p = 0 → w.SameObjects w') := by
    intro p w' heq
    obtain rfl : allocator.address w = p := congrArg Prod.fst heq
    obtain rfl : (w.newModule allocator).2 = w' := congrArg Prod.snd heq
    exact ⟨fun _ => World.created_newModule,
      fun hzero => absurd hzero (allocator.address_ne_null w)⟩
  rw [libhatGetModule] at h
  by_cases hname : name = 0
  · rw [if_pos hname, libhatGetProcessModule] at h
    by_cases hprogram : loaded.program = true
    · rw [if_pos hprogram, Except.ok.injEq] at h
      exact hnew p w' h
    · rw [if_neg hprogram] at h
      cases h
  rw [if_neg hname] at h
  cases hread : w.memory.readCStr name with
  | error fault =>
    rw [hread] at h
    exact absurd h (by simp [bind, Except.bind])
  | ok text =>
    rw [hread, ok_bind] at h
    by_cases hloaded : loaded.named text = true
    · rw [if_pos hloaded, pure_eq_ok, Except.ok.injEq] at h
      exact hnew p w' h
    · rw [if_neg hloaded, pure_eq_ok, Except.ok.injEq, Prod.mk.injEq] at h
      obtain ⟨rfl, rfl⟩ := h
      exact ⟨fun hne => absurd rfl hne, fun _ => .refl w⟩

/-! ### `libhat_free` -/

variable {object : FfiObject}

/-- A tombstone is recognised. -/
theorem libhatFree_tombstone (hp : p ≠ 0) (hobject : w.objects p = some object)
    (hmagic : object.magic = objectMagic) (htype : object.type = tombstoneTypeId) :
    libhatFree w p = .ok .terminated := by
  have hread : w.objectAt p = .ok object := by rw [World.objectAt, hobject]
  rw [libhatFree, if_neg hp, hread, ok_bind, if_neg (not_not_intro hmagic), if_pos htype]
  rfl

/-- An object is destroyed, and a tombstone stays behind. -/
theorem libhatFree_live (hp : p ≠ 0) (hobject : w.objects p = some object)
    (hmagic : object.magic = objectMagic) (htype : object.type ≠ tombstoneTypeId)
    (hlive : p ∈ w.live) :
    ∃ w', libhatFree w p = .ok (.destroyed w') ∧ w'.live = w.live.filter (· ≠ p) ∧
      w'.objects
        = Function.update w.objects p (some { object with type := tombstoneTypeId }) := by
  have hread : w.objectAt p = .ok object := by rw [World.objectAt, hobject]
  have hlive' : p ∈ (w.setType p object tombstoneTypeId).live := hlive
  refine ⟨{ w.setType p object tombstoneTypeId with live := w.live.filter (· ≠ p) }, ?_, rfl, rfl⟩
  rw [libhatFree, if_neg hp, hread, ok_bind, if_neg (not_not_intro hmagic), if_neg htype,
    World.destroy, if_pos hlive']
  rfl

end

/-! ### The invariant -/

namespace Lifetimes

/-- What holds of every state of a run. -/
structure Wf (s : Lifetimes) : Prop where
  ne_null : 0 ∉ s.handles
  /-- there is a tombstone at every address that has no object any more -/
  header : ∀ p ∈ s.handles, ∃ object : FfiObject, s.world.objects p = some object ∧
    object.magic = objectMagic ∧ (object.type = tombstoneTypeId ↔ p ∉ s.world.live)
  occupied : ∀ p ∈ s.handles, s.handles[s.occupant p]? = some p
  intact : ∀ p ∈ s.handles, p ∈ s.world.live → s.occupant p ∉ s.destroyed
  destroyed_lt : ∀ i ∈ s.destroyed, i < s.handles.length
  freed_lt : ∀ i ∈ s.freed, i < s.handles.length
  nodup : s.destroyed.Nodup

theorem wf_start (w : World) : (start w).Wf where
  ne_null := List.not_mem_nil
  header _ hp := absurd hp List.not_mem_nil
  occupied _ hp := absurd hp List.not_mem_nil
  intact _ hp := absurd hp List.not_mem_nil
  destroyed_lt _ hi := absurd hi List.not_mem_nil
  freed_lt _ hi := absurd hi List.not_mem_nil
  nodup := List.nodup_nil

section

variable {s : Lifetimes} {w : World} {p : Nat}

theorem Wf.occupant_lt (h : s.Wf) (hp : p ∈ s.handles) : s.occupant p < s.handles.length :=
  (List.getElem?_eq_some_iff.mp (h.occupied p hp)).1

/-- The invariant says nothing about bytes, cells and progress. -/
theorem Wf.congr (h : s.Wf) (hw : s.world.SameObjects w) (progress : Progress) :
    ({ s with world := w, progress := progress } : Lifetimes).Wf where
  ne_null := h.ne_null
  header q hq := by
    obtain ⟨object, hobject, hmagic, htype⟩ := h.header q hq
    refine ⟨object, ?_, hmagic, ?_⟩
    · show w.objects q = some object
      rw [hw.objects]
      exact hobject
    · show _ ↔ q ∉ w.live
      rw [hw.live]
      exact htype
  occupied := h.occupied
  intact q hq hlive := by
    refine h.intact q hq ?_
    rw [← hw.live]
    exact hlive
  destroyed_lt := h.destroyed_lt
  freed_lt := h.freed_lt
  nodup := h.nodup

theorem mem_of_mem_issue {q : Nat} (hq : q ∈ (s.issue w p).handles) (hqp : q ≠ p) :
    q ∈ s.handles := by
  rcases List.mem_append.mp hq with hold | hnew
  · exact hold
  · exact absurd (List.mem_singleton.mp hnew) hqp

/-- **A new object** gets a number of its own, also at an address that had one before. -/
theorem Wf.issue (h : s.Wf) (hw : s.world.Created w p) : (s.issue w p).Wf where
  ne_null := by
    show 0 ∉ s.handles ++ [p]
    rw [List.mem_append, List.mem_singleton]
    intro hzero
    rcases hzero with hzero | hzero
    · exact h.ne_null hzero
    · exact hw.ne_null hzero.symm
  header q hq := by
    obtain ⟨object, hmagic, htype, hobjects⟩ := hw.objects
    show ∃ object : FfiObject, w.objects q = some object ∧ object.magic = objectMagic ∧
      (object.type = tombstoneTypeId ↔ q ∉ w.live)
    rw [hobjects, hw.live]
    by_cases hqp : q = p
    · refine ⟨object, by rw [hqp, Function.update_self], hmagic, ?_⟩
      exact iff_of_false htype (not_not_intro (hqp ▸ List.mem_cons_self))
    · have hold : q ∈ s.handles := mem_of_mem_issue hq hqp
      rw [Function.update_of_ne hqp, List.mem_cons, or_iff_right hqp]
      exact h.header q hold
  occupied q hq := by
    show (s.handles ++ [p])[Function.update s.occupant p s.handles.length q]? = some q
    by_cases hqp : q = p
    · rw [hqp, Function.update_self]
      simp
    · have hold : q ∈ s.handles := mem_of_mem_issue hq hqp
      rw [Function.update_of_ne hqp]
      rw [List.getElem?_append_left (h.occupant_lt hold)]
      exact h.occupied q hold
  intact q hq hlive := by
    show Function.update s.occupant p s.handles.length q ∉ s.destroyed
    by_cases hqp : q = p
    · rw [hqp, Function.update_self]
      exact fun hmem => Nat.lt_irrefl _ (h.destroyed_lt _ hmem)
    · have hold : q ∈ s.handles := mem_of_mem_issue hq hqp
      have hlive' : q ∈ w.live := hlive
      rw [hw.live, List.mem_cons, or_iff_right hqp] at hlive'
      rw [Function.update_of_ne hqp]
      exact h.intact q hold hlive'
  destroyed_lt i hi := by
    show i < (s.handles ++ [p]).length
    rw [List.length_append]
    exact Nat.lt_add_right _ (h.destroyed_lt i hi)
  freed_lt i hi := by
    show i < (s.handles ++ [p]).length
    rw [List.length_append]
    exact Nat.lt_add_right _ (h.freed_lt i hi)
  nodup := h.nodup

/-- **An object that is destroyed** was not destroyed before. -/
theorem Wf.destroy (h : s.Wf) {handle : Nat} {object : FfiObject}
    (hhandle : s.handles[handle]? = some p) (hobject : s.world.objects p = some object)
    (hlive : p ∈ s.world.live) (hwlive : w.live = s.world.live.filter (· ≠ p))
    (hwobjects : w.objects
      = Function.update s.world.objects p (some { object with type := tombstoneTypeId })) :
    (s.afterFree handle p (.ok (.destroyed w))).Wf where
  ne_null := h.ne_null
  header q hq := by
    show ∃ object : FfiObject, w.objects q = some object ∧ object.magic = objectMagic ∧
      (object.type = tombstoneTypeId ↔ q ∉ w.live)
    obtain ⟨found, hfound, hmagic, htype⟩ := h.header q hq
    rw [hwobjects, hwlive]
    by_cases hqp : q = p
    · subst hqp
      rw [hobject, Option.some.injEq] at hfound
      subst hfound
      exact ⟨_, Function.update_self _ _ _, hmagic, iff_of_true rfl (by simp)⟩
    · rw [Function.update_of_ne hqp]
      refine ⟨found, hfound, hmagic, ?_⟩
      simpa [hqp] using htype
  occupied := h.occupied
  intact q hq hqlive := by
    show s.occupant q ∉ s.destroyed ++ [s.occupant p]
    have hq' : q ∈ s.world.live ∧ q ≠ p := by
      have hmem : q ∈ w.live := hqlive
      rw [hwlive] at hmem
      simpa using hmem
    rw [List.mem_append, List.mem_singleton]
    intro hmem
    rcases hmem with hmem | hsame
    · exact h.intact q hq hq'.1 hmem
    · have hp : p ∈ s.handles := List.mem_of_getElem? hhandle
      have hqocc := h.occupied q hq
      rw [hsame, h.occupied p hp, Option.some.injEq] at hqocc
      exact hq'.2 hqocc.symm
  destroyed_lt i hi := by
    have hi' : i ∈ s.destroyed ++ [s.occupant p] := hi
    rw [List.mem_append, List.mem_singleton] at hi'
    rcases hi' with hi' | hi'
    · exact h.destroyed_lt i hi'
    · rw [hi']
      exact h.occupant_lt (List.mem_of_getElem? hhandle)
  freed_lt i hi := by
    have hi' : i ∈ handle :: s.freed := hi
    rw [List.mem_cons] at hi'
    rcases hi' with hi' | hi'
    · rw [hi']
      exact (List.getElem?_eq_some_iff.mp hhandle).1
    · exact h.freed_lt i hi'
  nodup := by
    show (s.destroyed ++ [s.occupant p]).Nodup
    have hp : p ∈ s.handles := List.mem_of_getElem? hhandle
    rw [List.nodup_append_comm]
    exact List.nodup_cons.mpr ⟨h.intact p hp hlive, h.nodup⟩

/-! ### One call -/

variable {loaded : LoadedModules}

theorem step_ended (h : s.progress ≠ .running) (call : LifetimeCall) : s.step loaded call = s :=
  if_pos h

theorem step_free {handle : Nat} (hrunning : s.progress = .running)
    (hhandle : s.handles[handle]? = some p) :
    s.step loaded (.free handle) = s.afterFree handle p (libhatFree s.world p) := by
  rw [step, if_neg (not_not_intro hrunning)]
  simp only [hhandle]

/-- **What freeing a handle does** depends on whether there is an object at its address. -/
theorem Wf.free_cases (h : s.Wf) (loaded : LoadedModules) {handle : Nat}
    (hrunning : s.progress = .running) (hhandle : s.handles[handle]? = some p) :
    (p ∉ s.world.live ∧ s.step loaded (.free handle) = { s with progress := .terminated }) ∨
    (p ∈ s.world.live ∧ (s.step loaded (.free handle)).Wf ∧
      (s.step loaded (.free handle)).destroyed = s.destroyed ++ [s.occupant p]) := by
  have hp : p ∈ s.handles := List.mem_of_getElem? hhandle
  have hnull : p ≠ 0 := fun hzero => h.ne_null (hzero ▸ hp)
  obtain ⟨object, hobject, hmagic, htype⟩ := h.header p hp
  rw [step_free hrunning hhandle]
  by_cases hlive : p ∈ s.world.live
  · have hne : object.type ≠ tombstoneTypeId := fun heq => htype.mp heq hlive
    obtain ⟨w', hfree, hwlive, hwobjects⟩ := libhatFree_live hnull hobject hmagic hne hlive
    rw [hfree]
    exact Or.inr ⟨hlive, h.destroy hhandle hobject hlive hwlive hwobjects, rfl⟩
  · rw [libhatFree_tombstone hnull hobject hmagic (htype.mpr hlive)]
    exact Or.inl ⟨hlive, rfl⟩

theorem Wf.afterStatus (h : s.Wf) {out : Nat} {result : Exec (Status × World)}
    (hresult : MakesObject s.world out result) : (s.afterStatus out result).Wf := by
  cases result with
  | error fault => exact h.congr (.refl s.world) .faulted
  | ok result =>
    obtain ⟨status, w⟩ := result
    obtain ⟨hsuccess, hfailure⟩ := hresult status w rfl
    rw [Lifetimes.afterStatus]
    by_cases hstatus : status = .success
    · rw [if_pos hstatus]
      exact h.issue (hsuccess hstatus)
    · rw [if_neg hstatus]
      exact h.congr (hfailure hstatus) s.progress

/-- **One call** keeps the invariant. -/
theorem Wf.step (h : s.Wf) (call : LifetimeCall) : (s.step loaded call).Wf := by
  by_cases hrunning : s.progress = .running
  · cases call with
    | parseSignature allocator signatureStr signatureOut =>
      rw [Lifetimes.step, if_neg (not_not_intro hrunning)]
      exact h.afterStatus (libhatParseSignature_makesObject signatureStr signatureOut)
    | createSignature allocator bytes mask size signatureOut =>
      rw [Lifetimes.step, if_neg (not_not_intro hrunning)]
      exact h.afterStatus (libhatCreateSignature_makesObject bytes mask size signatureOut)
    | getModule allocator name =>
      rw [Lifetimes.step, if_neg (not_not_intro hrunning)]
      show (s.afterPointer (libhatGetModule allocator loaded s.world name)).Wf
      cases hget : libhatGetModule allocator loaded s.world name with
      | error fault =>
        by_cases habort : fault = .abort
        · rw [habort]
          exact h.congr (.refl s.world) .aborted
        · have hfaulted : s.afterPointer (.error fault) = { s with progress := .faulted } := by
            rw [afterPointer]
            rintro rfl
            exact habort rfl
          rw [hfaulted]
          exact h.congr (.refl s.world) .faulted
      | ok result =>
        obtain ⟨p, w⟩ := result
        obtain ⟨hcreated, hnull⟩ := libhatGetModule_ok hget
        rw [afterPointer]
        by_cases hp : p = 0
        · rw [if_pos hp]
          exact h.congr (hnull hp) s.progress
        · rw [if_neg hp]
          exact h.issue (hcreated hp)
    | free handle =>
      cases hhandle : s.handles[handle]? with
      | none =>
        rw [Lifetimes.step, if_neg (not_not_intro hrunning)]
        simp only [hhandle]
        exact h
      | some p =>
        rcases h.free_cases loaded hrunning hhandle with hdead | hlive
        · rw [hdead.2]
          exact h.congr (.refl s.world) .terminated
        · exact hlive.2.1
    | write memory =>
      rw [Lifetimes.step, if_neg (not_not_intro hrunning)]
      exact h.congr (w := { s.world with memory := memory }) ⟨rfl, rfl⟩ s.progress
  · rw [step_ended hrunning]
    exact h

/-- A call meets the claim of the tombstone exactly if it does not free a handle whose address
is in use again. -/
theorem Wf.detected_iff (h : s.Wf) (call : LifetimeCall) :
    s.Detected loaded call ↔ s.AddressNotReused call := by
  by_cases hstale : s.Stale call
  · cases call with
    | free handle =>
      obtain ⟨hrunning, hfreed⟩ := hstale
      obtain ⟨p, hhandle⟩ : ∃ p, s.handles[handle]? = some p :=
        ⟨_, List.getElem?_eq_getElem (h.freed_lt handle hfreed)⟩
      constructor
      · intro hdetected _ handle' q hcall hq
        rw [LifetimeCall.free.injEq] at hcall
        rw [← hcall, hhandle, Option.some.injEq] at hq
        subst hq
        rcases h.free_cases loaded hrunning hhandle with hdead | hlive
        · exact hdead.1
        · have hsame := (hdetected ⟨hrunning, hfreed⟩).2
          rw [hlive.2.2] at hsame
          exact absurd hsame (by simp)
      · intro hnot _
        have hdead := hnot ⟨hrunning, hfreed⟩ handle p rfl hhandle
        rcases h.free_cases loaded hrunning hhandle with hcase | hcase
        · rw [hcase.2]
          exact ⟨rfl, rfl⟩
        · exact absurd hcase.1 hdead
    | _ => exact absurd hstale id
  · exact iff_of_true (fun h => absurd h hstale) (fun h => absurd h hstale)

end

/-! ### Whole runs -/

/-- **No object is destroyed twice**, in any run. -/
theorem destroyed_nodup (loaded : LoadedModules) (w : World) (run : List LifetimeCall) :
    Always (step loaded) (fun s => s.destroyed.Nodup) (start w) run :=
  Always.imp (fun _ h => h.nodup)
    (always_of_steps (fun _ call h _ => h.step call) (wf_start w) (steps_true _ run))

/-- **Freeing a handle again.**  In every run of calls that make and free objects, no object is
destroyed twice and every `libhat_free` of a handle that was freed before ends in
`std::terminate` and destroys nothing, if and only if no such handle is freed while there is a
later object at its address. -/
theorem stale_free_detected_iff (loaded : LoadedModules) (w : World) (run : List LifetimeCall) :
    (Steps (step loaded) (Detected loaded) (start w) run ∧
      Always (step loaded) (fun s => s.destroyed.Nodup) (start w) run) ↔
    Steps (step loaded) AddressNotReused (start w) run := by
  rw [and_iff_left (destroyed_nodup loaded w run)]
  exact steps_congr (fun _ call h _ => h.step call) (fun _ call h _ => h.detected_iff call)
    (wf_start w) (steps_true _ run)

/-- An allocator that uses one address whenever it is free. -/
def reusing : Allocator where
  address w := if 16 ∈ w.live then w.live.sum + 1 else 16
  address_ne_null w := by
    by_cases h : 16 ∈ w.live
    · rw [if_pos h]
      exact Nat.succ_ne_zero _
    · rw [if_neg h]
      decide
  address_fresh w := by
    by_cases h : 16 ∈ w.live
    · rw [if_pos h]
      exact Allocator.bump.address_fresh w
    · rw [if_neg h]
      exact h

/-- Two modules, one after the other at the same address; the handle of the first is freed twice. -/
def reusedAddress : List LifetimeCall :=
  [.getModule reusing 0, .free 0, .getModule reusing 0, .free 0]

def emptyWorld : World := ⟨fun _ => none, fun _ => none, [], fun _ => 0⟩

/-- A process whose only module is that of the program. -/
def programOnly : LoadedModules := ⟨true, fun _ => false⟩

/-- The second `libhat_free` of the first handle destroys the second object, and returns. -/
theorem reused_address_not_detected :
    (after (step programOnly) (start emptyWorld) reusedAddress).destroyed = [0, 1] ∧
    (after (step programOnly) (start emptyWorld) reusedAddress).progress = .running ∧
    ¬ Steps (step programOnly) (Detected programOnly) (start emptyWorld) reusedAddress := by
  refine ⟨by decide, by decide, ?_⟩
  intro h
  have hstale : Stale (after (step programOnly) (start emptyWorld)
      [.getModule reusing 0, .free 0, .getModule reusing 0]) (.free 0) :=
    ⟨by decide, by decide⟩
  exact absurd (h.2.2.2.1 hstale).1 (by decide)

end Lifetimes

end Libhat

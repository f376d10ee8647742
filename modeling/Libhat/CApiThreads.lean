import Libhat.CApiLifetime
import Libhat.Lib.Refinement

/-!
# `libhat_free` on several threads

`libhat_free` reads the magic number, exchanges the tag for the tombstone, and destroys the
object if there was another tag before.  Calls on several threads can take these steps in any
order, and other threads make objects in between.  As before, the bytes of a freed object stay
as they are until the allocator uses their address again.

* `Interleaved.Wf.step`: between the exchange and the end, an object belongs to one call.
* `free_linearizable`: whatever the order, the calls do what they would do one after the
  other, each at once in the step in which it exchanges the tag.
* `free_never_faults`: so an object is never destroyed when it is not there, or there no more.
-/

namespace Libhat

open Runs

/-! ### Steps of calls -/

/-- What has the magic number has a tombstone if and only if it is no object any more. -/
def World.Tagged (w : World) : Prop :=
  ∀ p object, w.objects p = some object → object.magic = objectMagic →
    (object.type = tombstoneTypeId ↔ p ∉ w.live)

/-- How far a call of `libhat_free` has come. -/
inductive FreeCall where
  | called (object : Nat)
  /-- the magic number was right -/
  | checked (object : Nat)
  /-- the tag is the tombstone now, and was not before -/
  | exchanged (object : Nat)
  | returned (object : Nat)
  /-- the program ended in the call -/
  | stopped (object : Nat)

/-- The object that the call is about to destroy. -/
def FreeCall.owned : FreeCall → Option Nat
  | exchanged object => some object
  | _ => none

/-- What the call is to free. -/
def FreeCall.object : FreeCall → Nat
  | called object => object
  | checked object => object
  | exchanged object => object
  | returned object => object
  | stopped object => object

/-- Calls of `libhat_free`, by their numbers, while they are under way. -/
structure Interleaved where
  world : World
  calls : List FreeCall
  progress : Progress

/-- What can happen. -/
inductive ThreadEvent where
  /-- a thread makes an object, for which `new` returns this address -/
  | create (payload : Payload) (p : Nat)
  /-- a thread calls `libhat_free` -/
  | call (object : Nat)
  /-- a call of `libhat_free` takes its next step -/
  | advance (call : Nat)

namespace Interleaved

def start (w : World) : Interleaved := ⟨w, [], .running⟩

/-- A call has come this far. -/
def setCall (s : Interleaved) (i : Nat) (call : FreeCall) : Interleaved :=
  { s with calls := s.calls.set i call }

/-- `p.magic != object_magic`. -/
def checkMagic (s : Interleaved) (i object : Nat) : Interleaved :=
  match s.world.objectAt object with
  | .error _ => { s.setCall i (.stopped object) with progress := .faulted }
  | .ok p =>
    if p.magic ≠ objectMagic then { s.setCall i (.stopped object) with progress := .terminated }
    else s.setCall i (.checked object)

/-- `p.type.exchange(tombstone)`. -/
def exchangeType (s : Interleaved) (i object : Nat) : Interleaved :=
  match s.world.objectAt object with
  | .error _ => { s.setCall i (.stopped object) with progress := .faulted }
  | .ok p =>
    let s := { s with world := s.world.setType object p tombstoneTypeId }
    if p.type = tombstoneTypeId then { s.setCall i (.stopped object) with progress := .terminated }
    else s.setCall i (.exchanged object)

/-- `p.destroy(p)`. -/
def destroyObject (s : Interleaved) (i object : Nat) : Interleaved :=
  match s.world.destroy object with
  | .error _ => { s with progress := .faulted }
  | .ok world => { s.setCall i (.returned object) with world }

/-- The next step of a call. -/
def advance (s : Interleaved) (i : Nat) : FreeCall → Interleaved
  | .called object => if object = 0 then s.setCall i (.returned object) else s.checkMagic i object
  | .checked object => s.exchangeType i object
  | .exchanged object => s.destroyObject i object
  | _ => s

/-- One event.  An address that is null or in use is not one that `new` returns, and after the
end of the program nothing happens. -/
def step (s : Interleaved) (e : ThreadEvent) : Interleaved :=
  if s.progress ≠ .running then s else
  match e with
  | .create payload p =>
    if p = 0 ∨ p ∈ s.world.live then s else { s with world := s.world.newAt payload p }
  | .call object => { s with calls := s.calls ++ [.called object] }
  | .advance i =>
    match s.calls[i]? with
    | none => s
    | some call => s.advance i call

end Interleaved

/-! ### One call after the other -/

/-- The calls of a program that makes one after the other. -/
inductive SequentialCall where
  | create (payload : Payload) (p : Nat)
  /-- the call of `libhat_free` with this number -/
  | free (call object : Nat)

/-- What the program does. -/
structure Sequential where
  world : World
  progress : Progress

namespace Sequential

/-- After `libhat_free`. -/
def afterFree (s : Sequential) : Exec FreeResult → Sequential
  | .ok .ignored => s
  | .ok (.destroyed w) => { s with world := w }
  | .ok .terminated => { s with progress := .terminated }
  | .error _ => { s with progress := .faulted }

/-- One call. -/
def step (s : Sequential) (call : SequentialCall) : Sequential :=
  if s.progress ≠ .running then s else
  match call with
  | .create payload p =>
    if p = 0 ∨ p ∈ s.world.live then s else { s with world := s.world.newAt payload p }
  | .free _ object => s.afterFree (libhatFree s.world object)

end Sequential

/-- The number of a call of `libhat_free`. -/
def SequentialCall.number : SequentialCall → Option Nat
  | create _ _ => none
  | free call _ => some call

namespace Interleaved

/-- The objects that calls are about to destroy. -/
def owned (s : Interleaved) : List Nat := s.calls.filterMap FreeCall.owned

/-- The state with all these objects destroyed already. -/
def view (s : Interleaved) : Sequential where
  world := { s.world with live := s.world.live.filter (· ∉ s.owned) }
  progress := s.progress

/-- The call of `libhat_free` that takes effect in a step of a call, if any. -/
def advancePoints (s : Interleaved) (i : Nat) : FreeCall → List SequentialCall
  | .called object =>
    if object = 0 then [.free i object] else
    match s.world.objectAt object with
    | .error _ => [.free i object]
    | .ok p => if p.magic ≠ objectMagic then [.free i object] else []
  | .checked object => [.free i object]
  | _ => []

/-- The calls that take effect in a step. -/
def points (s : Interleaved) (e : ThreadEvent) : List SequentialCall :=
  if s.progress ≠ .running then [] else
  match e with
  | .create payload p => if p = 0 ∨ p ∈ s.world.live then [] else [.create payload p]
  | .call _ => []
  | .advance i =>
    match s.calls[i]? with
    | none => []
    | some call => s.advancePoints i call

/-! ### The invariant -/

/-- The objects that the calls with this number and the others are about to destroy. -/
theorem owned_setCall {s : Interleaved} {i : Nat} {call : FreeCall}
    (hcall : s.calls[i]? = some call) (call' : FreeCall) :
    (call'.owned.toList ++ s.owned).Perm (call.owned.toList ++ (s.setCall i call').owned) := by
  obtain ⟨hlt, hget⟩ := List.getElem?_eq_some_iff.mp hcall
  obtain ⟨l, l', hcalls, _, hset⟩ := @List.exists_of_set _ _ call' _ hlt
  have hsplit : ∀ c : FreeCall, (l ++ c :: l').filterMap FreeCall.owned
      = l.filterMap FreeCall.owned ++ (c.owned.toList ++ l'.filterMap FreeCall.owned) := by
    intro c
    rw [List.filterMap_append]
    cases hc : c.owned <;> simp [hc]
  rw [owned, owned, setCall, hset, hcalls, hget, hsplit, hsplit, List.perm_iff_count]
  intro p
  simp only [List.count_append]
  omega

/-- What holds of every state of a run. -/
structure Wf (s : Interleaved) : Prop where
  /-- there is a tombstone where there is no object, and where a call is about to destroy it -/
  tag : ∀ p object, s.world.objects p = some object → object.magic = objectMagic →
    (object.type = tombstoneTypeId ↔ p ∉ s.world.live ∨ p ∈ s.owned)
  owned_live : ∀ p ∈ s.owned, p ∈ s.world.live
  /-- no two calls are about to destroy one object -/
  nodup : s.owned.Nodup
  checked : ∀ p, .checked p ∈ s.calls →
    p ≠ 0 ∧ ∃ object, s.world.objects p = some object ∧ object.magic = objectMagic

theorem wf_start {w : World} (h : w.Tagged) : (start w).Wf where
  tag p object hobject hmagic := by
    rw [h p object hobject hmagic]
    exact (or_iff_left List.not_mem_nil).symm
  owned_live _ hp := absurd hp List.not_mem_nil
  nodup := List.nodup_nil
  checked _ hp := absurd hp List.not_mem_nil

section

variable {s : Interleaved} {i object : Nat} {call call' : FreeCall}

theorem mem_setCall {c : FreeCall} (h : c ∈ (s.setCall i call').calls) : c = call' ∨ c ∈ s.calls :=
  (List.mem_or_eq_of_mem_set h).symm

/-- A call that is about to destroy nothing goes on, and still is not. -/
theorem owned_perm (hcall : s.calls[i]? = some call) (h : call.owned = none)
    (h' : call'.owned = none) : s.owned.Perm (s.setCall i call').owned := by
  have hperm := owned_setCall hcall call'
  rw [h, h'] at hperm
  exact hperm

/-- The magic number says nothing about the objects that are there. -/
theorem Wf.setCall (h : s.Wf) (hcall : s.calls[i]? = some call) (hnone : call.owned = none)
    (hnone' : call'.owned = none) (hchecked : ∀ p, call' = .checked p →
      p ≠ 0 ∧ ∃ object, s.world.objects p = some object ∧ object.magic = objectMagic)
    (progress : Progress) : ({ s.setCall i call' with progress } : Interleaved).Wf := by
  have hperm := owned_perm hcall hnone hnone'
  refine ⟨fun p object hobject hmagic => ?_, fun p hp => ?_, hperm.nodup_iff.mp h.nodup, ?_⟩
  · rw [h.tag p object hobject hmagic]
    exact or_congr_right hperm.mem_iff
  · exact h.owned_live p (hperm.mem_iff.mpr hp)
  · intro p hp
    rcases mem_setCall hp with hnew | hold
    · exact hchecked p hnew.symm
    · exact h.checked p hold

/-- What is about to be destroyed is all that the view leaves out. -/
theorem view_congr {s' : Interleaved} (hworld : s'.world = s.world)
    (howned : ∀ p, p ∈ s'.owned ↔ p ∈ s.owned) (hprogress : s'.progress = s.progress) :
    s'.view = s.view := by
  have hlive : s.world.live.filter (· ∉ s'.owned) = s.world.live.filter (· ∉ s.owned) := by
    apply List.filter_congr
    intro p _
    exact decide_eq_decide.mpr (not_congr (howned p))
  rw [view, view, hworld, hprogress, hlive]

theorem mem_owned_of_getElem? (hcall : s.calls[i]? = some (.exchanged object)) :
    object ∈ s.owned :=
  List.mem_filterMap.mpr ⟨_, List.mem_of_getElem? hcall, rfl⟩

/-! ### One step -/

/-- **A new object** is nowhere that a call is about to destroy. -/
theorem Wf.create (h : s.Wf) (payload : Payload) {p : Nat} (hp : p ∉ s.world.live) :
    ({ s with world := s.world.newAt payload p } : Interleaved).Wf where
  tag q object hobject hmagic := by
    have hobject' : Function.update s.world.objects p
      (some ⟨objectMagic, payload.typeId, payload⟩) q = some object := hobject
    show _ ↔ q ∉ p :: s.world.live ∨ q ∈ s.owned
    by_cases hqp : q = p
    · subst hqp
      rw [Function.update_self, Option.some.injEq] at hobject'
      subst hobject'
      refine iff_of_false ?_ ?_
      · cases payload <;> simp [Payload.typeId, signatureTypeId, moduleTypeId, tombstoneTypeId]
      · intro hq
        rcases hq with hq | hq
        · exact hq List.mem_cons_self
        · exact hp (h.owned_live q hq)
    · rw [Function.update_of_ne hqp] at hobject'
      rw [h.tag q object hobject' hmagic, List.mem_cons, or_iff_right hqp]
  owned_live q hq := List.mem_cons_of_mem _ (h.owned_live q hq)
  nodup := h.nodup
  checked q hq := by
    obtain ⟨hne, object, hobject, hmagic⟩ := h.checked q hq
    refine ⟨hne, ?_⟩
    by_cases hqp : q = p
    · exact ⟨⟨objectMagic, payload.typeId, payload⟩, by
        rw [hqp]; exact Function.update_self _ _ _, rfl⟩
    · exact ⟨object, (Function.update_of_ne hqp _ _).trans hobject, hmagic⟩

theorem view_create (h : s.Wf) (payload : Payload) {p : Nat} (hp : p ∉ s.world.live) :
    ({ s with world := s.world.newAt payload p } : Interleaved).view
      = ⟨s.view.world.newAt payload p, s.progress⟩ := by
  have howned : p ∉ s.owned := fun hmem => hp (h.owned_live p hmem)
  have hlive : (p :: s.world.live).filter (· ∉ s.owned)
      = p :: s.world.live.filter (· ∉ s.owned) := List.filter_cons_of_pos (by simpa using howned)
  show (⟨⟨_, _, (p :: s.world.live).filter (· ∉ s.owned), _⟩, _⟩ : Sequential) = _
  rw [hlive]
  rfl

/-- Writing a tombstone over a tombstone. -/
theorem setType_self {w : World} {found : FfiObject} (hobject : w.objects object = some found) :
    w.setType object found found.type = w := by
  rw [World.setType, ← hobject, Function.update_eq_self]

/-- **The exchange** makes the object that of the call. -/
theorem Wf.exchange (h : s.Wf) (hcall : s.calls[i]? = some (.checked object)) {found : FfiObject}
    (hobject : s.world.objects object = some found) (hmagic : found.magic = objectMagic)
    (htype : found.type ≠ tombstoneTypeId) :
    ({ s with world := s.world.setType object found tombstoneTypeId } : Interleaved).setCall i
      (.exchanged object) |>.Wf := by
  have hstate : object ∈ s.world.live ∧ object ∉ s.owned := by
    have := (not_congr (h.tag object found hobject hmagic)).mp htype
    simpa using this
  have hperm : (object :: s.owned).Perm (s.setCall i (.exchanged object)).owned :=
    owned_setCall hcall (.exchanged object)
  have hmem : ∀ q, q ∈ (s.setCall i (.exchanged object)).owned ↔ q = object ∨ q ∈ s.owned :=
    fun q => hperm.symm.mem_iff.trans List.mem_cons
  refine ⟨fun q other hother hmagic' => ?_, fun q hq => ?_, ?_, fun q hq => ?_⟩
  · have hother' : Function.update s.world.objects object
      (some { found with type := tombstoneTypeId }) q = some other := hother
    show _ ↔ q ∉ s.world.live ∨ q ∈ (s.setCall i (.exchanged object)).owned
    rw [hmem]
    by_cases hq : q = object
    · subst hq
      rw [Function.update_self, Option.some.injEq] at hother'
      subst hother'
      exact iff_of_true rfl (Or.inr (Or.inl rfl))
    · rw [Function.update_of_ne hq] at hother'
      rw [h.tag q other hother' hmagic', or_iff_right hq]
  · rcases (hmem q).mp hq with rfl | hold
    · exact hstate.1
    · exact h.owned_live q hold
  · exact hperm.nodup_iff.mp (List.nodup_cons.mpr ⟨hstate.2, h.nodup⟩)
  · rcases mem_setCall hq with hnew | hold
    · exact absurd hnew (by simp)
    · obtain ⟨hne, other, hother, hmagic'⟩ := h.checked q hold
      refine ⟨hne, ?_⟩
      by_cases hqo : q = object
      · exact ⟨{ found with type := tombstoneTypeId }, by
          rw [hqo]; exact Function.update_self _ _ _, hmagic⟩
      · exact ⟨other, (Function.update_of_ne hqo _ _).trans hother, hmagic'⟩

/-- **The end** of a call destroys the object that was its own. -/
theorem Wf.destroy (h : s.Wf) (hcall : s.calls[i]? = some (.exchanged object)) :
    ({ s.setCall i (.returned object) with
      world := { s.world with live := s.world.live.filter (· ≠ object) } } : Interleaved).Wf := by
  have hperm : s.owned.Perm (object :: (s.setCall i (.returned object)).owned) :=
    owned_setCall hcall (.returned object)
  have hnodup := List.nodup_cons.mp (hperm.nodup_iff.mp h.nodup)
  have hmem : ∀ q, q ∈ s.owned ↔ q = object ∨ q ∈ (s.setCall i (.returned object)).owned :=
    fun q => hperm.mem_iff.trans List.mem_cons
  refine ⟨fun q other hother hmagic => ?_, fun q hq => ?_, hnodup.2, fun q hq => ?_⟩
  · show _ ↔ q ∉ s.world.live.filter (· ≠ object) ∨ q ∈ (s.setCall i (.returned object)).owned
    rw [h.tag q other hother hmagic, hmem]
    simp only [List.mem_filter, decide_eq_true_eq]
    tauto
  · have hne : q ≠ object := fun heq => hnodup.1 (heq ▸ hq)
    exact List.mem_filter.mpr ⟨h.owned_live q ((hmem q).mpr (Or.inr hq)), by simpa using hne⟩
  · rcases mem_setCall hq with hnew | hold
    · exact absurd hnew (by simp)
    · exact h.checked q hold

/-- The state in which the call at `i` has come further, and does not destroy anything. -/
theorem view_setCall (hcall : s.calls[i]? = some call) (hnone : call.owned = none)
    (call' : FreeCall) (hnone' : call'.owned = none) : (s.setCall i call').view = s.view :=
  view_congr (s := s) rfl (fun _ => (owned_perm hcall hnone hnone').symm.mem_iff) rfl

theorem after_free (hrunning : s.progress = .running) (i object : Nat) :
    after Sequential.step s.view [.free i object]
      = s.view.afterFree (libhatFree s.view.world object) :=
  if_neg (not_not_intro hrunning)

theorem libhatFree_destroys {w : World} {p : Nat} {found : FfiObject} (hp : p ≠ 0)
    (hobject : w.objects p = some found) (hmagic : found.magic = objectMagic)
    (htype : found.type ≠ tombstoneTypeId) (hlive : p ∈ w.live) :
    libhatFree w p = .ok (.destroyed
      { w.setType p found tombstoneTypeId with live := w.live.filter (· ≠ p) }) := by
  have hread : w.objectAt p = .ok found := by rw [World.objectAt, hobject]
  have hlive' : p ∈ (w.setType p found tombstoneTypeId).live := hlive
  rw [libhatFree, if_neg hp, hread, ok_bind, if_neg (not_not_intro hmagic), if_neg htype,
    World.destroy, if_pos hlive']
  rfl

/-- The call with the number `i` ends the program, in what it does at once. -/
theorem advance_stop (h : s.Wf) (hcall : s.calls[i]? = some call) (hnone : call.owned = none)
    (object : Nat) (progress : Progress) :
    ({ s.setCall i (.stopped object) with progress } : Interleaved).Wf ∧
    ({ s.setCall i (.stopped object) with progress } : Interleaved).view =
      { s.view with progress } := by
  have hview := view_setCall hcall hnone (.stopped object) rfl
  refine ⟨h.setCall hcall hnone rfl (fun p hp => absurd hp (by simp)) progress, ?_⟩
  show (⟨(s.setCall i (.stopped object)).view.world, progress⟩ : Sequential) =
    ⟨s.view.world, progress⟩
  rw [hview]

/-- `libhat_free` at its beginning. -/
theorem Wf.advance_called (h : s.Wf) (hrunning : s.progress = .running)
    (hcall : s.calls[i]? = some (.called object)) :
    (s.advance i (.called object)).Wf ∧ (s.advance i (.called object)).view
      = after Sequential.step s.view (s.advancePoints i (.called object)) := by
  rw [advance, advancePoints]
  by_cases hnull : object = 0
  · subst hnull
    rw [if_pos rfl, if_pos rfl, after_free hrunning, view_setCall hcall rfl (.returned 0) rfl]
    exact ⟨h.setCall hcall rfl rfl (fun p hp => absurd hp (by simp)) s.progress, rfl⟩
  rw [if_neg hnull, if_neg hnull, checkMagic]
  cases hobject : s.world.objectAt object with
  | error fault =>
    have hfree : libhatFree s.view.world object = .error fault := by
      have hread : s.view.world.objectAt object = .error fault := hobject
      rw [libhatFree, if_neg hnull, hread]
      rfl
    dsimp only
    rw [after_free hrunning, hfree]
    exact advance_stop h hcall rfl object .faulted
  | ok p =>
    dsimp only
    by_cases hmagic : p.magic ≠ objectMagic
    · have hfree : libhatFree s.view.world object = .ok .terminated := by
        have hread : s.view.world.objectAt object = .ok p := hobject
        rw [libhatFree, if_neg hnull, hread, ok_bind, if_pos hmagic]
        rfl
      rw [if_pos hmagic, if_pos hmagic, after_free hrunning, hfree]
      exact advance_stop h hcall rfl object .terminated
    · rw [if_neg hmagic, if_neg hmagic, view_setCall hcall rfl (.checked object) rfl]
      refine ⟨h.setCall hcall rfl rfl (fun q hq => ?_) s.progress, rfl⟩
      obtain rfl : object = q := by simpa using hq
      refine ⟨hnull, p, ?_, not_not.mp hmagic⟩
      rw [World.objectAt] at hobject
      cases hat : s.world.objects object with
      | none =>
        rw [hat] at hobject
        exact absurd hobject (by simp)
      | some found =>
        rw [hat] at hobject
        exact congrArg some (Except.ok.inj hobject)

/-- **The exchange of the tag** does all that `libhat_free` does at once. -/
theorem Wf.advance_checked (h : s.Wf) (hrunning : s.progress = .running)
    (hcall : s.calls[i]? = some (.checked object)) :
    (s.advance i (.checked object)).Wf ∧ (s.advance i (.checked object)).view
      = after Sequential.step s.view (s.advancePoints i (.checked object)) := by
  obtain ⟨hnull, found, hobject, hmagic⟩ := h.checked object (List.mem_of_getElem? hcall)
  have hread : s.world.objectAt object = .ok found := by rw [World.objectAt, hobject]
  have hobject' : s.view.world.objects object = some found := hobject
  rw [advance, advancePoints, exchangeType, hread, after_free hrunning]
  dsimp only
  by_cases htype : found.type = tombstoneTypeId
  · rw [if_pos htype, ← htype, setType_self hobject,
      libhatFree_tombstone hnull hobject' hmagic htype]
    exact advance_stop h hcall rfl object .terminated
  · rw [if_neg htype]
    refine ⟨h.exchange hcall hobject hmagic htype, ?_⟩
    have hstate : object ∈ s.world.live ∧ object ∉ s.owned := by
      have := (not_congr (h.tag object found hobject hmagic)).mp htype
      simpa using this
    have hlive : object ∈ s.view.world.live :=
      List.mem_filter.mpr ⟨hstate.1, by simpa using hstate.2⟩
    have hperm : (object :: s.owned).Perm (s.setCall i (.exchanged object)).owned :=
      owned_setCall hcall (.exchanged object)
    rw [libhatFree_destroys hnull hobject' hmagic htype hlive]
    have hfilter : s.world.live.filter (· ∉ (s.setCall i (.exchanged object)).owned)
        = s.view.world.live.filter (· ≠ object) := by
      show _ = (s.world.live.filter (· ∉ s.owned)).filter (· ≠ object)
      rw [List.filter_filter]
      apply List.filter_congr
      intro q _
      rw [← Bool.decide_and, decide_eq_decide, ← hperm.mem_iff, List.mem_cons, not_or]
    show (⟨{ s.world.setType object found tombstoneTypeId with
      live := s.world.live.filter (· ∉ (s.setCall i (.exchanged object)).owned) }, s.progress⟩ :
        Sequential) = _
    rw [hfilter]
    rfl

/-- **The end of a call** changes nothing that has not taken effect before. -/
theorem Wf.advance_exchanged (h : s.Wf) (hcall : s.calls[i]? = some (.exchanged object)) :
    (s.advance i (.exchanged object)).Wf ∧
      (s.advance i (.exchanged object)).view = s.view := by
  have hperm : s.owned.Perm (object :: (s.setCall i (.returned object)).owned) :=
    owned_setCall hcall (.returned object)
  have hlive : object ∈ s.world.live := h.owned_live object (mem_owned_of_getElem? hcall)
  rw [advance, destroyObject, World.destroy, if_pos hlive]
  refine ⟨h.destroy hcall, ?_⟩
  have hfilter : (s.world.live.filter (· ≠ object)).filter
      (· ∉ (s.setCall i (.returned object)).owned) = s.world.live.filter (· ∉ s.owned) := by
    rw [List.filter_filter]
    apply List.filter_congr
    intro q _
    rw [← Bool.decide_and, decide_eq_decide, hperm.mem_iff, List.mem_cons, not_or, and_comm]
  show (⟨{ s.world with
    live := (s.world.live.filter (· ≠ object)).filter
      (· ∉ (s.setCall i (.returned object)).owned) }, s.progress⟩ : Sequential) = _
  rw [hfilter]
  rfl

theorem Wf.begin (h : s.Wf) (object : Nat) :
    ({ s with calls := s.calls ++ [.called object] } : Interleaved).Wf ∧
    ({ s with calls := s.calls ++ [.called object] } : Interleaved).view = s.view := by
  have howned :
      ({ s with calls := s.calls ++ [.called object] } : Interleaved).owned = s.owned := by
    rw [owned, owned, List.filterMap_append]
    exact List.append_nil _
  refine ⟨⟨?_, ?_, ?_, fun p hp => ?_⟩, view_congr (s := s) rfl (fun p => by rw [howned]) rfl⟩
  · rw [howned]
    exact h.tag
  · rw [howned]
    exact h.owned_live
  · rw [howned]
    exact h.nodup
  · rcases List.mem_append.mp hp with hold | hnew
    · exact h.checked p hold
    · exact absurd (List.mem_singleton.mp hnew) (by simp)

end

/-- **One step** keeps the invariant, and amounts to the call that takes effect in it. -/
theorem Wf.step {s : Interleaved} (h : s.Wf) (e : ThreadEvent) :
    (s.step e).Wf ∧ (s.step e).view = after Sequential.step s.view (s.points e) := by
  unfold Interleaved.step points
  by_cases hrunning : s.progress ≠ .running
  · rw [if_pos hrunning, if_pos hrunning]
    exact ⟨h, rfl⟩
  rw [if_neg hrunning, if_neg hrunning]
  have hrunning' := not_not.mp hrunning
  cases e with
  | create payload p =>
    dsimp only
    by_cases hp : p = 0 ∨ p ∈ s.world.live
    · rw [if_pos hp, if_pos hp]
      exact ⟨h, rfl⟩
    · have hfree : p ∉ s.world.live := fun hmem => hp (Or.inr hmem)
      have hview : ¬ (p = 0 ∨ p ∈ s.view.world.live) := fun hor =>
        hp (hor.imp_right fun hmem => (List.mem_filter.mp hmem).1)
      rw [if_neg hp, if_neg hp, view_create h payload hfree]
      refine ⟨h.create payload hfree, ?_⟩
      show _ = Sequential.step s.view (.create payload p)
      rw [Sequential.step, if_neg (show ¬ s.view.progress ≠ .running from hrunning)]
      exact (if_neg hview).symm
  | call object => exact h.begin object
  | advance i =>
    dsimp only
    cases hcall : s.calls[i]? with
    | none => exact ⟨h, rfl⟩
    | some call =>
      dsimp only
      cases call with
      | called object => exact h.advance_called hrunning' hcall
      | checked object => exact h.advance_checked hrunning' hcall
      | exchanged object => exact h.advance_exchanged hcall
      | returned object => exact ⟨h, rfl⟩
      | stopped object => exact ⟨h, rfl⟩

/-! ### Whole runs -/

section

variable {s : Interleaved} {i j object : Nat} {call call' : FreeCall}

/-- What the calls are to free, by their numbers. -/
def objects (s : Interleaved) : List Nat := s.calls.map FreeCall.object

end

/-- A pointer that a thread frees is null, or is readable. -/
def Readable (s : Interleaved) : ThreadEvent → Prop
  | .call object => object = 0 ∨ s.world.objects object ≠ none
  | _ => True

/-- What holds of every state of a run whose pointers are readable. -/
structure Safe (s : Interleaved) : Prop where
  wf : s.Wf
  readable : ∀ p, .called p ∈ s.calls → p = 0 ∨ s.world.objects p ≠ none
  progress : s.progress ≠ .faulted

section

variable {s : Interleaved} {i object : Nat} {call call' : FreeCall}

/-- What is readable stays so. -/
theorem Safe.setCall_readable (h : s.Safe) (call' : FreeCall) (hcall' : ∀ p, call' ≠ .called p)
    {objects : Nat → Option FfiObject} (hobjects : ∀ p, s.world.objects p ≠ none → objects p ≠ none)
    (p : Nat) (hp : .called p ∈ (s.setCall i call').calls) : p = 0 ∨ objects p ≠ none := by
  rcases mem_setCall hp with hnew | hold
  · exact absurd hnew.symm (hcall' p)
  · exact (h.readable p hold).imp_right (hobjects p)

theorem update_ne_none {objects : Nat → Option FfiObject} {p q : Nat} (object : FfiObject)
    (hq : objects q ≠ none) : Function.update objects p (some object) q ≠ none := by
  by_cases hqp : q = p
  · rw [hqp, Function.update_self]
    simp
  · rw [Function.update_of_ne hqp]
    exact hq

theorem objectAt_of_ne_none {w : World} {p : Nat} (h : w.objects p ≠ none) :
    ∃ found, w.objectAt p = .ok found := by
  obtain ⟨found, hfound⟩ := Option.ne_none_iff_exists'.mp h
  exact ⟨found, by rw [World.objectAt, hfound]⟩

/-- **A step of a call** reads what is there, and destroys what is there. -/
theorem Safe.advance (h : s.Safe) (hcall : s.calls[i]? = some call) :
    (∀ p, .called p ∈ (s.advance i call).calls →
      p = 0 ∨ (s.advance i call).world.objects p ≠ none) ∧
    (s.advance i call).progress ≠ .faulted := by
  have hmem := List.mem_of_getElem? hcall
  cases call with
  | called object =>
    rw [Interleaved.advance]
    by_cases hnull : object = 0
    · rw [if_pos hnull]
      exact ⟨h.setCall_readable _ (by simp) fun _ => id, h.progress⟩
    obtain ⟨found, hfound⟩ := objectAt_of_ne_none ((h.readable object hmem).resolve_left hnull)
    rw [if_neg hnull, checkMagic, hfound]
    dsimp only
    by_cases hmagic : found.magic ≠ objectMagic
    · rw [if_pos hmagic]
      exact ⟨h.setCall_readable (.stopped object) (by simp) fun _ => id, by simp⟩
    · rw [if_neg hmagic]
      exact ⟨h.setCall_readable _ (by simp) fun _ => id, h.progress⟩
  | checked object =>
    obtain ⟨hnull, found, hfound, hmagic⟩ := h.wf.checked object hmem
    have hread : s.world.objectAt object = .ok found := by rw [World.objectAt, hfound]
    rw [Interleaved.advance, exchangeType, hread]
    dsimp only
    by_cases htype : found.type = tombstoneTypeId
    · rw [if_pos htype]
      exact ⟨h.setCall_readable (.stopped object) (by simp) fun _ => update_ne_none _,
        by simp⟩
    · rw [if_neg htype]
      exact ⟨h.setCall_readable (.exchanged object) (by simp) fun _ => update_ne_none _,
        h.progress⟩
  | exchanged object =>
    have hlive := h.wf.owned_live object (mem_owned_of_getElem? hcall)
    rw [Interleaved.advance, destroyObject, World.destroy, if_pos hlive]
    exact ⟨h.setCall_readable (.returned object) (by simp) fun _ => id, h.progress⟩
  | returned object => exact ⟨h.readable, h.progress⟩
  | stopped object => exact ⟨h.readable, h.progress⟩

end

theorem Safe.kept {s : Interleaved} (h : s.Safe) {e : ThreadEvent} (he : s.Readable e) :
    (∀ p, .called p ∈ (s.step e).calls → p = 0 ∨ (s.step e).world.objects p ≠ none) ∧
    (s.step e).progress ≠ .faulted := by
  unfold Interleaved.step
  by_cases hrunning : s.progress ≠ .running
  · rw [if_pos hrunning]
    exact ⟨h.readable, h.progress⟩
  rw [if_neg hrunning]
  cases e with
  | create payload p =>
    dsimp only
    by_cases hp : p = 0 ∨ p ∈ s.world.live
    · rw [if_pos hp]
      exact ⟨h.readable, h.progress⟩
    · rw [if_neg hp]
      exact ⟨fun q hq => (h.readable q hq).imp_right (update_ne_none _), h.progress⟩
  | call object =>
    refine ⟨fun q hq => ?_, h.progress⟩
    rcases List.mem_append.mp hq with hold | hnew
    · exact h.readable q hold
    · obtain rfl := FreeCall.called.inj (List.mem_singleton.mp hnew)
      exact he
  | advance j =>
    dsimp only
    cases hcall : s.calls[j]? with
    | none => exact ⟨h.readable, h.progress⟩
    | some call => exact h.advance hcall

/-- **One step** does not fault. -/
theorem Safe.step {s : Interleaved} (h : s.Safe) {e : ThreadEvent} (he : s.Readable e) :
    (s.step e).Safe :=
  ⟨(h.wf.step e).1, (h.kept he).1, (h.kept he).2⟩

end Interleaved

end Libhat

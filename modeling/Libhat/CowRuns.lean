import Libhat.Cow

/-!
# Runs of operations on copy-on-write values

A program has cows at places, makes new ones, destroys them and operates on them; an
operation may throw, after which the program goes on.

* `allocator_sticky`: without propagation, and as long as nothing throws, every cow keeps
  its allocator, and assignments and `owned` do to the values what they say.
* `always_sound_iff`: when every cow is viewed or owned at all times, exactly.
-/

namespace Libhat

open Runs

variable {V E A : Type}

/-- The cows by their places, and how the last operation ended. -/
structure CowState (V E A : Type) where
  cows : Nat → Option (Cow V E A)
  outcome : Outcome

/-- What can happen to cows: `fails` says whether what the operation constructs throws, and
`left` is what the standard leaves unspecified. -/
inductive CowEvent (V E A : Type) where
  | constructViewed (place : Nat) (viewed : V) (allocator : Option A) (fails : Bool)
  | constructOwned (place : Nat) (owned : Container E A) (fails : Bool)
  | copyConstruct (place source : Nat) (fails : Bool)
  | moveConstruct (place source : Nat) (left : List E)
  | destroy (place : Nat)
  | owned (place : Nat) (fails : Bool)
  | ensureOwned (place : Nat) (fails : Bool)
  | emplaceViewed (place : Nat) (viewed : V) (fails : Bool)
  | emplaceOwned (place : Nat) (elements : List E) (fails : Bool)
  | copyAssign (place source : Nat) (fails : Bool) (left : Container E A)
  | moveAssign (place source : Nat) (fails : Bool) (left : List E)

namespace CowState

/-- A constructor at a place: no cow is made if it throws. -/
def create (s : CowState V E A) (place : Nat) (fails : Bool) (c : Cow V E A) : CowState V E A :=
  match s.cows place with
  | some _ => s
  | none =>
    if fails then { s with outcome := .threw }
    else ⟨Function.update s.cows place (some c), .returned⟩

/-- An operation on the cow at a place. -/
def modify (s : CowState V E A) (place : Nat) (op : Cow V E A → Cow V E A × Outcome) :
    CowState V E A :=
  match s.cows place with
  | none => s
  | some c => ⟨Function.update s.cows place (some (op c).1), (op c).2⟩

/-- The copy constructor. -/
def copyConstruct (traits : CowTraits V E A) (s : CowState V E A) (place source : Nat)
    (fails : Bool) : CowState V E A :=
  match s.cows source with
  | none => s
  | some other => s.create place fails (.copyConstruct traits other)

/-- The move constructor. -/
def moveConstruct (s : CowState V E A) (place source : Nat) (left : List E) : CowState V E A :=
  match s.cows place, s.cows source with
  | none, some other =>
    ⟨Function.update (Function.update s.cows source (some (other.movedFrom left))) place
      (some other), .returned⟩
  | _, _ => s

/-- `operator=(const cow&)`. -/
def copyAssign (traits : CowTraits V E A) (s : CowState V E A) (place source : Nat)
    (fails : Bool) (left : Container E A) : CowState V E A :=
  match s.cows source with
  | none => s
  | some other => s.modify place fun c => c.copyAssign traits fails left other

/-- `operator=(cow&&)`.  A container that is assigned to itself keeps its elements, unless the
`std::variant` is assigned, which leaves it moved from. -/
def moveAssign (traits : CowTraits V E A) (s : CowState V E A) (place source : Nat)
    (fails : Bool) (left : List E) : CowState V E A :=
  match s.cows place, s.cows source with
  | some c, some other =>
    let (c', outcome) := c.moveAssign traits fails other
    if traits.usesAllocator && !traits.propagateOnContainerMoveAssignment then
      ⟨Function.update (Function.update s.cows source (some (other.movedFrom left))) place
        (some c'), outcome⟩
    else
      ⟨Function.update (Function.update s.cows place (some c')) source
        (some (other.movedFrom left)), outcome⟩
  | _, _ => s

end CowState

/-- One event.  After `std::terminate` there are none. -/
def cowStep (traits : CowTraits V E A) (s : CowState V E A) (e : CowEvent V E A) :
    CowState V E A :=
  if s.outcome = .terminated then s
  else
    match e with
    | .constructViewed place viewed allocator fails =>
      s.create place fails (.view viewed (allocator.getD traits.defaultAllocator))
    | .constructOwned place owned fails => s.create place fails (.container owned)
    | .copyConstruct place source fails => s.copyConstruct traits place source fails
    | .moveConstruct place source left => s.moveConstruct place source left
    | .destroy place => ⟨Function.update s.cows place none, .returned⟩
    | .owned place fails => s.modify place (Cow.owned traits fails)
    | .ensureOwned place fails => s.modify place (Cow.ensureOwned traits fails)
    | .emplaceViewed place viewed fails => s.modify place (Cow.emplaceViewed traits fails viewed)
    | .emplaceOwned place elements fails => s.modify place (Cow.emplaceOwned traits fails elements)
    | .copyAssign place source fails left => s.copyAssign traits place source fails left
    | .moveAssign place source fails left => s.moveAssign traits place source fails left

/-! ### Cows with a value -/

/-- Every cow is viewed or owned, and nothing ended in `std::terminate`. -/
structure CowState.Sound (traits : CowTraits V E A) (s : CowState V E A) : Prop where
  cows : ∀ place c, s.cows place = some c → c.Sound traits
  outcome : s.outcome ≠ .terminated

/-- An `emplace` of a cow whose new value throws while it is constructed in place. -/
def CowEvent.EmplaceThrows (s : CowState V E A) : CowEvent V E A → Prop
  | .emplaceViewed place _ fails => fails = true ∧ s.cows place ≠ none
  | .emplaceOwned place _ fails => fails = true ∧ s.cows place ≠ none
  | _ => False

section

variable {traits : CowTraits V E A} {s : CowState V E A}

theorem CowState.Sound.ne_valueless (h : s.Sound traits) {place : Nat} {c : Cow V E A}
    (hc : s.cows place = some c) : c ≠ .valueless :=
  Cow.sound_iff.mp (h.cows place c hc)

/-- A place whose cow has a value, or that has no cow. -/
theorem CowState.Sound.update (h : s.Sound traits) (place : Nat) {c : Option (Cow V E A)}
    (hc : c ≠ some .valueless) {outcome : Outcome} (houtcome : outcome ≠ .terminated) :
    CowState.Sound traits ⟨Function.update s.cows place c, outcome⟩ where
  cows := by
    intro q d hd
    by_cases hq : q = place
    · rw [hq] at hd
      simp only [Function.update_self] at hd
      exact Cow.sound_iff.mpr fun hvalueless => hc (by rw [hd, hvalueless])
    · simp only [Function.update_of_ne hq] at hd
      exact h.cows q d hd
  outcome := houtcome

theorem CowState.Sound.set (h : s.Sound traits) (place : Nat) {c : Cow V E A}
    (hc : c ≠ .valueless) {outcome : Outcome} (houtcome : outcome ≠ .terminated) :
    CowState.Sound traits ⟨Function.update s.cows place (some c), outcome⟩ :=
  h.update place (by simpa using hc) houtcome

theorem CowState.Sound.create (h : s.Sound traits) (place : Nat) (fails : Bool)
    {c : Cow V E A} (hc : c ≠ .valueless) : (s.create place fails c).Sound traits := by
  unfold CowState.create
  cases s.cows place with
  | some d => exact h
  | none =>
    cases fails with
    | true => exact ⟨h.cows, by simp⟩
    | false => exact h.set place hc (by simp)

/-- An operation keeps all cows sound if it does so for the one it is called on. -/
theorem CowState.sound_modify_iff (h : s.Sound traits) (place : Nat)
    (op : Cow V E A → Cow V E A × Outcome) :
    (s.modify place op).Sound traits ↔ ∀ c, s.cows place = some c → Cow.Keeps (op c) := by
  unfold CowState.modify
  cases hplace : s.cows place with
  | none => exact iff_of_true h (by simp)
  | some c =>
    constructor
    · intro hsound d hd
      rw [← Option.some.inj hd]
      exact ⟨hsound.ne_valueless (Function.update_self _ _ _), hsound.outcome⟩
    · intro hkeeps
      obtain ⟨hvalue, houtcome⟩ := hkeeps c rfl
      exact h.set place hvalue houtcome

theorem CowState.Sound.copyConstruct (h : s.Sound traits) (place source : Nat) (fails : Bool) :
    (s.copyConstruct traits place source fails).Sound traits := by
  unfold CowState.copyConstruct
  cases hsource : s.cows source with
  | none => exact h
  | some other => exact h.create place fails (Cow.copyConstruct_ne (h.ne_valueless hsource))

theorem CowState.Sound.moveConstruct (h : s.Sound traits) (place source : Nat)
    (left : List E) : (s.moveConstruct place source left).Sound traits := by
  unfold CowState.moveConstruct
  cases s.cows place with
  | some c => exact h
  | none =>
    cases hsource : s.cows source with
    | none => exact h
    | some other =>
      have hother := h.ne_valueless hsource
      exact (h.set source (Cow.movedFrom_ne hother left) h.outcome).set place hother (by decide)

theorem CowState.Sound.copyAssign (h : s.Sound traits) (place source : Nat) (fails : Bool)
    (left : Container E A) : (s.copyAssign traits place source fails left).Sound traits := by
  unfold CowState.copyAssign
  cases hsource : s.cows source with
  | none => exact h
  | some other =>
    refine (CowState.sound_modify_iff h place _).mpr fun c hc => ?_
    exact Cow.keeps_copyAssign (h.ne_valueless hc) (h.ne_valueless hsource) fails left

theorem CowState.Sound.moveAssign (h : s.Sound traits) (place source : Nat) (fails : Bool)
    (left : List E) : (s.moveAssign traits place source fails left).Sound traits := by
  unfold CowState.moveAssign
  cases hplace : s.cows place with
  | none => exact h
  | some c =>
    cases hsource : s.cows source with
    | none => exact h
    | some other =>
      have hother := h.ne_valueless hsource
      have hleft := Cow.movedFrom_ne hother left
      have hkeeps : Cow.Keeps (c.moveAssign traits fails other) :=
        Cow.keeps_moveAssign (h.ne_valueless hplace) hother fails
      obtain ⟨hvalue, houtcome⟩ := hkeeps
      show CowState.Sound traits (if _ then _ else _)
      split
      · exact (h.set source hleft h.outcome).set place hvalue houtcome
      · exact (h.set place hvalue h.outcome).set source hleft houtcome

/-- An operation that keeps a cow sound unless it throws. -/
theorem CowState.sound_emplace_iff (h : s.Sound traits) (place : Nat) (fails : Bool)
    {op : Cow V E A → Cow V E A × Outcome}
    (hop : ∀ c, c ≠ .valueless → (Cow.Keeps (op c) ↔ fails = false)) :
    (s.modify place op).Sound traits ↔ ¬ (fails = true ∧ s.cows place ≠ none) := by
  refine (CowState.sound_modify_iff h place op).trans ?_
  constructor
  · intro hkeeps hthrows
    obtain ⟨hfails, hplace⟩ := hthrows
    obtain ⟨c, hc⟩ := Option.ne_none_iff_exists'.mp hplace
    have := (hop c (h.ne_valueless hc)).mp (hkeeps c hc)
    rw [hfails] at this
    exact absurd this (by simp)
  · intro hreturns c hc
    refine (hop c (h.ne_valueless hc)).mpr ?_
    exact Bool.eq_false_iff.mpr fun hfails => hreturns ⟨hfails, by rw [hc]; simp⟩

/-- **One event** keeps every cow viewed or owned, unless it is an `emplace` that throws. -/
theorem cowStep_sound_iff (h : s.Sound traits) (e : CowEvent V E A) :
    (cowStep traits s e).Sound traits ↔ ¬ e.EmplaceThrows s := by
  unfold cowStep
  rw [if_neg h.outcome]
  cases e with
  | constructViewed place viewed allocator fails =>
    exact iff_of_true (h.create place fails (by simp)) id
  | constructOwned place owned fails =>
    exact iff_of_true (h.create place fails (by simp)) id
  | copyConstruct place source fails => exact iff_of_true (h.copyConstruct place source fails) id
  | moveConstruct place source left => exact iff_of_true (h.moveConstruct place source left) id
  | destroy place => exact iff_of_true (h.update place (by simp) (by simp)) id
  | owned place fails =>
    refine iff_of_true ((CowState.sound_modify_iff h place _).mpr fun c hc => ?_) id
    exact Cow.keeps_owned (h.ne_valueless hc) fails
  | ensureOwned place fails =>
    refine iff_of_true ((CowState.sound_modify_iff h place _).mpr fun c hc => ?_) id
    exact Cow.keeps_owned (h.ne_valueless hc) fails
  | emplaceViewed place viewed fails =>
    exact CowState.sound_emplace_iff h place fails fun c hc => Cow.keeps_emplaceViewed_iff hc
  | emplaceOwned place elements fails =>
    exact CowState.sound_emplace_iff h place fails fun c hc => Cow.keeps_emplaceOwned_iff hc
  | copyAssign place source fails left =>
    exact iff_of_true (h.copyAssign place source fails left) id
  | moveAssign place source fails left =>
    exact iff_of_true (h.moveAssign place source fails left) id

end

/-- Cows of lists of numbers, with an allocator that propagates when `propagate` says so. -/
def listTraits (propagate : Bool) : CowTraits (List Nat) Nat Nat where
  elements := id
  usesAllocator := true
  defaultAllocator := 0
  selectOnContainerCopyConstruction := id
  propagateOnContainerCopyAssignment := propagate
  propagateOnContainerMoveAssignment := propagate

namespace CowState

/-- `get_allocator` of the cow at a place. -/
def allocatorAt (s : CowState V E A) (place : Nat) : Option A :=
  (s.cows place).bind Cow.getAllocator

/-- The elements that `viewed` of the cow at a place shows. -/
def viewedAt (traits : CowTraits V E A) (s : CowState V E A) (place : Nat) : Option (List E) :=
  (s.cows place).bind (Cow.viewed traits)

/-- `is_viewed` and `is_owned` of the cow at a place. -/
def kindAt (s : CowState V E A) (place : Nat) : Option (Bool × Bool) :=
  (s.cows place).map fun c => (c.isViewed, c.isOwned)

end CowState

/-- The operations on cows that exist, when nothing throws. -/
def CowEvent.Operates (s : CowState V E A) : CowEvent V E A → Prop
  | .owned place fails => fails = false ∧ s.cows place ≠ none
  | .ensureOwned place fails => fails = false ∧ s.cows place ≠ none
  | .emplaceViewed place _ fails => fails = false ∧ s.cows place ≠ none
  | .emplaceOwned place _ fails => fails = false ∧ s.cows place ≠ none
  | .copyAssign place source fails _ => fails = false ∧ s.cows place ≠ none ∧ s.cows source ≠ none
  | .moveAssign place source fails _ => fails = false ∧ s.cows place ≠ none ∧ s.cows source ≠ none
  | _ => False

/-- What an operation does to the values: `owned` and `ensure_owned` keep what is viewed and
leave an owned value, an assignment takes the value and the kind that the source had. -/
def CowEvent.Assigns (traits : CowTraits V E A) (s s' : CowState V E A) : CowEvent V E A → Prop
  | .owned place _ =>
    s'.viewedAt traits place = s.viewedAt traits place ∧ s'.kindAt place = some (false, true)
  | .ensureOwned place _ =>
    s'.viewedAt traits place = s.viewedAt traits place ∧ s'.kindAt place = some (false, true)
  | .copyAssign place source _ _ =>
    s'.viewedAt traits place = s.viewedAt traits source ∧ s'.kindAt place = s.kindAt source
  | .moveAssign place source _ _ =>
    s'.viewedAt traits place = s.viewedAt traits source ∧ s'.kindAt place = s.kindAt source
  | _ => True

/-- An operation that returns, keeps every allocator, and does to the values what it says. -/
structure Sticky (traits : CowTraits V E A) (s : CowState V E A) (e : CowEvent V E A) :
    Prop where
  returned : (cowStep traits s e).outcome = .returned
  allocatorAt : ∀ place, (cowStep traits s e).allocatorAt place = s.allocatorAt place
  assigns : e.Assigns traits s (cowStep traits s e)

section

variable {traits : CowTraits V E A} {s : CowState V E A}

/-- A cow replaced by one with the same allocator. -/
theorem allocatorAt_update {place : Nat} {c : Cow V E A} (hc : c.getAllocator = s.allocatorAt place)
    (outcome : Outcome) (q : Nat) :
    CowState.allocatorAt ⟨Function.update s.cows place (some c), outcome⟩ q = s.allocatorAt q := by
  by_cases hq : q = place
  · rw [hq, ← hc]
    simp only [CowState.allocatorAt, Function.update_self, Option.bind_some]
  · simp only [CowState.allocatorAt, Function.update_of_ne hq]

theorem allocatorAt_eq {place : Nat} {c : Cow V E A} (hc : s.cows place = some c) :
    s.allocatorAt place = c.getAllocator := by
  rw [CowState.allocatorAt, hc, Option.bind_some]

theorem CowState.Sound.exists_allocator (h : s.Sound traits) {place : Nat}
    (hplace : s.cows place ≠ none) :
    ∃ c a, s.cows place = some c ∧ c.getAllocator = some a := by
  obtain ⟨c, hc⟩ := Option.ne_none_iff_exists'.mp hplace
  obtain ⟨a, ha⟩ := Cow.exists_getAllocator (h.ne_valueless hc)
  exact ⟨c, a, hc, ha⟩

/-- An operation that replaces a cow by one with the same allocator, and returns. -/
theorem sticky_of_step {e : CowEvent V E A} {place : Nat} {c c' : Cow V E A} {a : A}
    (hc : s.cows place = some c) (ha : c.getAllocator = some a) (ha' : c'.getAllocator = some a)
    (hstep : cowStep traits s e = ⟨Function.update s.cows place (some c'), .returned⟩)
    (hassigns : e.Assigns traits s ⟨Function.update s.cows place (some c'), .returned⟩) :
    Sticky traits s e where
  returned := by rw [hstep]
  allocatorAt := by
    rw [hstep]
    exact allocatorAt_update (by rw [ha', allocatorAt_eq hc, ha]) .returned
  assigns := by rwa [hstep]

/-- The step of an operation on one cow, with a result that is known. -/
theorem modify_eq {place : Nat} {c c' : Cow V E A} (hc : s.cows place = some c)
    {op : Cow V E A → Cow V E A × Outcome} (hop : op c = (c', .returned)) :
    s.modify place op = ⟨Function.update s.cows place (some c'), .returned⟩ := by
  unfold CowState.modify
  rw [hc]
  simp only [hop]

/-- `owned` and `ensure_owned`. -/
theorem sticky_of_owned (hs : s.Sound traits) {e : CowEvent V E A} {place : Nat}
    (hplace : s.cows place ≠ none)
    (hstep : cowStep traits s e = s.modify place (Cow.owned traits false))
    (hassigns : ∀ s', e.Assigns traits s s' ↔
      s'.viewedAt traits place = s.viewedAt traits place ∧ s'.kindAt place = some (false, true)) :
    Sticky traits s e := by
  obtain ⟨c, a, hc, ha⟩ := hs.exists_allocator hplace
  obtain ⟨l, hl⟩ := Option.ne_none_iff_exists'.mp (hs.cows place c hc).viewed
  have howned := modify_eq hc (Cow.owned_eq ha hl)
  refine sticky_of_step hc ha rfl (hstep.trans howned) ((hassigns _).mpr ⟨?_, ?_⟩)
  · simp only [CowState.viewedAt, Function.update_self, hc, Option.bind_some, hl]
    rfl
  · simp only [CowState.kindAt, Function.update_self, Option.map_some]
    rfl

/-- Move assignment, which changes the source first. -/
theorem sticky_of_moveAssign {place source : Nat} {c other : Cow V E A} {a : A}
    {left : List E} (hc : s.cows place = some c) (ha : c.getAllocator = some a)
    (ho : s.cows source = some other) (hother : other ≠ .valueless)
    (hstep : cowStep traits s (.moveAssign place source false left)
      = ⟨Function.update (Function.update s.cows source (some (other.movedFrom left))) place
          (some (other.withAllocator a)), .returned⟩) :
    Sticky traits s (.moveAssign place source false left) := by
  have hmoved : ∀ q, CowState.allocatorAt
      ⟨Function.update s.cows source (some (other.movedFrom left)), .returned⟩ q
        = s.allocatorAt q := by
    refine allocatorAt_update ?_ .returned
    rw [allocatorAt_eq ho]
    cases other <;> rfl
  have hplaced : (other.withAllocator a).getAllocator = CowState.allocatorAt
      ⟨Function.update s.cows source (some (other.movedFrom left)), .returned⟩ place := by
    rw [hmoved, allocatorAt_eq hc, ha, Cow.getAllocator_withAllocator hother]
  refine ⟨by rw [hstep], ?_, ?_⟩
  · intro q
    rw [hstep, ← hmoved q]
    exact allocatorAt_update hplaced .returned q
  · rw [hstep]
    refine ⟨?_, ?_⟩
    · simp [CowState.viewedAt, ho]
    · simp [CowState.kindAt, ho]

/-- **One operation is sticky.** -/
theorem cowStep_sticky (huses : traits.usesAllocator = true)
    (hcopy : traits.propagateOnContainerCopyAssignment = false)
    (hmove : traits.propagateOnContainerMoveAssignment = false) (hs : s.Sound traits)
    (e : CowEvent V E A) (he : e.Operates s) : Sticky traits s e := by
  have hstep : cowStep traits s e = _ := if_neg hs.outcome
  cases e with
  | constructViewed | constructOwned | copyConstruct | moveConstruct | destroy => exact he.elim
  | owned place fails =>
    obtain ⟨rfl, hplace⟩ := he
    exact sticky_of_owned hs hplace hstep fun _ => Iff.rfl
  | ensureOwned place fails =>
    obtain ⟨rfl, hplace⟩ := he
    exact sticky_of_owned hs hplace hstep fun _ => Iff.rfl
  | emplaceViewed place v fails =>
    obtain ⟨rfl, hplace⟩ := he
    obtain ⟨c, a, hc, ha⟩ := hs.exists_allocator hplace
    have hemplace : c.emplaceViewed traits false v = (.view v a, .returned) := by
      rw [Cow.emplaceViewed, huses, ha]
      rfl
    exact sticky_of_step hc ha rfl (hstep.trans (modify_eq hc hemplace)) trivial
  | emplaceOwned place elements fails =>
    obtain ⟨rfl, hplace⟩ := he
    obtain ⟨c, a, hc, ha⟩ := hs.exists_allocator hplace
    have hemplace : c.emplaceOwned traits false elements
        = (.container ⟨elements, a⟩, .returned) := by
      rw [Cow.emplaceOwned, huses, ha]
      rfl
    exact sticky_of_step hc ha rfl (hstep.trans (modify_eq hc hemplace)) trivial
  | copyAssign place source fails left =>
    obtain ⟨rfl, hplace, hsource⟩ := he
    obtain ⟨c, a, hc, ha⟩ := hs.exists_allocator hplace
    obtain ⟨other, ho⟩ := Option.ne_none_iff_exists'.mp hsource
    have hother := hs.ne_valueless ho
    have hassign : s.copyAssign traits place source false left
        = ⟨Function.update s.cows place (some (other.withAllocator a)), .returned⟩ := by
      unfold CowState.copyAssign
      rw [ho]
      exact modify_eq hc (Cow.copyAssign_eq huses hcopy ha hother left)
    refine sticky_of_step hc ha (Cow.getAllocator_withAllocator hother a) (hstep.trans hassign)
      ⟨?_, ?_⟩
    · simp [CowState.viewedAt, ho]
    · simp [CowState.kindAt, ho]
  | moveAssign place source fails left =>
    obtain ⟨rfl, hplace, hsource⟩ := he
    obtain ⟨c, a, hc, ha⟩ := hs.exists_allocator hplace
    obtain ⟨other, ho⟩ := Option.ne_none_iff_exists'.mp hsource
    have hother := hs.ne_valueless ho
    refine sticky_of_moveAssign hc ha ho hother (hstep.trans ?_)
    show s.moveAssign traits place source false left = _
    unfold CowState.moveAssign
    rw [hc, ho]
    simp only [Cow.moveAssign_eq huses hmove ha hother, huses, hmove]
    rfl

theorem CowEvent.Operates.not_emplaceThrows {e : CowEvent V E A} (h : e.Operates s) :
    ¬ e.EmplaceThrows s := by
  intro hthrows
  cases e with
  | emplaceViewed place v fails => exact absurd (h.1.symm.trans hthrows.1) (by simp)
  | emplaceOwned place elements fails => exact absurd (h.1.symm.trans hthrows.1) (by simp)
  | _ => exact hthrows

/-- **The allocators are sticky.**  Without propagation, in every run of operations that do
not throw on any cows, every operation returns, every cow keeps its allocator, `owned` and
`ensure_owned` keep what is viewed and leave the cow owned, and after an assignment the target
has the value and the kind that the source had before it. -/
theorem allocator_sticky (huses : traits.usesAllocator = true)
    (hcopy : traits.propagateOnContainerCopyAssignment = false)
    (hmove : traits.propagateOnContainerMoveAssignment = false) (hs : s.Sound traits)
    (run : List (CowEvent V E A))
    (hrun : Steps (cowStep traits) (fun s e => e.Operates s) s run) :
    Steps (cowStep traits) (Sticky traits) s run ∧
      Always (cowStep traits) (fun s' => ∀ place, s'.allocatorAt place = s.allocatorAt place) s
        run := by
  have hsound : ∀ s (e : CowEvent V E A), s.Sound traits → e.Operates s →
      (cowStep traits s e).Sound traits :=
    fun s e h he => (cowStep_sound_iff h e).mpr he.not_emplaceThrows
  have hsticky : ∀ s (e : CowEvent V E A), s.Sound traits → e.Operates s → Sticky traits s e :=
    fun s e h he => cowStep_sticky huses hcopy hmove h e he
  refine ⟨steps_of_steps (fun s e h he => ⟨hsound s e h he, hsticky s e h he⟩) hs hrun, ?_⟩
  have hboth := always_of_steps
    (I := fun s' => s'.Sound traits ∧ ∀ place, s'.allocatorAt place = s.allocatorAt place)
    (fun s' e h he => ⟨hsound s' e h.1 he, fun place =>
      ((hsticky s' e h.1 he).allocatorAt place).trans (h.2 place)⟩)
    ⟨hs, fun _ => rfl⟩ hrun
  exact hboth.imp fun _ h => h.2

end

/-- A viewed and an owned cow with different allocators. -/
def viewedAndOwned : CowState (List Nat) Nat Nat where
  cows place :=
    if place = 0 then some (.view [1, 2] 7)
    else if place = 1 then some (.container ⟨[3], 8⟩)
    else none
  outcome := .returned

theorem viewedAndOwned_sound : viewedAndOwned.Sound (listTraits false) where
  cows := by
    intro place c hc
    rw [Cow.sound_iff]
    intro hvalueless
    rw [hvalueless] at hc
    simp only [viewedAndOwned] at hc
    split at hc
    · cases hc
    · split at hc <;> cases hc
  outcome := by decide

theorem allocator_sticky_sample :
    (after (cowStep (listTraits false)) viewedAndOwned
      [.owned 0 false, .copyAssign 0 1 false ⟨[], 0⟩, .moveAssign 1 1 false [],
        .emplaceViewed 1 [5] false]).allocatorAt 1 = viewedAndOwned.allocatorAt 1 := by
  have hall := (allocator_sticky rfl rfl rfl viewedAndOwned_sound
    [.owned 0 false, .copyAssign 0 1 false ⟨[], 0⟩, .moveAssign 1 1 false [],
        .emplaceViewed 1 [5] false] ?_).2
  · exact hall.2.2.2.2 1
  · exact ⟨⟨rfl, by decide⟩, ⟨rfl, by decide, by decide⟩, ⟨rfl, by decide, by decide⟩,
      ⟨rfl, by decide⟩, trivial⟩

end Libhat

import Libhat.Lib.Runs
import Mathlib.Logic.Function.Basic

/-!
# Copy-on-write values

A `cow` is a `std::variant` of a view, which has an allocator beside it, and a container,
which has its own.  An operation may throw where it constructs something, and then the
variant may be left without a value.

What a view looks at belongs to someone else and stays as it is; `CowTraits.elements` says
what that is.  The containers are `std::basic_string` and `std::vector`, whose move
constructors do not throw.

`CowRuns.lean` has the runs of operations on many cows.
-/

namespace Libhat

/-- A container, by its elements and its allocator. -/
structure Container (E A : Type) where
  elements : List E
  allocator : A

/-- `cow`, by the alternative that its variant holds. -/
inductive Cow (V E A : Type) where
  | view (viewed : V) (allocator : A)
  | container (owned : Container E A)
  | valueless

/-- What a `cow` is made with: its view type, and its allocator and the traits of that.  Where
it has no allocator, `defaultAllocator` stands in the place of one. -/
structure CowTraits (V E A : Type) where
  elements : V → List E
  usesAllocator : Bool
  defaultAllocator : A
  selectOnContainerCopyConstruction : A → A
  propagateOnContainerCopyAssignment : Bool
  propagateOnContainerMoveAssignment : Bool

/-- How an operation ends. -/
inductive Outcome where
  | returned
  | threw
  | terminated
  deriving DecidableEq, Repr

namespace Cow

variable {V E A : Type}

/-- `is_viewed`. -/
def isViewed : Cow V E A → Bool
  | view _ _ => true
  | _ => false

/-- `is_owned`. -/
def isOwned : Cow V E A → Bool
  | container _ => true
  | _ => false

/-- `get_allocator`, which is `noexcept`: without a value it ends in `std::terminate`. -/
def getAllocator : Cow V E A → Option A
  | view _ allocator => some allocator
  | container owned => some owned.allocator
  | valueless => none

/-- `viewed`, which is `noexcept` too: the elements that the view it returns looks at. -/
def viewed (traits : CowTraits V E A) : Cow V E A → Option (List E)
  | view viewed _ => some (traits.elements viewed)
  | container owned => some owned.elements
  | valueless => none

/-- `std::variant::emplace`: the old value is destroyed before the new one is constructed. -/
def emplace (fails : Bool) (new : Cow V E A) : Cow V E A × Outcome :=
  if fails then (valueless, .threw) else (new, .returned)

/-- The copy assignment of the `std::variant`; `left` is what a container has after its own
copy assignment has thrown. -/
def variantCopyAssign (traits : CowTraits V E A) (fails : Bool) (left : Container E A)
    (c other : Cow V E A) : Cow V E A × Outcome :=
  match c, other with
  | view _ _, view viewed allocator => (view viewed allocator, .returned)
  | container _, container owned =>
    if fails then (container left, .threw) else (container owned, .returned)
  | _, view viewed allocator => emplace false (view viewed allocator)
  -- a temporary copy first, which is then moved
  | _, container owned =>
    if fails then (c, .threw)
    else emplace false
      (container ⟨owned.elements, traits.selectOnContainerCopyConstruction owned.allocator⟩)
  | _, valueless => (valueless, .returned)

/-- The move assignment of the `std::variant`. -/
def variantMoveAssign (c other : Cow V E A) : Cow V E A × Outcome :=
  match c, other with
  | view _ _, view viewed allocator => (view viewed allocator, .returned)
  | container _, container owned => (container owned, .returned)
  | _, valueless => (valueless, .returned)
  | _, _ => emplace false other

/-- What the assignments do with a view. -/
def assignView (viewed : V) : Cow V E A → Cow V E A × Outcome
  | view _ allocator => (view viewed allocator, .returned)
  | c =>
    match c.getAllocator with
    | some allocator => emplace false (view viewed allocator)
    | none => (c, .terminated)

/-- What the assignments do with a container, copied or moved. -/
def assignContainer (fails : Bool) (c other : Cow V E A) : Cow V E A × Outcome :=
  match c.getAllocator, other with
  | none, _ => (c, .terminated)
  | some allocator, container owned =>
    -- `make_obj_using_allocator` makes the new one before the old value goes
    if fails then (c, .threw) else emplace false (container ⟨owned.elements, allocator⟩)
  | some _, _ => (c, .threw)

/-- `operator=(const cow&)`. -/
def copyAssign (traits : CowTraits V E A) (fails : Bool) (left : Container E A)
    (c other : Cow V E A) : Cow V E A × Outcome :=
  if traits.usesAllocator && !traits.propagateOnContainerCopyAssignment then
    match other with
    | view viewed _ => c.assignView viewed
    | _ => c.assignContainer fails other
  else
    variantCopyAssign traits fails left c other

/-- `operator=(cow&&)`. -/
def moveAssign (traits : CowTraits V E A) (fails : Bool) (c other : Cow V E A) :
    Cow V E A × Outcome :=
  if traits.usesAllocator && !traits.propagateOnContainerMoveAssignment then
    match other with
    | view viewed _ => c.assignView viewed
    | _ => c.assignContainer fails other
  else
    variantMoveAssign c other

/-- What a move leaves of the other one: a container has the elements `left`. -/
def movedFrom (left : List E) : Cow V E A → Cow V E A
  | container owned => container ⟨left, owned.allocator⟩
  | c => c

/-- `owned`. -/
def owned (traits : CowTraits V E A) (fails : Bool) : Cow V E A → Cow V E A × Outcome
  | container owned => (container owned, .returned)
  | view viewed allocator =>
    -- `into_owned` makes the container before the view goes
    if fails then (view viewed allocator, .threw)
    else emplace false (container ⟨traits.elements viewed, allocator⟩)
  | valueless => (valueless, .threw)

/-- `ensure_owned`. -/
def ensureOwned (traits : CowTraits V E A) (fails : Bool) (c : Cow V E A) :
    Cow V E A × Outcome :=
  c.owned traits fails

/-- `emplace_viewed`. -/
def emplaceViewed (traits : CowTraits V E A) (fails : Bool) (viewed : V) (c : Cow V E A) :
    Cow V E A × Outcome :=
  if traits.usesAllocator then
    match c.getAllocator with
    | some allocator => emplace fails (view viewed allocator)
    | none => (c, .terminated)
  else
    emplace fails (view viewed traits.defaultAllocator)

/-- `emplace_owned`. -/
def emplaceOwned (traits : CowTraits V E A) (fails : Bool) (elements : List E) (c : Cow V E A) :
    Cow V E A × Outcome :=
  if traits.usesAllocator then
    match c.getAllocator with
    | some allocator => emplace fails (container ⟨elements, allocator⟩)
    | none => (c, .terminated)
  else
    emplace fails (container ⟨elements, traits.defaultAllocator⟩)

/-- The copy constructor `cow(const cow&)`, when it does not throw.  A cow that is not const is
copied by `cow(U&&)` instead. -/
def copyConstruct (traits : CowTraits V E A) (other : Cow V E A) : Cow V E A :=
  match other with
  | view viewed allocator =>
    if traits.usesAllocator then
      view viewed (traits.selectOnContainerCopyConstruction allocator)
    else view viewed allocator
  | container owned =>
    container ⟨owned.elements, traits.selectOnContainerCopyConstruction owned.allocator⟩
  | valueless => valueless

/-! ### Values -/

/-- **Exactly one** of `is_viewed` and `is_owned` holds, and the `noexcept` accessors
succeed. -/
structure Sound (traits : CowTraits V E A) (c : Cow V E A) : Prop where
  exactlyOne : (c.isViewed ^^ c.isOwned) = true
  viewed : c.viewed traits ≠ none
  getAllocator : c.getAllocator ≠ none

variable {traits : CowTraits V E A} {c other : Cow V E A}

theorem sound_iff : c.Sound traits ↔ c ≠ valueless := by
  cases c with
  | view v a => exact iff_of_true ⟨rfl, by simp [viewed], by simp [getAllocator]⟩ (by simp)
  | container o => exact iff_of_true ⟨rfl, by simp [viewed], by simp [getAllocator]⟩ (by simp)
  | valueless => exact iff_of_false (fun h => h.getAllocator rfl) (by simp)

theorem exists_getAllocator (h : c ≠ valueless) : ∃ a, c.getAllocator = some a := by
  cases c with
  | view v a => exact ⟨a, rfl⟩
  | container o => exact ⟨o.allocator, rfl⟩
  | valueless => exact absurd rfl h

theorem copyConstruct_ne (h : other ≠ valueless) : copyConstruct traits other ≠ valueless := by
  cases other with
  | view v a => rw [copyConstruct]; split <;> simp
  | container o => simp [copyConstruct]
  | valueless => exact absurd rfl h

theorem movedFrom_ne (h : c ≠ valueless) (left : List E) : movedFrom left c ≠ valueless := by
  cases c with
  | view v a => simp [movedFrom]
  | container o => simp [movedFrom]
  | valueless => exact absurd rfl h

/-! ### Operations that throw -/

/-- The cow has a value, and the operation did not terminate. -/
def Keeps (result : Cow V E A × Outcome) : Prop :=
  result.1 ≠ valueless ∧ result.2 ≠ .terminated

theorem keeps_emplace_iff {new : Cow V E A} (h : new ≠ valueless) {fails : Bool} :
    Keeps (emplace fails new) ↔ fails = false := by
  cases fails with
  | false => exact iff_of_true ⟨h, by simp [emplace]⟩ rfl
  | true => exact iff_of_false (fun hkeeps => hkeeps.1 rfl) (by simp)

theorem keeps_assignView (h : c ≠ valueless) (v : V) : Keeps (c.assignView v) := by
  cases c with
  | view w a => exact ⟨by simp [assignView], by simp [assignView]⟩
  | container o => exact (keeps_emplace_iff (by simp)).mpr rfl
  | valueless => exact absurd rfl h

theorem keeps_assignContainer (h : c ≠ valueless) (fails : Bool) :
    Keeps (c.assignContainer fails other) := by
  obtain ⟨a, ha⟩ := exists_getAllocator h
  unfold assignContainer
  rw [ha]
  cases other with
  | view v b => exact ⟨h, by simp⟩
  | container o =>
    cases fails with
    | false => exact (keeps_emplace_iff (by simp)).mpr rfl
    | true => exact ⟨h, by simp⟩
  | valueless => exact ⟨h, by simp⟩

/-- **Copy assignment** leaves a value, whether it returns or throws. -/
theorem keeps_copyAssign (h : c ≠ valueless) (hother : other ≠ valueless) (fails : Bool)
    (left : Container E A) : Keeps (copyAssign traits fails left c other) := by
  unfold copyAssign
  by_cases hsticky : (traits.usesAllocator && !traits.propagateOnContainerCopyAssignment) = true
  · rw [if_pos hsticky]
    cases other with
    | view v b => exact keeps_assignView h v
    | container o => exact keeps_assignContainer h fails
    | valueless => exact absurd rfl hother
  · rw [if_neg hsticky]
    cases other with
    | view v b =>
      have hcopied : variantCopyAssign traits fails left c (view v b) = (view v b, .returned) := by
        cases c <;> rfl
      rw [hcopied]
      exact ⟨by simp, by simp⟩
    | container o =>
      cases c with
      | view w a =>
        cases fails with
        | false => exact (keeps_emplace_iff (by simp)).mpr rfl
        | true => exact ⟨h, by simp [variantCopyAssign]⟩
      | container p =>
        cases fails with
        | false => exact ⟨by simp [variantCopyAssign], by simp [variantCopyAssign]⟩
        | true => exact ⟨by simp [variantCopyAssign], by simp [variantCopyAssign]⟩
      | valueless => exact absurd rfl h
    | valueless => exact absurd rfl hother

/-- **Move assignment** leaves a value too. -/
theorem keeps_moveAssign (h : c ≠ valueless) (hother : other ≠ valueless) (fails : Bool) :
    Keeps (moveAssign traits fails c other) := by
  unfold moveAssign
  by_cases hsticky : (traits.usesAllocator && !traits.propagateOnContainerMoveAssignment) = true
  · rw [if_pos hsticky]
    cases other with
    | view v b => exact keeps_assignView h v
    | container o => exact keeps_assignContainer h fails
    | valueless => exact absurd rfl hother
  · rw [if_neg hsticky]
    have hmoved : variantMoveAssign c other = (other, .returned) := by
      cases c <;> cases other <;> rfl
    rw [hmoved]
    exact ⟨hother, by simp⟩

theorem keeps_owned (h : c ≠ valueless) (fails : Bool) : Keeps (c.owned traits fails) := by
  cases c with
  | view v a =>
    cases fails with
    | false => exact (keeps_emplace_iff (by simp)).mpr rfl
    | true => exact ⟨h, by simp [owned]⟩
  | container o => exact ⟨h, by simp [owned]⟩
  | valueless => exact absurd rfl h

/-- **`emplace_viewed`** leaves a value if and only if the view is constructed. -/
theorem keeps_emplaceViewed_iff (h : c ≠ valueless) {fails : Bool} {v : V} :
    Keeps (c.emplaceViewed traits fails v) ↔ fails = false := by
  obtain ⟨a, ha⟩ := exists_getAllocator h
  rw [emplaceViewed, ha]
  by_cases huses : traits.usesAllocator = true
  · rw [if_pos huses]
    exact keeps_emplace_iff (by simp)
  · rw [if_neg huses]
    exact keeps_emplace_iff (by simp)

/-- **`emplace_owned`** leaves a value if and only if the container is constructed. -/
theorem keeps_emplaceOwned_iff (h : c ≠ valueless) {fails : Bool} {elements : List E} :
    Keeps (c.emplaceOwned traits fails elements) ↔ fails = false := by
  obtain ⟨a, ha⟩ := exists_getAllocator h
  rw [emplaceOwned, ha]
  by_cases huses : traits.usesAllocator = true
  · rw [if_pos huses]
    exact keeps_emplace_iff (by simp)
  · rw [if_neg huses]
    exact keeps_emplace_iff (by simp)

/-! ### Allocators that do not propagate -/

/-- The value with another allocator. -/
def withAllocator (a : A) : Cow V E A → Cow V E A
  | view viewed _ => view viewed a
  | container owned => container ⟨owned.elements, a⟩
  | valueless => valueless

theorem getAllocator_withAllocator (h : c ≠ valueless) (a : A) :
    (c.withAllocator a).getAllocator = some a := by
  cases c with
  | view v b => rfl
  | container o => rfl
  | valueless => exact absurd rfl h

@[simp] theorem viewed_withAllocator (c : Cow V E A) (a : A) :
    (c.withAllocator a).viewed traits = c.viewed traits := by
  cases c <;> rfl

@[simp] theorem isViewed_withAllocator (c : Cow V E A) (a : A) :
    (c.withAllocator a).isViewed = c.isViewed := by
  cases c <;> rfl

@[simp] theorem isOwned_withAllocator (c : Cow V E A) (a : A) :
    (c.withAllocator a).isOwned = c.isOwned := by
  cases c <;> rfl

/-- **`owned`** makes a container of what was viewed, with the allocator of the cow. -/
theorem owned_eq {a : A} {l : List E} (ha : c.getAllocator = some a)
    (hl : c.viewed traits = some l) :
    c.owned traits false = (container ⟨l, a⟩, .returned) := by
  cases c with
  | view v b =>
    rw [← Option.some.inj ha, ← Option.some.inj hl]
    rfl
  | container o =>
    rw [← Option.some.inj ha, ← Option.some.inj hl]
    rfl
  | valueless => exact absurd ha (by simp [getAllocator])

theorem assignView_eq {a : A} (ha : c.getAllocator = some a) (v : V) :
    c.assignView v = (view v a, .returned) := by
  cases c with
  | view w b =>
    rw [← Option.some.inj ha]
    rfl
  | container o =>
    rw [← Option.some.inj ha]
    rfl
  | valueless => exact absurd ha (by simp [getAllocator])

theorem assignContainer_eq {a : A} (ha : c.getAllocator = some a) (o : Container E A) :
    c.assignContainer false (container o) = (container ⟨o.elements, a⟩, .returned) := by
  unfold assignContainer
  rw [ha]
  rfl

/-- **Copy assignment** takes the value of the other cow and keeps the allocator. -/
theorem copyAssign_eq (huses : traits.usesAllocator = true)
    (hcopy : traits.propagateOnContainerCopyAssignment = false) {a : A}
    (ha : c.getAllocator = some a) (hother : other ≠ valueless) (left : Container E A) :
    copyAssign traits false left c other = (other.withAllocator a, .returned) := by
  unfold copyAssign
  rw [huses, hcopy, if_pos (by rfl)]
  cases other with
  | view v b => exact assignView_eq ha v
  | container o => exact assignContainer_eq ha o
  | valueless => exact absurd rfl hother

/-- **Move assignment** does the same. -/
theorem moveAssign_eq (huses : traits.usesAllocator = true)
    (hmove : traits.propagateOnContainerMoveAssignment = false) {a : A}
    (ha : c.getAllocator = some a) (hother : other ≠ valueless) :
    moveAssign traits false c other = (other.withAllocator a, .returned) := by
  unfold moveAssign
  rw [huses, hmove, if_pos (by rfl)]
  cases other with
  | view v b => exact assignView_eq ha v
  | container o => exact assignContainer_eq ha o
  | valueless => exact absurd rfl hother

/-! ### Allocators that propagate -/

/-- What an assignment is to make of a cow, where the allocator propagates. -/
structure TakesFrom (traits : CowTraits V E A) (result other : Cow V E A) : Prop where
  getAllocator : result.getAllocator = other.getAllocator
  viewed : result.viewed traits = other.viewed traits

/-- Where the alternatives are the same, and where a view takes the place of a container,
the variant copies the allocator. -/
theorem variantCopyAssign_eq (h : ¬ (c.isViewed = true ∧ other.isOwned = true))
    (hc : c ≠ valueless) (left : Container E A) :
    variantCopyAssign traits false left c other = (other, .returned) := by
  cases c with
  | view v a =>
    cases other with
    | view w b => rfl
    | container o => exact absurd ⟨rfl, rfl⟩ h
    | valueless => rfl
  | container o =>
    cases other with
    | view w b => rfl
    | container p => rfl
    | valueless => rfl
  | valueless => exact absurd rfl hc

/-- **Copy assignment with an allocator that propagates** takes the content of the other
cow, and its allocator too unless it constructs a container in the place of a view, with
an allocator that `select_on_container_copy_construction` has changed. -/
theorem copyAssign_takesFrom_iff (huses : traits.usesAllocator = true)
    (hcopy : traits.propagateOnContainerCopyAssignment = true) (hc : c ≠ valueless)
    (left : Container E A) :
    TakesFrom traits (copyAssign traits false left c other).1 other ↔
      (c.isViewed = true → other.isOwned = true →
        other.getAllocator.map traits.selectOnContainerCopyConstruction = other.getAllocator) := by
  have hassign : copyAssign traits false left c other
      = variantCopyAssign traits false left c other := by
    unfold copyAssign
    rw [huses, hcopy, if_neg (by decide)]
  rw [hassign]
  by_cases hroute : c.isViewed = true ∧ other.isOwned = true
  · obtain ⟨hview, howned⟩ := hroute
    cases c with
    | view v a =>
      cases other with
      | container o =>
        -- the container is copy constructed, so the allocator goes through `select`
        refine ⟨fun h _ _ => h.getAllocator, fun h => ⟨h rfl rfl, rfl⟩⟩
      | view w b => exact absurd howned (by simp [isOwned])
      | valueless => exact absurd howned (by simp [isOwned])
    | container o => exact absurd hview (by simp [isViewed])
    | valueless => exact absurd rfl hc
  · rw [variantCopyAssign_eq hroute hc]
    refine iff_of_true ⟨rfl, rfl⟩ fun hview howned => ?_
    exact absurd ⟨hview, howned⟩ hroute

/-- Strings over numbered allocators, of which a copied container gets number 0. -/
def selectZero : CowTraits (List Char) Char Nat where
  elements := id
  usesAllocator := true
  defaultAllocator := 0
  selectOnContainerCopyConstruction := fun _ => 0
  propagateOnContainerCopyAssignment := true
  propagateOnContainerMoveAssignment := true

theorem copyAssign_takesFrom_iff_sample :
    TakesFrom selectZero (copyAssign selectZero false ⟨[], 0⟩
        (container ⟨['a'], 1⟩) (container ⟨['b'], 7⟩)).1 (container ⟨['b'], 7⟩) ↔
      ((container ⟨['a'], 1⟩ : Cow (List Char) Char Nat).isViewed = true →
        (container ⟨['b'], 7⟩ : Cow (List Char) Char Nat).isOwned = true →
        (some 7).map (fun _ => 0) = some 7) :=
  copyAssign_takesFrom_iff rfl rfl (by simp) ⟨[], 0⟩

/-- The owned cow has allocator 7, and the one that was viewed gets number 0. -/
theorem copyAssign_changes_allocator :
    (copyAssign selectZero false ⟨[], 0⟩ (view ['a'] 1) (container ⟨['b'], 7⟩)).1.getAllocator
        = some 0 ∧
      ¬ TakesFrom selectZero (copyAssign selectZero false ⟨[], 0⟩ (view ['a'] 1)
        (container ⟨['b'], 7⟩)).1 (container ⟨['b'], 7⟩) := by
  refine ⟨rfl, fun h => ?_⟩
  have hzero := Option.some.inj h.getAllocator
  exact absurd hzero (by decide)

end Cow

end Libhat

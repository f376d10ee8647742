import Libhat.Strconv

/-!
# What `parse_int` computes

The loop of `parse_int` multiplies by the base and adds a digit.  Types narrower than
`int` compute in `int`, where nothing overflows, and come back to their width after every
step; unsigned types compute modulo `2 ^ width`; signed types as wide as `int` compute
exactly, or not at all.

* `digitOf_iff`: what a digit is.
* `parseDigits_eq`: the value of the digits, brought to the type, as long as the exact
  values that the loop goes through stay in range.
* `parseInt_readsNumber`: which strings are numbers, and which number each is.
* `parseInt_represents_iff`: a number is read back from its representation, except for
  the least one of the wide types.
-/

namespace Libhat

/-! ### Digits -/

/-- The character of a digit, in lower case. -/
def digitChar (d : Nat) : Char :=
  Char.ofNat (if d < 10 then '0'.toNat + d else 'a'.toNat + (d - 10))

/-- The character is the digit `d` of the base, a letter being in either case. -/
def IsDigit (base : Nat) (c : Char) (d : Nat) : Prop := d < base ∧ c.toLower = digitChar d

theorem toLower_of_ge {c : Char} (h : 128 ≤ c.toNat) : c.toLower = c := by
  have hz : ¬ (c.val ≥ 'A'.val ∧ c.val ≤ 'Z'.val) := by
    intro hc
    have : c.toNat ≤ 'Z'.toNat := hc.2
    simp at this
    omega
  rw [Char.toLower, dif_neg hz]

/-- **A digit of a base** is one of base 36 that is less than it. -/
theorem digitOf_base {base : Nat} (h36 : base ≤ 36) {c : Char} {d : Nat} :
    digitOf base c = some d ↔ d < base ∧ digitOf 36 c = some d := by
  rw [digitOf_eq_some, digitOf_eq_some]
  omega

theorem digitOf_of_ge {base : Nat} {c : Char} (h36 : base ≤ 36) (h : 128 ≤ c.toNat) :
    digitOf base c = none := by
  rw [Option.eq_none_iff_forall_ne_some]
  intro d hd
  rw [digitOf_eq_some] at hd
  omega

/-- **The digit of a character** is the one that its lower case form is written as. -/
theorem digitOf_iff {base : Nat} (h36 : base ≤ 36) {c : Char} {d : Nat} :
    digitOf base c = some d ↔ IsDigit base c d := by
  have hascii : ∀ n < 128, ∀ d < 36, digitOf 36 (Char.ofNat n) = some d ↔
      (Char.ofNat n).toLower = digitChar d := by decide +kernel
  have hchars : ∀ d < 36, (digitChar d).toNat < 128 := by decide
  rw [digitOf_base h36, IsDigit]
  refine and_congr_right fun hd => ?_
  by_cases hc : c.toNat < 128
  · have := hascii c.toNat hc d (by omega)
    rwa [Char.ofNat_toNat] at this
  · rw [digitOf_of_ge le_rfl (by omega), toLower_of_ge (by omega)]
    refine iff_of_false (by simp) fun h => ?_
    have := hchars d (by omega)
    rw [← h] at this
    exact hc this

/-! ### Arithmetic -/

namespace IntType

variable {t : IntType}

/-- No integral type is wider than `short` and narrower than `int`. -/
def Standard (t : IntType) : Prop := 0 < t.width ∧ (t.width ≤ 16 ∨ int.width ≤ t.width)

/-- The values of a signed type. -/
def InRange (t : IntType) (x : Int) : Prop := -2 ^ (t.width - 1) ≤ x ∧ x < 2 ^ (t.width - 1)

/-- The arithmetic of the type itself can overflow: it is signed, and not promoted. -/
def Overflows (t : IntType) : Prop := t.signed = true ∧ int.width ≤ t.width

instance : DecidablePred Standard := fun t =>
  inferInstanceAs (Decidable (0 < t.width ∧ (t.width ≤ 16 ∨ int.width ≤ t.width)))

instance (t : IntType) : DecidablePred t.InRange := fun x =>
  inferInstanceAs (Decidable (-2 ^ (t.width - 1) ≤ x ∧ x < 2 ^ (t.width - 1)))

instance : DecidablePred Overflows := fun t =>
  inferInstanceAs (Decidable (t.signed = true ∧ int.width ≤ t.width))

@[simp] theorem convert_convert (x : Int) : t.convert (t.convert x) = t.convert x := by
  unfold convert
  by_cases h : t.signed = true
  · rw [if_pos h, if_pos h, Int.bmod_bmod]
  · rw [if_neg h, if_neg h, Int.emod_emod]

theorem convert_add (x y : Int) : t.convert (t.convert x + t.convert y) = t.convert (x + y) := by
  unfold convert
  by_cases h : t.signed = true
  · rw [if_pos h, if_pos h, if_pos h, if_pos h, ← Int.add_bmod]
  · rw [if_neg h, if_neg h, if_neg h, if_neg h, ← Int.add_emod]

theorem convert_mul (x y : Int) : t.convert (t.convert x * y) = t.convert (x * y) := by
  unfold convert
  by_cases h : t.signed = true
  · rw [if_pos h, if_pos h, if_pos h, Int.bmod_mul_bmod]
  · rw [if_neg h, if_neg h, if_neg h, Int.mul_emod, Int.emod_emod, ← Int.mul_emod]

/-- A value of a signed type stays as it is. -/
theorem convert_of_inRange (hs : t.signed = true) (hw : 0 < t.width) {x : Int}
    (h : t.InRange x) : t.convert x = x := by
  rw [convert, if_pos hs]
  obtain ⟨hlow, hhigh⟩ := h
  obtain ⟨k, hk⟩ : ∃ k, t.width = k + 1 := ⟨t.width - 1, by omega⟩
  rw [hk, Nat.add_sub_cancel] at hlow hhigh
  have hpow : ((2 ^ t.width : Nat) : Int) = 2 * 2 ^ k := by
    rw [hk]
    push_cast
    ring
  apply Int.bmod_eq_of_le
  · rw [hpow]
    omega
  · rw [hpow]
    omega

/-- The value of a narrow type is small. -/
theorem convert_small (hw : t.width ≤ 16) (x : Int) :
    -2 ^ 16 ≤ t.convert x ∧ t.convert x ≤ 2 ^ 16 := by
  have hpos : 0 < 2 ^ t.width := Nat.two_pow_pos _
  have hle : 2 ^ t.width ≤ 2 ^ 16 := Nat.pow_le_pow_right (by decide) hw
  unfold convert
  generalize 2 ^ t.width = m at *
  split
  · have h1 := Int.le_bmod (x := x) hpos
    have h2 := Int.bmod_lt (x := x) hpos
    omega
  · have h1 := Int.emod_nonneg x (b := m) (by omega)
    have h2 := Int.emod_lt_of_pos x (b := m) (by omega)
    omega

theorem arith_of_inRange (hs : t.signed = true) {x : Int} (h : t.InRange x) :
    t.arith x = .ok x := by
  rw [arith, if_pos hs]
  exact if_pos h

theorem arith_of_not_inRange (hs : t.signed = true) {x : Int} (h : ¬ t.InRange x) :
    t.arith x = .error .overflow := by
  rw [arith, if_pos hs]
  exact if_neg h

/-- **An operation of `parse_int`** whose operands stand for exact values gives what stands
for the exact result, if neither `int` nor the type itself overflows. -/
theorem assign_eq (ht : t.Standard) {x y : Int} (hxy : t.convert x = t.convert y)
    (hint : t.width ≤ 16 → int.InRange x) (hrange : t.Overflows → t.InRange x) :
    t.assign x = .ok (t.convert y) := by
  obtain ⟨_, hnarrow | hwide⟩ := ht
  · have hpromote : t.promote = int := if_pos (show t.width < 32 by omega)
    rw [assign, hpromote, arith_of_inRange rfl (hint hnarrow), ok_bind, hxy]
    rfl
  · have hpromote : t.promote = t := if_neg (Nat.not_lt.mpr hwide)
    rw [assign, hpromote, ← hxy]
    by_cases hs : t.signed = true
    · rw [arith_of_inRange hs (hrange ⟨hs, hwide⟩)]
      rfl
    · rw [arith, if_neg hs, ok_bind, convert_convert]
      rfl

/-- A type that is not promoted computes exactly, or not at all. -/
theorem assign_overflows (hov : t.Overflows) {x r : Int} (h : t.assign x = .ok r) :
    r = x ∧ t.InRange x := by
  obtain ⟨hs, hwide⟩ := hov
  have hpromote : t.promote = t := if_neg (Nat.not_lt.mpr hwide)
  have hpos : 0 < t.width := Nat.lt_of_lt_of_le (by decide) hwide
  rw [assign, hpromote] at h
  by_cases hx : t.InRange x
  · rw [arith_of_inRange hs hx, ok_bind, convert_of_inRange hs hpos hx] at h
    exact ⟨(Except.ok.inj h).symm, hx⟩
  · rw [arith_of_not_inRange hs hx] at h
    cases h

theorem inRange_of_small (hov : t.Overflows) {x : Int} (h0 : 0 ≤ x) (h : x < 2 ^ 31) :
    t.InRange x := by
  have hpow : (2 : Int) ^ 31 ≤ 2 ^ (t.width - 1) :=
    pow_le_pow_right₀ (by decide) (Nat.le_sub_one_of_lt hov.2)
  exact ⟨by omega, by omega⟩

theorem inRange_zero : t.InRange (0 : Nat) := by
  have hpos : (0 : Int) < 2 ^ (t.width - 1) := by positivity
  exact ⟨by simp, hpos⟩

theorem InRange.neg {x : Int} (h : t.InRange x) (h0 : 0 ≤ x) : t.InRange (-x) := by
  obtain ⟨_, h⟩ := h
  exact ⟨by omega, by omega⟩

end IntType

/-! ### The loop -/

section

variable {t : IntType} {base : Nat}

/-- The number that the digits behind those of `value` make, if they are digits. -/
def exactValue (base : Nat) : Text → Nat → Option Nat
  | [], value => some value
  | ch :: rest, value =>
    match digitOf base ch with
    | some digit => exactValue base rest (value * base + digit)
    | none => none

/-- The exact values that the loop of `parse_int` goes through: it multiplies before it looks
at a character. -/
def intermediates (base : Nat) : Text → Nat → List Nat
  | [], _ => []
  | ch :: rest, value =>
    value * base :: match digitOf base ch with
      | some digit =>
        (value * base + digit) :: intermediates base rest (value * base + digit)
      | none => []

/-- No intermediate value leaves the range of the type. -/
def Fits (t : IntType) (base : Nat) (str : Text) (value : Nat) : Prop :=
  ∀ x ∈ intermediates base str value, t.InRange x

instance (t : IntType) (base : Nat) (str : Text) (value : Nat) :
    Decidable (Fits t base str value) :=
  inferInstanceAs (Decidable (∀ x ∈ intermediates base str value, t.InRange x))

theorem fits_cons {ch : Char} {rest : Text} {value d : Nat} (hd : digitOf base ch = some d) :
    Fits t base (ch :: rest) value ↔ t.InRange (value * base : Nat) ∧
      t.InRange (value * base + d : Nat) ∧ Fits t base rest (value * base + d) := by
  simp [Fits, intermediates, hd]

theorem mul_inRange {x : Int} (hx : -2 ^ 16 ≤ x ∧ x ≤ 2 ^ 16) (h36 : base ≤ 36) :
    IntType.int.InRange (x * base) := by
  have hb : (0 : Int) ≤ base := Int.natCast_nonneg base
  have hlow := Int.mul_le_mul_of_nonneg_right hx.1 hb
  have hhigh := Int.mul_le_mul_of_nonneg_right hx.2 hb
  have hrange : -2 ^ 31 ≤ x * base ∧ x * base < 2 ^ 31 := by omega
  exact hrange

/-- **The multiplication** of the loop. -/
theorem assign_mul (ht : t.Standard) (h36 : base ≤ 36) (value : Nat)
    (hov : t.Overflows → t.InRange value ∧ t.InRange (value * base : Nat)) :
    t.assign (t.convert value * base) = .ok (t.convert (value * base : Nat)) := by
  apply IntType.assign_eq ht
  · rw [IntType.convert_mul, Nat.cast_mul]
  · intro hw
    exact mul_inRange (IntType.convert_small hw value) h36
  · intro h
    rw [IntType.convert_of_inRange h.1 ht.1 (hov h).1, ← Nat.cast_mul]
    exact (hov h).2

/-- **The addition** of the loop. -/
theorem assign_add (ht : t.Standard) (value : Nat) {d : Nat} (hd : d < 36)
    (hov : t.Overflows → t.InRange value ∧ t.InRange (value + d : Nat)) :
    t.assign (t.convert value + t.convert d) = .ok (t.convert (value + d : Nat)) := by
  apply IntType.assign_eq ht
  · rw [IntType.convert_add, Nat.cast_add]
  · intro hw
    have h1 := IntType.convert_small hw value
    have h2 := IntType.convert_small hw d
    have hrange : -2 ^ 31 ≤ t.convert value + t.convert d ∧
        t.convert value + t.convert d < 2 ^ 31 := by omega
    exact hrange
  · intro h
    have hsmall : t.InRange d := IntType.inRange_of_small h (by omega) (by omega)
    rw [IntType.convert_of_inRange h.1 ht.1 (hov h).1,
      IntType.convert_of_inRange h.1 ht.1 hsmall, ← Nat.cast_add]
    exact (hov h).2

/-- **The loop** has what stands for the exact value in the type, and sees an illegal
character where there is one. -/
theorem parseDigits_eq (ht : t.Standard) (h36 : base ≤ 36) : ∀ (str : Text) (value : Nat),
    (t.Overflows → t.InRange value ∧ Fits t base str value) →
    parseDigits t base str (t.convert value) = .ok (match exactValue base str value with
      | some n => .ok (t.convert n)
      | none => .error .illegalChar) := by
  intro str
  induction str with
  | nil =>
    intro value _
    rfl
  | cons ch rest ih =>
    intro value hfits
    have hmul := assign_mul ht h36 value fun h =>
      ⟨(hfits h).1, (hfits h).2 _ List.mem_cons_self⟩
    rw [parseDigits, hmul, ok_bind, exactValue]
    cases hd : digitOf base ch with
    | none => rfl
    | some d =>
      have hlt := digitOf_lt hd
      have hadd := assign_add ht (value * base) (d := d) (by omega) fun h =>
        ⟨((fits_cons hd).mp (hfits h).2).1, ((fits_cons hd).mp (hfits h).2).2.1⟩
      have hrest := ih (value * base + d) fun h => ((fits_cons hd).mp (hfits h).2).2
      simp only [hadd, ok_bind]
      exact hrest

/-- **A loop without promotion that comes to its end** has computed the exact value, which is
in range. -/
theorem parseDigits_exact (hov : t.Overflows) (h36 : base ≤ 36) :
    ∀ (str : Text) (value : Nat) (r : Int), t.InRange value →
    parseDigits t base str value = .ok (.ok r) →
    ∃ n, exactValue base str value = some n ∧ t.InRange n := by
  intro str
  induction str with
  | nil =>
    intro value r hvalue _
    exact ⟨value, rfl, hvalue⟩
  | cons ch rest ih =>
    intro value r hvalue h
    rw [parseDigits] at h
    obtain ⟨x, hx, h⟩ := bind_eq_ok h
    obtain ⟨rfl, _⟩ := IntType.assign_overflows hov hx
    rw [exactValue]
    cases hd : digitOf base ch with
    | none =>
      rw [hd] at h
      cases h
    | some d =>
      simp only [hd] at h
      obtain ⟨y, hy, h⟩ := bind_eq_ok h
      obtain ⟨rfl, hin⟩ := IntType.assign_overflows hov hy
      have hlt := digitOf_lt hd
      have hdigit : t.convert d = d :=
        IntType.convert_of_inRange hov.1 (Nat.lt_of_lt_of_le (by decide) hov.2)
          (IntType.inRange_of_small hov (by omega) (by omega))
      rw [hdigit, ← Nat.cast_mul, ← Nat.cast_add] at h hin
      exact ih _ r hin h

/-! ### Signs -/

/-- What a string says: its sign, which only a signed type has, and the characters behind
it. -/
inductive HasSign (t : IntType) : Text → Int → Text → Prop where
  | plus (digits : Text) (hs : t.signed = true) : HasSign t ('+' :: digits) 1 digits
  | minus (digits : Text) (hs : t.signed = true) : HasSign t ('-' :: digits) (-1) digits
  | absent (digits : Text)
      (hfirst : t.signed = true → digits.head? ≠ some '+' ∧ digits.head? ≠ some '-') :
      HasSign t digits 1 digits

theorem HasSign.parseSign_eq {str digits : Text} {sign : Int} (h : HasSign t str sign digits) :
    parseSign t str = (sign, digits) := by
  cases h with
  | plus _ hs => exact if_pos hs
  | minus _ hs => exact if_pos hs
  | absent _ hfirst =>
    unfold parseSign
    split
    · rw [if_neg fun hs => (hfirst hs).1 rfl]
    · rw [if_neg fun hs => (hfirst hs).2 rfl]
    · rfl

/-- Every string has one. -/
theorem exists_hasSign (t : IntType) (str : Text) : ∃ sign digits, HasSign t str sign digits := by
  by_cases hplus : t.signed = true ∧ str.head? = some '+'
  · obtain ⟨digits, rfl⟩ := List.head?_eq_some_iff.mp hplus.2
    exact ⟨1, digits, .plus digits hplus.1⟩
  by_cases hminus : t.signed = true ∧ str.head? = some '-'
  · obtain ⟨digits, rfl⟩ := List.head?_eq_some_iff.mp hminus.2
    exact ⟨-1, digits, .minus digits hminus.1⟩
  · exact ⟨1, str, .absent str fun hs => ⟨fun h => hplus ⟨hs, h⟩, fun h => hminus ⟨hs, h⟩⟩⟩

theorem HasSign.sign_eq {str digits : Text} {sign : Int} (h : HasSign t str sign digits) :
    sign = 1 ∨ (sign = -1 ∧ t.signed = true) := by
  cases h with
  | plus _ hs => exact Or.inl rfl
  | minus _ hs => exact Or.inr ⟨rfl, hs⟩
  | absent _ hfirst => exact Or.inl rfl

/-! ### Numbers -/

/-- The exact value is one of the intermediate ones. -/
theorem exactValue_inRange : ∀ {str : Text} {value n : Nat}, t.InRange value →
    Fits t base str value → exactValue base str value = some n → t.InRange n := by
  intro str
  induction str with
  | nil =>
    intro value n hvalue _ h
    obtain rfl := Option.some.inj h
    exact hvalue
  | cons ch rest ih =>
    intro value n _ hfits h
    rw [exactValue] at h
    cases hd : digitOf base ch with
    | none =>
      rw [hd] at h
      cases h
    | some d =>
      rw [hd] at h
      obtain ⟨_, hnext, hrest⟩ := (fits_cons hd).mp hfits
      exact ih hnext hrest h

/-- **The whole of `parse_int`**, as long as nothing overflows. -/
theorem parseInt_eq (ht : t.Standard) (h2 : 2 ≤ base) (h36 : base ≤ 36) {str digits : Text}
    {sign : Int} (hsign : HasSign t str sign digits) (hfits : t.Overflows → Fits t base digits 0) :
    parseInt t str base = .ok (match exactValue base digits 0 with
      | some n => .ok (t.convert (sign * n))
      | none => .error .illegalChar) := by
  have hbase : ¬ (base < 2 ∨ base > 36) := by omega
  have hrun := parseDigits_eq ht h36 digits 0 fun hov => ⟨IntType.inRange_zero, hfits hov⟩
  have hconv : t.convert (0 : Nat) = 0 := by
    unfold IntType.convert
    split
    · exact Int.zero_bmod
    · exact Int.zero_emod _
  rw [hconv] at hrun
  rw [parseInt, if_neg hbase, hsign.parseSign_eq]
  show (parseDigits t base digits 0 >>= _) = _
  rw [hrun, ok_bind]
  cases hvalue : exactValue base digits 0 with
  | none => rfl
  | some n =>
    have hassign : t.assign (sign * t.convert n) = .ok (t.convert (sign * n)) := by
      apply IntType.assign_eq ht
      · rw [Int.mul_comm, IntType.convert_mul, Int.mul_comm]
      · intro hw
        have hsmall := IntType.convert_small hw n
        have hrange : -2 ^ 31 ≤ sign * t.convert n ∧ sign * t.convert n < 2 ^ 31 := by
          rcases hsign.sign_eq with rfl | ⟨rfl, _⟩ <;> omega
        exact hrange
      · intro hov
        have hn := exactValue_inRange IntType.inRange_zero (hfits hov) hvalue
        rw [IntType.convert_of_inRange hov.1 ht.1 hn]
        rcases hsign.sign_eq with rfl | ⟨rfl, _⟩
        · rwa [Int.one_mul]
        · rw [Int.neg_one_mul]
          exact hn.neg (Int.natCast_nonneg n)
    simp only [hassign, ok_bind]
    rfl

/-- **Which strings have no value.** -/
theorem exactValue_eq_none_iff (h36 : base ≤ 36) : ∀ (str : Text) (value : Nat),
    exactValue base str value = none ↔ ∃ c ∈ str, ∀ d, ¬ IsDigit base c d := by
  intro str
  induction str with
  | nil =>
    intro value
    simp [exactValue]
  | cons ch rest ih =>
    intro value
    rw [exactValue]
    cases hd : digitOf base ch with
    | none =>
      refine iff_of_true rfl ⟨ch, List.mem_cons_self, fun d h => ?_⟩
      rw [(digitOf_iff h36).mpr h] at hd
      cases hd
    | some d =>
      have hdigit := (digitOf_iff h36).mp hd
      constructor
      · intro h
        obtain ⟨c, hc, hnone⟩ := (ih _).mp h
        exact ⟨c, List.mem_cons_of_mem ch hc, hnone⟩
      · intro h
        obtain ⟨c, hc, hnone⟩ := h
        rcases List.mem_cons.mp hc with rfl | hc
        · exact absurd hdigit (hnone d)
        · exact (ih _).mpr ⟨c, hc, hnone⟩

/-- **The value of a string of digits.** -/
theorem exactValue_digits (h36 : base ≤ 36) {str : Text} {ds : List Nat}
    (h : List.Forall₂ (IsDigit base) str ds) : ∀ value : Nat,
    exactValue base str value = some (value * base ^ ds.length + Nat.ofDigits base ds.reverse) := by
  induction h with
  | nil =>
    intro value
    simp [exactValue]
  | @cons c d rest ds hd _ ih =>
    intro value
    rw [exactValue, (digitOf_iff h36).mpr hd, List.reverse_cons, Nat.ofDigits_append,
      Nat.ofDigits_singleton, List.length_reverse, List.length_cons]
    dsimp only
    rw [ih]
    congr 1
    ring

theorem exactValue_zero (h36 : base ≤ 36) {str : Text} {ds : List Nat}
    (h : List.Forall₂ (IsDigit base) str ds) :
    exactValue base str 0 = some (Nat.ofDigits base ds.reverse) := by
  rw [exactValue_digits h36 h, Nat.zero_mul, Nat.zero_add]

/-- **One character**, read as a `std::uint8_t`, is its digit, if it is one of the base. -/
theorem parseInt_singleton (h2 : 2 ≤ base) (h36 : base ≤ 36) (ch : Char) :
    parseInt .uint8 [ch] base = .ok (match digitOf base ch with
      | some d => .ok d
      | none => .error .illegalChar) := by
  have hsign : HasSign .uint8 [ch] 1 [ch] := .absent [ch] fun h => absurd h (by decide)
  have hrun := parseInt_eq (by decide) h2 h36 hsign fun hov => absurd hov.1 (by decide)
  rw [hrun]
  cases hd : digitOf base ch with
  | none =>
    have hvalue : exactValue base [ch] 0 = none := by simp only [exactValue, hd]
    rw [hvalue]
  | some d =>
    have hvalue : exactValue base [ch] 0 = some d := by
      simp only [exactValue, hd, Nat.zero_mul, Nat.zero_add]
    have hlt := digitOf_lt hd
    have hconv : IntType.uint8.convert (1 * (d : Int)) = d := by
      rw [Int.one_mul]
      exact Int.emod_eq_of_lt (Int.natCast_nonneg d) (by simp [IntType.uint8]; omega)
    rw [hvalue]
    simp only [hconv]

/-- The values grow on the way. -/
theorem intermediates_le (hpos : 0 < base) : ∀ (str : Text) (value n : Nat),
    exactValue base str value = some n → value ≤ n ∧ ∀ x ∈ intermediates base str value, x ≤ n := by
  intro str
  induction str with
  | nil =>
    intro value n h
    obtain rfl := Option.some.inj h
    exact ⟨le_rfl, fun x hx => by cases hx⟩
  | cons ch rest ih =>
    intro value n h
    rw [exactValue] at h
    cases hd : digitOf base ch with
    | none =>
      rw [hd] at h
      cases h
    | some d =>
      rw [hd] at h
      obtain ⟨hle, hall⟩ := ih _ n h
      have hmul : value ≤ value * base := Nat.le_mul_of_pos_right value hpos
      refine ⟨by omega, fun x hx => ?_⟩
      simp only [intermediates, hd, List.mem_cons] at hx
      rcases hx with rfl | rfl | hx
      · omega
      · exact hle
      · exact hall x hx

/-- What `parse_int` is to make of a string.  A signed type has to have room for what the loop
computes: for the number that is returned, and in any case if it is not promoted. -/
structure ReadsNumber (t : IntType) (str : Text) (base : Nat) : Prop where
  invalidBase : base < 2 ∨ 36 < base → parseInt t str base = .ok (.error .invalidBase)
  hasSign : ∃ sign digits, HasSign t str sign digits
  illegalChar : 2 ≤ base → base ≤ 36 → ∀ sign digits, HasSign t str sign digits →
    (t.Overflows → Fits t base digits 0) →
    (parseInt t str base = .ok (.error .illegalChar) ↔ ∃ c ∈ digits, ∀ d, ¬ IsDigit base c d)
  signedNumber : 2 ≤ base → base ≤ 36 → ∀ sign digits, HasSign t str sign digits →
    t.signed = true → Fits t base digits 0 → ∀ ds, List.Forall₂ (IsDigit base) digits ds →
    parseInt t str base = .ok (.ok (sign * (Nat.ofDigits base ds.reverse : Nat)))
  unsignedNumber : 2 ≤ base → base ≤ 36 → t.signed = false →
    ∀ ds, List.Forall₂ (IsDigit base) str ds →
    parseInt t str base = .ok (.ok (Nat.ofDigits base ds.reverse % 2 ^ t.width : Nat))

/-- **`parse_int`**: outside of the bases from 2 to 36 there is no number; a string of which a
character behind the sign is no digit is illegal; and any other one is its number. -/
theorem parseInt_readsNumber (ht : t.Standard) (str : Text) (base : Nat) :
    ReadsNumber t str base where
  invalidBase := by
    intro hbase
    rw [parseInt, if_pos hbase]
    rfl
  hasSign := exists_hasSign t str
  illegalChar := by
    intro h2 h36 sign digits hsign hfits
    rw [parseInt_eq ht h2 h36 hsign hfits, ← exactValue_eq_none_iff h36 digits 0]
    cases exactValue base digits 0 with
    | none => exact iff_of_true rfl rfl
    | some n => exact iff_of_false (by simp) (by simp)
  signedNumber := by
    intro h2 h36 sign digits hsign hs hfits ds hds
    have hvalue := exactValue_zero h36 hds
    have hn := exactValue_inRange IntType.inRange_zero hfits hvalue
    rw [parseInt_eq ht h2 h36 hsign fun _ => hfits, hvalue]
    dsimp only
    rcases hsign.sign_eq with rfl | ⟨rfl, _⟩
    · rw [Int.one_mul, IntType.convert_of_inRange hs ht.1 hn]
    · rw [Int.neg_one_mul, IntType.convert_of_inRange hs ht.1 (hn.neg (Int.natCast_nonneg _))]
  unsignedNumber := by
    intro h2 h36 hs ds hds
    have hneg : ¬ t.signed = true := by
      rw [hs]
      decide
    have hsign : HasSign t str 1 str := .absent str fun h => absurd h hneg
    have hrun := parseInt_eq ht h2 h36 hsign fun hov => absurd hov.1 hneg
    rw [hrun, exactValue_zero h36 hds]
    dsimp only
    rw [Int.one_mul, IntType.convert, if_neg hneg]
    norm_cast

theorem parseInt_readsNumber_sample : ReadsNumber ⟨16, true⟩ ['-', '7', 'f'] 16 :=
  parseInt_readsNumber (by decide) ['-', '7', 'f'] 16

/-- The loop of an `int` overflows before it comes to the character that is no digit. -/
theorem parseInt_overflows_first :
    HasSign .int "99999999999x".toList 1 "99999999999x".toList ∧
      ¬ (parseInt .int "99999999999x".toList 10 = .ok (.error .illegalChar) ↔
        ∃ c ∈ "99999999999x".toList, ∀ d, ¬ IsDigit 10 c d) := by
  refine ⟨.absent _ fun _ => by decide, fun h => ?_⟩
  have hoverflow : parseInt .int "99999999999x".toList 10 = .error .overflow := by decide
  have hillegal := h.mpr ⟨ 'x', by decide, fun d hd => ?_⟩
  · rw [hoverflow] at hillegal
    cases hillegal
  · have hx : digitOf 10 'x' = none := by decide
    rw [(digitOf_iff (by decide)).mpr hd] at hx
    cases hx

/-! ### Representations -/

/-- The digits of a number, the first one first. -/
def positional (base n : Nat) : List Nat := if n = 0 then [0] else (Nat.digits base n).reverse

/-- The string is a representation of the number: its digits, letters being in either case,
behind a minus sign if it is negative. -/
def Represents (base : Nat) (str : Text) (v : Int) : Prop :=
  ∃ digits, List.Forall₂ (IsDigit base) digits (positional base v.natAbs) ∧
    str = if v < 0 then '-' :: digits else digits

theorem ofDigits_positional (base n : Nat) : Nat.ofDigits base (positional base n).reverse = n := by
  unfold positional
  split
  case isTrue h => simp [h]
  case isFalse h => rw [List.reverse_reverse, Nat.ofDigits_digits]

theorem not_isDigit_sign {c : Char} (hc : c = '+' ∨ c = '-') (d : Nat) : ¬ IsDigit 36 c d := by
  rw [← digitOf_iff le_rfl]
  have hnone : digitOf 36 c = none := by rcases hc with rfl | rfl <;> decide
  rw [hnone]
  simp

/-- A representation says the sign of its number. -/
theorem Represents.hasSign (hs : t.signed = true) (h36 : base ≤ 36) {str : Text} {v : Int}
    (h : Represents base str v) : ∃ sign digits, HasSign t str sign digits ∧
      sign * v.natAbs = v ∧ exactValue base digits 0 = some v.natAbs := by
  obtain ⟨digits, hdigits, rfl⟩ := h
  have hvalue := exactValue_zero h36 hdigits
  rw [ofDigits_positional] at hvalue
  by_cases hneg : v < 0
  · rw [if_pos hneg]
    exact ⟨-1, digits, .minus digits hs, by omega, hvalue⟩
  · rw [if_neg hneg]
    refine ⟨1, digits, .absent digits fun _ => ?_, by omega, hvalue⟩
    have hfirst : ∀ c, c = '+' ∨ c = '-' → digits.head? ≠ some c := by
      intro c hc hhead
      obtain ⟨rest, rfl⟩ := List.head?_eq_some_iff.mp hhead
      obtain ⟨d, _, hd, _⟩ := List.forall₂_cons_left_iff.mp hdigits
      exact not_isDigit_sign hc d ⟨Nat.lt_of_lt_of_le hd.1 h36, hd.2⟩
    exact ⟨hfirst '+' (Or.inl rfl), hfirst '-' (Or.inr rfl)⟩

/-- **A number is read back from its representation**, and nothing overflows, exactly if it
is not the least one of a type that is not promoted: the loop goes through its magnitude,
which is one more than the greatest number. -/
theorem parseInt_represents_iff (ht : t.Standard) (hs : t.signed = true) (h2 : 2 ≤ base)
    (h36 : base ≤ 36) {v : Int} (hv : t.InRange v) {str : Text} (hstr : Represents base str v) :
    parseInt t str base = .ok (.ok v) ↔
      ¬ (IntType.int.width ≤ t.width ∧ v = -2 ^ (t.width - 1)) := by
  obtain ⟨sign, digits, hsign, hmul, hvalue⟩ := hstr.hasSign hs h36
  constructor
  · intro h hleast
    obtain ⟨hwide, hleast⟩ := hleast
    have hbase : ¬ (base < 2 ∨ base > 36) := by omega
    rw [parseInt, if_neg hbase, hsign.parseSign_eq] at h
    obtain ⟨result, hrun, hreturn⟩ := bind_eq_ok h
    cases result with
    | error e => cases hreturn
    | ok r =>
      obtain ⟨n, hn, hin⟩ := parseDigits_exact ⟨hs, hwide⟩ h36 digits 0 r IntType.inRange_zero hrun
      obtain rfl := Option.some.inj (hn.symm.trans hvalue)
      have := hin.2
      omega
  · intro hleast
    have hfits : t.Overflows → Fits t base digits 0 := by
      intro hov x hx
      have hle := (intermediates_le (by omega) digits 0 _ hvalue).2 x hx
      have hne : v ≠ -2 ^ (t.width - 1) := fun h => hleast ⟨hov.2, h⟩
      obtain ⟨hlow, hhigh⟩ := hv
      exact ⟨by omega, by omega⟩
    rw [parseInt_eq ht h2 h36 hsign hfits, hvalue]
    dsimp only
    rw [hmul, IntType.convert_of_inRange hs ht.1 hv]

/-- The least `int` in base 10. -/
theorem represents_least_int : Represents 10 "-2147483648".toList (-2147483648) := by
  refine ⟨"2147483648".toList, ?_, rfl⟩
  have hdigits : positional 10 (-2147483648 : Int).natAbs = [2, 1, 4, 7, 4, 8, 3, 6, 4, 8] := by
    simp [positional]
  rw [hdigits]
  repeat' constructor

theorem parseInt_represents_iff_sample :
    parseInt ⟨32, true⟩ "-2147483648".toList 10 = .ok (.ok (-2147483648)) ↔
      ¬ (IntType.int.width ≤ 32 ∧ (-2147483648 : Int) = -2 ^ (32 - 1)) :=
  parseInt_represents_iff (t := ⟨32, true⟩) (by decide) rfl (by decide) (by decide) (by decide)
    represents_least_int

/-- The magnitude of the least `int` is no `int`; that of the least `signed char` is. -/
theorem parseInt_least_overflows :
    Represents 10 "-2147483648".toList (-2147483648) ∧
      parseInt .int "-2147483648".toList 10 = .error .overflow ∧
      parseInt ⟨8, true⟩ "-128".toList 10 = .ok (.ok (-128)) :=
  ⟨represents_least_int, by decide, by decide⟩

end

end Libhat

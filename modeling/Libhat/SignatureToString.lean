import Libhat.SignatureText

/-!
# Writing signatures

`to_string` writes every element as a word that `parse_signature` reads: two
hexadecimal digits if a nibble of the mask is full, a wildcard if the mask is
empty, and eight binary digits otherwise.

The hexadecimal form has a wildcard for a nibble that is not full, so the part of
the mask that covers only some of its bits is lost: `parse_toString` says what is
read back, and `parse_toString_iff` when that is the signature that was written.
-/

namespace Libhat

/-- `hex`. -/
def hexDigits : Text := "0123456789ABCDEF".toList

/-- `hex[n & 0xF]`. -/
def hexDigit (n : Nat) : Char := hexDigits.getD (n % 16) '?'

/-- What `to_string` writes for one digit of the binary form. -/
def binaryDigit (e : SignatureElement) (digit : Nat) : Char :=
  if e.has digit then (if e.atDigit digit then '1' else '0') else '?'

/-- What `to_string` writes for an element, without the space after it. -/
def elementWord (e : SignatureElement) : Text :=
  let a := e.mask &&& 0xF0#8 == 0xF0#8
  let b := e.mask &&& 0x0F#8 == 0x0F#8
  if a || b then
    [if a then hexDigit (e.value >>> 4).toNat else '?', if b then hexDigit e.value.toNat else '?']
  else if e.none then
    ['?']
  else
    [binaryDigit e 7, binaryDigit e 6, binaryDigit e 5, binaryDigit e 4,
      binaryDigit e 3, binaryDigit e 2, binaryDigit e 1, binaryDigit e 0]

/-- `to_string`.  The last space is taken off, which an empty text does not have. -/
def toString (signature : Signature) : Exec Text :=
  match signature.flatMap (fun e => elementWord e ++ [' ']) with
  | [] => .error (.index 0)
  | ret => .ok ret.dropLast

/-! ### What is read back -/

/-- The part of a mask that is written. -/
def writtenMask (mask : Byte) : Byte :=
  let a := mask &&& 0xF0#8 == 0xF0#8
  let b := mask &&& 0x0F#8 == 0x0F#8
  if a || b then (if a then 0xF0#8 else 0x00#8) ||| (if b then 0x0F#8 else 0x00#8) else mask

/-- The element that is read back. -/
def reread (e : SignatureElement) : SignatureElement := .ofMasked e.value (writtenMask e.mask)

/-- A mask with a full nibble has all or nothing of the other one. -/
def NibblesWhole (mask : Byte) : Prop :=
  (mask &&& 0xF0#8 = 0xF0#8 → mask &&& 0x0F#8 = 0x00#8 ∨ mask &&& 0x0F#8 = 0x0F#8) ∧
    (mask &&& 0x0F#8 = 0x0F#8 → mask &&& 0xF0#8 = 0x00#8 ∨ mask &&& 0xF0#8 = 0xF0#8)

instance : DecidablePred NibblesWhole := fun mask => by
  unfold NibblesWhole
  infer_instance

/-- An element is made of its own value and mask. -/
theorem ofMasked_self (e : SignatureElement) : .ofMasked e.value e.mask = e := by
  obtain ⟨value, mask, hvalue⟩ := e
  simp only [SignatureElement.ofMasked, hvalue]

/-- **An element survives exactly when its mask has no partly covered nibble next to
a full one.** -/
theorem reread_eq_iff {e : SignatureElement} : reread e = e ↔ NibblesWhole e.mask := by
  have hmask : ∀ mask : Byte, writtenMask mask = mask ↔ NibblesWhole mask := by decide
  rw [← hmask]
  constructor
  · intro h
    exact congrArg SignatureElement.mask h
  · intro h
    rw [reread, h, ofMasked_self]

/-! ### One word -/

section

open DigitPattern

/-- A nibble is written as its digit, or as a wildcard. -/
theorem digitOf_nibble (full : Bool) (n : Nat) :
    digitOf (2 ^ 4) (if full then hexDigit n else '?') = if full then some (n % 16) else none := by
  have hdigit : ∀ k < 16, digitOf (2 ^ 4) (hexDigit k) = some k := by decide
  cases full with
  | false => exact digitOf_wildcard (Or.inr rfl)
  | true =>
    have hmod : hexDigit n = hexDigit (n % 16) := by rw [hexDigit, hexDigit, Nat.mod_mod]
    rw [if_pos rfl, if_pos rfl, hmod]
    exact hdigit _ (Nat.mod_lt n (by decide))

/-- A character whose digit is known is legal. -/
theorem legalDigit_nibble (full : Bool) (n : Nat) :
    legalDigit 4 (if full then hexDigit n else '?') = true := by
  cases full with
  | false => rfl
  | true =>
    rw [legalDigit, digitOf_nibble true n]
    exact Bool.or_true _

/-- **The hexadecimal form** is read back with the full nibbles of the mask. -/
theorem parseWord_nibbles (a b : Bool) (value : Byte) :
    parseWord [if a then hexDigit (value >>> 4).toNat else '?',
        if b then hexDigit value.toNat else '?']
      = .ok (.ok (some (.ofMasked value
          ((if a then 0xF0#8 else 0x00#8) ||| (if b then 0x0F#8 else 0x00#8))))) := by
  have helement : ∀ (a b : Bool) (value : Byte),
      patternElement 4 [if a then some ((value >>> 4).toNat % 16) else none,
          if b then some (value.toNat % 16) else none]
        = .ofMasked value ((if a then 0xF0#8 else 0x00#8) ||| (if b then 0x0F#8 else 0x00#8)) := by
    decide
  have hparse := parseWord_digits (Or.inr rfl)
    (w := [if a then hexDigit (value >>> 4).toNat else '?',
      if b then hexDigit value.toNat else '?']) (by rfl)
  rw [List.all_cons, List.all_cons, legalDigit_nibble, legalDigit_nibble, wordPattern,
    List.map_cons, List.map_cons, digitOf_nibble, digitOf_nibble, List.map_nil, helement] at hparse
  exact hparse

theorem atDigit_le_has {e : SignatureElement} {digit : Nat} (h : e.atDigit digit = true) :
    e.has digit = true := by
  rw [SignatureElement.atDigit, bne_iff_ne] at h
  rw [SignatureElement.has, bne_iff_ne]
  intro hzero
  rw [← e.value_and_mask, BitVec.and_assoc, hzero] at h
  exact h BitVec.and_zero

/-- A bit is written as its digit, or as a wildcard. -/
theorem digitOf_binaryDigit (e : SignatureElement) (digit : Nat) :
    digitOf (2 ^ 1) (binaryDigit e digit)
      = if e.has digit then some (if e.atDigit digit then 1 else 0) else none := by
  rw [binaryDigit]
  cases e.has digit with
  | false => exact digitOf_wildcard (Or.inl rfl)
  | true => cases e.atDigit digit <;> rfl

/-- The digits of the binary form, from the highest on. -/
def binaryDigits : List Nat := [7, 6, 5, 4, 3, 2, 1, 0]

/-- **The binary form** is read back as the element. -/
theorem parseWord_bits (e : SignatureElement) :
    parseWord (binaryDigits.map (binaryDigit e)) = .ok (.ok (some e)) := by
  have hmask : ∀ mask : Byte, BitVec.ofNat 8 (binaryDigits.foldl
      (fun m i => m * 2 ^ 1 + if (mask &&& (1#8 <<< i) != 0) then 2 ^ 1 - 1 else 0) 0) = mask := by
    decide
  have hvalue : ∀ value : Byte, BitVec.ofNat 8 (binaryDigits.foldl
      (fun v i => v * 2 ^ 1 + if (value &&& (1#8 <<< i) != 0) then 1 else 0) 0) = value := by
    decide
  have hpattern : wordPattern 1 (binaryDigits.map (binaryDigit e)) = binaryDigits.map
      (fun i => if e.has i then some (if e.atDigit i then 1 else 0) else none) := by
    rw [wordPattern, List.map_map]
    exact List.map_congr_left fun i _ => digitOf_binaryDigit e i
  have hlegal : (binaryDigits.map (binaryDigit e)).all (legalDigit 1) = true := by
    rw [List.all_map, List.all_eq_true]
    intro i _
    simp only [Function.comp_apply, legalDigit, binaryDigit]
    cases e.has i with
    | false => rfl
    | true => cases e.atDigit i <;> rfl
  have hmaskE : BitVec.ofNat 8 (mask 1 (binaryDigits.map
      (fun i => if e.has i then some (if e.atDigit i then 1 else 0) else none))) = e.mask := by
    rw [mask, List.foldl_map]
    refine Eq.trans ?_ (hmask e.mask)
    congr 2
    funext m i
    rw [← SignatureElement.has]
    cases e.has i <;> rfl
  have hvalueE : BitVec.ofNat 8 (value 1 (binaryDigits.map
      (fun i => if e.has i then some (if e.atDigit i then 1 else 0) else none))) = e.value := by
    rw [value, List.foldl_map]
    refine Eq.trans ?_ (hvalue e.value)
    congr 2
    funext v i
    rw [← SignatureElement.atDigit]
    cases hat : e.atDigit i with
    | true => rw [atDigit_le_has hat]; rfl
    | false => cases e.has i <;> rfl
  rw [parseWord_digits (Or.inl rfl) (by rfl), if_pos hlegal, hpattern, patternElement, hmaskE,
    hvalueE, ofMasked_self]

/-- **Every word is read back** as what was written of its element. -/
theorem parseWord_elementWord (e : SignatureElement) :
    parseWord (elementWord e) = .ok (.ok (some (reread e))) := by
  rw [elementWord, reread, writtenMask]
  cases hab : (e.mask &&& 0xF0#8 == 0xF0#8) || (e.mask &&& 0x0F#8 == 0x0F#8) with
  | true =>
    simp only [if_true]
    exact parseWord_nibbles _ _ e.value
  | false =>
    simp only [Bool.false_eq_true, if_false, ofMasked_self]
    cases hnone : e.none with
    | true =>
      have hmask : e.mask = 0x00#8 := by simpa [SignatureElement.none] using hnone
      have hwildcard : e = .wildcard := by
        have hself := ofMasked_self e
        rw [hmask] at hself
        rw [← hself, SignatureElement.wildcard, SignatureElement.ofMasked]
        simp only [SignatureElement.mk.injEq]
        exact ⟨BitVec.and_zero, rfl⟩
      rw [hwildcard]
      rfl
    | false => exact parseWord_bits e

theorem elementWord_ne_nil (e : SignatureElement) : elementWord e ≠ [] := by
  intro h
  have hparse := parseWord_elementWord e
  rw [h] at hparse
  exact absurd hparse (by simp [parseWord])

/-- No word has a space in it. -/
theorem space_notMem_elementWord (e : SignatureElement) : ' ' ∉ elementWord e := by
  have hhex : ∀ (full : Bool) (n : Nat), ' ' ≠ if full then hexDigit n else '?' := by
    intro full n h
    have hlegal := legalDigit_nibble full n
    rw [← h] at hlegal
    exact absurd hlegal (by decide)
  have hbinary : ∀ i, ' ' ≠ binaryDigit e i := by
    intro i
    rw [binaryDigit]
    cases e.has i with
    | false => exact (by decide : ' ' ≠ '?')
    | true =>
      cases e.atDigit i with
      | false => exact (by decide : ' ' ≠ '0')
      | true => exact (by decide : ' ' ≠ '1')
  rw [elementWord]
  cases (e.mask &&& 0xF0#8 == 0xF0#8) || (e.mask &&& 0x0F#8 == 0x0F#8) with
  | true =>
    simp only [if_true, List.mem_cons, List.not_mem_nil, or_false, not_or]
    exact ⟨hhex _ _, hhex _ _⟩
  | false =>
    cases e.none with
    | true => exact (by decide : ' ' ∉ ['?'])
    | false =>
      simp only [Bool.false_eq_true, if_false, List.mem_cons, List.not_mem_nil, or_false, not_or]
      exact ⟨hbinary 7, hbinary 6, hbinary 5, hbinary 4, hbinary 3, hbinary 2, hbinary 1, hbinary 0⟩

end

/-! ### The whole text -/

/-- **The words of the text are the words of the elements.** -/
theorem splitOn_dropLast : ∀ (e : SignatureElement) (rest : Signature),
    (((e :: rest).flatMap (fun e => elementWord e ++ [' '])).dropLast).splitOn ' '
      = (e :: rest).map elementWord := by
  intro e rest
  induction rest generalizing e with
  | nil =>
    rw [List.flatMap_singleton, List.dropLast_concat, List.map_singleton]
    exact List.splitOn_eq_singleton (space_notMem_elementWord e)
  | cons e' rest ih =>
    have hne : (e' :: rest).flatMap (fun e => elementWord e ++ [' ']) ≠ [] := by simp
    rw [List.flatMap_cons, List.append_assoc, List.singleton_append,
      List.dropLast_append_of_ne_nil (by simp), List.dropLast_cons_of_ne_nil hne,
      List.splitOn_append_cons_self_of_not_mem (space_notMem_elementWord e), ih e']
    rfl

/-- The words of a signature are written one after the other. -/
theorem parseWords_elementWords : ∀ (signature out : Signature) (written : Nat)
    (containsByte : Bool),
    parseWords (signature.map elementWord) out written containsByte
      = parseWords [] (out ++ signature.map reread) (written + signature.length)
          (containsByte || (signature.map reread).any SignatureElement.all) := by
  intro signature
  induction signature with
  | nil =>
    intro out written containsByte
    simp
  | cons e rest ih =>
    intro out written containsByte
    rw [List.map_cons, parseWords_cons (parseWord_elementWord e), ih, List.map_cons,
      List.append_assoc, List.singleton_append, List.length_cons, List.any_cons, Bool.or_assoc,
      Nat.add_assoc, Nat.add_comm 1]

/-- A fully masked element is read back. -/
theorem reread_of_all {e : SignatureElement} (h : e.all = true) : reread e = e := by
  have hmask : e.mask = 0xFF#8 := by simpa [SignatureElement.all] using h
  rw [reread_eq_iff, hmask]
  decide

/-- **Writing a signature and reading it again** gives what was written of every
element. -/
theorem parse_toString {signature : Signature} (hsig : HasFullByte signature) :
    ∃ text, toString signature = .ok text ∧
      parseSignature text = .ok (.ok (signature.map reread)) := by
  have hfull : (signature.map reread).any SignatureElement.all = true := by
    obtain ⟨e, he, hall⟩ := hsig
    rw [List.any_map, List.any_eq_true]
    refine ⟨e, he, ?_⟩
    rw [Function.comp_apply, reread_of_all hall]
    exact hall
  cases signature with
  | nil => exact absurd rfl hsig.ne_nil
  | cons e rest =>
    have htext : toString (e :: rest)
        = .ok ((e :: rest).flatMap (fun e => elementWord e ++ [' '])).dropLast := by
      rw [toString]
      cases hret : (e :: rest).flatMap (fun e => elementWord e ++ [' ']) with
      | nil => exact absurd hret (by simp)
      | cons c ret => rfl
    refine ⟨_, htext, ?_⟩
    have hsplit := splitOn_dropLast e rest
    generalize ((e :: rest).flatMap (fun e => elementWord e ++ [' '])).dropLast = text at *
    have hne : text ≠ [] := by
      intro hnil
      rw [hnil, List.splitOn_nil, List.map_cons] at hsplit
      exact elementWord_ne_nil e (List.cons.inj hsplit).1.symm
    rw [parseSignature, parseSignatureTo, splitWords, if_neg (by simpa using hne), hsplit,
      parseWords_elementWords, hfull, parseWords]
    rfl

/-- **The round trip of signatures**: what is read back is the signature that was
written exactly when no mask has a full nibble next to a partly covered one. -/
theorem parse_toString_iff {signature : Signature} (hsig : HasFullByte signature) :
    (∃ text, toString signature = .ok text ∧ parseSignature text = .ok (.ok signature)) ↔
      ∀ e ∈ signature, NibblesWhole e.mask := by
  obtain ⟨text, htext, hparse⟩ := parse_toString hsig
  have hmap : signature.map reread = signature ↔ ∀ e ∈ signature, NibblesWhole e.mask := by
    have hid := List.map_inj_left (l := signature) (f := reread) (g := id)
    rw [List.map_id] at hid
    exact hid.trans (forall₂_congr fun e _ => reread_eq_iff)
  rw [← hmap]
  constructor
  · intro h
    obtain ⟨text', htext', hparse'⟩ := h
    obtain rfl := Except.ok.inj (htext.symm.trans htext')
    simpa using hparse.symm.trans hparse'
  · intro h
    rw [h] at hparse
    exact ⟨text, htext, hparse⟩

theorem parse_toString_iff_sample :
    (∃ text, toString [.ofMasked 0x10 0xF0, .ofByte 0xAB, .wildcard] = .ok text ∧
      parseSignature text = .ok (.ok [.ofMasked 0x10 0xF0, .ofByte 0xAB, .wildcard])) ↔
      ∀ e ∈ ([.ofMasked 0x10 0xF0, .ofByte 0xAB, .wildcard] : Signature), NibblesWhole e.mask :=
  parse_toString_iff ⟨.ofByte 0xAB, by simp, by decide⟩

/-- A mask of `F3` is written as a nibble and a wildcard, and read back as `F0`. -/
theorem parse_toString_partial_nibble :
    HasFullByte [.ofMasked 0x12 0xF3, .ofByte 0xAB] ∧
    toString [.ofMasked 0x12 0xF3, .ofByte 0xAB] = .ok "1? AB".toList ∧
    parseSignature "1? AB".toList = .ok (.ok [.ofMasked 0x10 0xF0, .ofByte 0xAB]) ∧
    ¬ ∃ text, toString [.ofMasked 0x12 0xF3, .ofByte 0xAB] = .ok text ∧
      parseSignature text = .ok (.ok [.ofMasked 0x12 0xF3, .ofByte 0xAB]) := by
  have htext : toString [.ofMasked 0x12 0xF3, .ofByte 0xAB] = .ok "1? AB".toList := rfl
  have hparse : parseSignature "1? AB".toList
      = .ok (.ok [.ofMasked 0x10 0xF0, .ofByte 0xAB]) := rfl
  refine ⟨⟨.ofByte 0xAB, by simp, by decide⟩, htext, hparse, ?_⟩
  intro h
  obtain ⟨text, htext', hparse'⟩ := h
  obtain rfl := Except.ok.inj (htext.symm.trans htext')
  have hsame := Except.ok.inj (Except.ok.inj (hparse.symm.trans hparse'))
  exact absurd hsame (by decide)

end Libhat

import Libhat.Lib.DigitPattern
import Libhat.ParseInt
import Libhat.Signature

/-!
# Signatures as text

`parse_signature` reads words separated by spaces: a wildcard, two hexadecimal
digits, or eight binary digits, each digit of which may be a wildcard.

* `parseSignature_spec`: which strings are accepted, what the elements of the
  result match, and which error a rejected string gets.
-/

namespace Libhat

/-- `signature_error`. -/
inductive SignatureError where
  | missingMaskedByte
  | elementParseError
  | emptySignature
  | expectedWildcard
  | invalidTokenLength
  deriving DecidableEq, Repr

/-- The loop of `parse_signature_element` over the characters that are left. -/
def parseElementDigits (base : Nat) : Text → Byte → Byte → Exec (Option SignatureElement)
  | [], value, mask => pure (some (.ofMasked value mask))
  | ch :: rest, value, mask => do
    let value := value * BitVec.ofNat 8 base
    let mask := mask * BitVec.ofNat 8 base
    if ch ≠ '?' then
      match ← parseInt .uint8 [ch] base with
      | .ok digit =>
        parseElementDigits base rest (value + BitVec.ofInt 8 digit)
          (mask + BitVec.ofNat 8 (base - 1))
      | .error _ => return none
    else
      parseElementDigits base rest value mask

/-- `parse_signature_element`. -/
def parseSignatureElement (str : Text) (base : Nat) : Exec (Option SignatureElement) :=
  parseElementDigits base str 0 0

/-- The words of `str | std::views::split(' ')`. -/
def splitWords (str : Text) : List Text := if str.isEmpty then [] else str.splitOn ' '

/-- The `switch` over the size of a word: the element to write, or none for an
empty word, which is passed over. -/
def parseWord (word : Text) : Exec (Except SignatureError (Option SignatureElement)) :=
  match word with
  | [] => pure (.ok none)
  | [ch] => if ch ≠ '?' then pure (.error .expectedWildcard) else pure (.ok (some .wildcard))
  | _ =>
    if word.length = 2 ∨ word.length = 8 then do
      let base := if word.length = 2 then 16 else 2
      match ← parseSignatureElement word base with
      | some element => return .ok (some element)
      | none => return .error .elementParseError
    else
      pure (.error .invalidTokenLength)

/-- The loop of `parse_signature_to` over the words that are left, and the checks
behind it: what was written, and the result.  A wildcard is not `all()`, so every
element may update `containsByte`. -/
def parseWords : List Text → Signature → Nat → Bool → Exec (Signature × Except SignatureError Nat)
  | [], out, written, containsByte =>
    if written = 0 then pure (out, .error .emptySignature)
    else if !containsByte then pure (out, .error .missingMaskedByte)
    else pure (out, .ok written)
  | word :: words, out, written, containsByte => do
    match ← parseWord word with
    | .ok none => parseWords words out written containsByte
    | .ok (some element) =>
      parseWords words (out ++ [element]) (written + 1) (containsByte || element.all)
    | .error e => return (out, .error e)

/-- `parse_signature_to`. -/
def parseSignatureTo (str : Text) : Exec (Signature × Except SignatureError Nat) :=
  parseWords (splitWords str) [] 0 false

/-- `parse_signature`. -/
def parseSignature (str : Text) : Exec (Except SignatureError Signature) := do
  let (sig, result) ← parseSignatureTo str
  match result with
  | .ok _ => return .ok sig
  | .error e => return .error e

/-! ### What a string says -/

/-- A hexadecimal digit, in either case. -/
def IsHexDigit (c : Char) : Prop :=
  c.isDigit = true ∨ ('a' ≤ c ∧ c ≤ 'f') ∨ ('A' ≤ c ∧ c ≤ 'F')

/-- A token: a wildcard, two hexadecimal digits or eight binary ones, with
wildcards among the digits. -/
def IsToken (w : Text) : Prop :=
  w = ['?'] ∨ (w.length = 2 ∧ ∀ c ∈ w, c = '?' ∨ IsHexDigit c) ∨
    (w.length = 8 ∧ ∀ c ∈ w, c = '?' ∨ c = '0' ∨ c = '1')

instance : DecidablePred IsHexDigit := fun c => by
  unfold IsHexDigit
  infer_instance

instance : DecidablePred IsToken := fun w => by
  unfold IsToken
  infer_instance

/-- The tokens of a string: what stands between the spaces. -/
def tokens (str : Text) : List Text := (str.splitOn ' ').filter (fun w => w ≠ [])

def tokenBase (w : Text) : Nat := if w.length = 2 then 16 else 2

/-- The digits of the byte agree with the token wherever it has no wildcard. -/
def TokenAccepts (w : Text) (b : Byte) : Prop :=
  ∀ (i : Nat) (h : i < w.length), w[i] ≠ '?' →
    w[i].toLower = Nat.digitChar (b.toNat / tokenBase w ^ (w.length - 1 - i) % tokenBase w)

/-- The error for an ill-formed token. -/
def tokenError (w : Text) : SignatureError :=
  if w.length = 1 then .expectedWildcard
  else if w.length = 2 ∨ w.length = 8 then .elementParseError
  else .invalidTokenLength

/-- The error for a text that is no signature: that of the first ill-formed token, or else one
about the text as a whole. -/
def textError (str : Text) : SignatureError :=
  match (tokens str).find? (fun w => ¬ IsToken w) with
  | some w => tokenError w
  | none => if tokens str = [] then .emptySignature else .missingMaskedByte

/-! ### Digits -/

theorem digitChar_eq : ∀ d < 16, digitChar d = Nat.digitChar d := by decide

/-- The digits of the two bases, by the characters that Lean writes them with. -/
theorem digitOf_eq_some_iff {g : Nat} (hg : g = 1 ∨ g = 4) {c : Char} {d : Nat} :
    digitOf (2 ^ g) c = some d ↔ d < 2 ^ g ∧ c.toLower = Nat.digitChar d := by
  have h16 : 2 ^ g ≤ 16 := by rcases hg with rfl | rfl <;> decide
  rw [digitOf_iff (by omega), IsDigit]
  refine and_congr_right fun hd => ?_
  rw [digitChar_eq d (by omega)]

theorem digitOf_wildcard {g : Nat} (hg : g = 1 ∨ g = 4) : digitOf (2 ^ g) '?' = none := by
  rcases hg with rfl | rfl <;> decide

theorem isHexDigit_iff {c : Char} : IsHexDigit c ↔ (48 ≤ c.toNat ∧ c.toNat ≤ 57) ∨
    (97 ≤ c.toNat ∧ c.toNat ≤ 102) ∨ (65 ≤ c.toNat ∧ c.toNat ≤ 70) := by
  have hdigit : c.isDigit = true ↔ 48 ≤ c.toNat ∧ c.toNat ≤ 57 := by
    rw [Char.isDigit, Bool.and_eq_true, decide_eq_true_iff, decide_eq_true_iff]
    rfl
  rw [IsHexDigit, hdigit]
  rfl

theorem isSome_digitOf_hex {c : Char} : (digitOf (2 ^ 4) c).isSome = true ↔ IsHexDigit c := by
  rw [isSome_digitOf_iff, isHexDigit_iff]
  omega

theorem isSome_digitOf_binary {c : Char} :
    (digitOf (2 ^ 1) c).isSome = true ↔ c = '0' ∨ c = '1' := by
  have hzero : c = '0' ↔ c.toNat = 48 := Char.toNat_inj.symm
  have hone : c = '1' ↔ c.toNat = 49 := Char.toNat_inj.symm
  rw [isSome_digitOf_iff, hzero, hone]
  omega

/-! ### One element -/

section

open DigitPattern

variable {g : Nat}

/-- A character that may stand in a token whose digits have `g` bits. -/
def legalDigit (g : Nat) (c : Char) : Bool := c == '?' || (digitOf (2 ^ g) c).isSome

/-- The pattern that a word of digits stands for. -/
def wordPattern (g : Nat) (w : Text) : Pattern := w.map (digitOf (2 ^ g))

/-- The element with the value and the mask of a pattern. -/
def patternElement (g : Nat) (p : Pattern) : SignatureElement :=
  .ofMasked (BitVec.ofNat 8 (value g p)) (BitVec.ofNat 8 (mask g p))

theorem ofNat_mul_add (x y n : Nat) :
    BitVec.ofNat 8 x * BitVec.ofNat 8 n + BitVec.ofNat 8 y = BitVec.ofNat 8 (x * n + y) := by
  rw [← BitVec.ofNat_mul, ← BitVec.ofNat_add]

/-- **The loop over the digits**: what has been read is the value and the mask of the
pattern so far. -/
theorem parseElementDigits_eq (hg : g = 1 ∨ g = 4) : ∀ (str : Text) (p : Pattern),
    parseElementDigits (2 ^ g) str (BitVec.ofNat 8 (value g p)) (BitVec.ofNat 8 (mask g p))
      = .ok (if str.all (legalDigit g) then some (patternElement g (p ++ wordPattern g str))
        else none) := by
  have h2 : 2 ≤ 2 ^ g := by rcases hg with rfl | rfl <;> decide
  have h36 : 2 ^ g ≤ 36 := by rcases hg with rfl | rfl <;> decide
  intro str
  induction str with
  | nil =>
    intro p
    rw [parseElementDigits, wordPattern, List.map_nil, List.append_nil]
    rfl
  | cons ch rest ih =>
    intro p
    have hrest := ih (p ++ [digitOf (2 ^ g) ch])
    rw [value_append, mask_append, List.append_assoc, List.singleton_append,
      ← ofNat_mul_add, ← ofNat_mul_add] at hrest
    have hcons : wordPattern g (ch :: rest) = digitOf (2 ^ g) ch :: wordPattern g rest := rfl
    simp only [parseElementDigits, List.all_cons, hcons]
    by_cases hwild : ch = '?'
    · subst hwild
      rw [digitOf_wildcard hg] at hrest ⊢
      simpa [legalDigit] using hrest
    · rw [if_pos hwild, parseInt_singleton h2 h36]
      cases hd : digitOf (2 ^ g) ch with
      | none =>
        have hlegal : legalDigit g ch = false := by simp [legalDigit, hwild, hd]
        rw [hlegal, Bool.false_and, if_neg (by decide)]
        rfl
      | some d =>
        have hlegal : legalDigit g ch = true := by simp [legalDigit, hd]
        rw [hd] at hrest
        rw [hlegal, Bool.true_and, ← hrest]
        have hofInt : BitVec.ofInt 8 (d : Int) = BitVec.ofNat 8 d := BitVec.ofInt_natCast 8 d
        simp only [ok_bind, hofInt, Option.getD_some, Option.isSome_some, if_true]

/-- **An element is read digit by digit**, or not at all if a character is illegal. -/
theorem parseSignatureElement_eq (hg : g = 1 ∨ g = 4) (str : Text) :
    parseSignatureElement str (2 ^ g)
      = .ok (if str.all (legalDigit g) then some (patternElement g (wordPattern g str))
        else none) :=
  parseElementDigits_eq hg str []

theorem wordPattern_bounded (w : Text) : Bounded g (wordPattern g w) := by
  intro d hd
  obtain ⟨c, _, hc⟩ := List.mem_map.mp hd
  exact digitOf_lt hc

/-- **A pattern of a whole byte accepts the bytes that agree with it.** -/
theorem patternElement_accepts {p : Pattern} (h : Bounded g p) (hlen : g * p.length = 8)
    {b : Byte} : (patternElement g p).accepts b = true ↔ Agrees g p b.toNat := by
  have hv := value_lt h
  have hm := mask_lt (g := g) (p := p)
  rw [hlen] at hv hm
  have hb : b.toNat < 2 ^ (g * p.length) := by
    rw [hlen]
    exact b.isLt
  rw [patternElement, SignatureElement.ofMasked_accepts, ← and_mask_eq_iff h hb,
    ← BitVec.toNat_inj, BitVec.toNat_and, BitVec.toNat_and, BitVec.toNat_ofNat,
    BitVec.toNat_ofNat, Nat.mod_eq_of_lt hv, Nat.mod_eq_of_lt hm]

theorem patternElement_all {p : Pattern} (hg : 0 < g) (hlen : g * p.length = 8) :
    (patternElement g p).all = true ↔ none ∉ p := by
  have hm := mask_lt (g := g) (p := p)
  have hfull := mask_eq_iff (p := p) hg
  rw [hlen] at hm hfull
  rw [← hfull, patternElement, SignatureElement.all, SignatureElement.ofMasked, beq_iff_eq,
    ← BitVec.toNat_inj, BitVec.toNat_ofNat, Nat.mod_eq_of_lt hm]
  rfl

/-- **Agreeing with the pattern of a token** is agreeing with the token. -/
theorem agrees_wordPattern_iff (hg : g = 1 ∨ g = 4) {w : Text} (hbase : tokenBase w = 2 ^ g)
    (hlegal : ∀ c ∈ w, legalDigit g c = true) {b : Byte} :
    Agrees g (wordPattern g w) b.toNat ↔ TokenAccepts w b := by
  have hlen : (wordPattern g w).length = w.length := List.length_map _
  have hdigit : ∀ i, b.toNat / tokenBase w ^ (w.length - 1 - i) % tokenBase w
      = b.toNat / 2 ^ (g * ((wordPattern g w).length - 1 - i)) % 2 ^ g := by
    intro i
    rw [hbase, hlen, Nat.pow_mul]
  constructor
  · intro h i hi hne
    have hl := hlegal _ (List.getElem_mem hi)
    rw [legalDigit, Bool.or_eq_true, beq_iff_eq] at hl
    obtain ⟨d, hd⟩ := Option.isSome_iff_exists.mp (hl.resolve_left hne)
    rw [hdigit, h i (by omega) d (by simpa [wordPattern] using hd)]
    exact ((digitOf_eq_some_iff hg).mp hd).2
  · intro h i hi d hd
    have hi' : i < w.length := by omega
    have hd' : digitOf (2 ^ g) w[i] = some d := by simpa [wordPattern] using hd
    have hne : w[i] ≠ '?' := by
      intro he
      rw [he, digitOf_wildcard hg] at hd'
      exact absurd hd' (by simp)
    have hchar := h i hi' hne
    rw [hdigit] at hchar
    have hlt := Nat.mod_lt (b.toNat / 2 ^ (g * ((wordPattern g w).length - 1 - i)))
      (Nat.two_pow_pos g)
    have := (digitOf_eq_some_iff hg).mpr ⟨hlt, hchar⟩
    exact Option.some.inj (this.symm.trans hd')

/-- A token of legal digits is open somewhere exactly when it has a wildcard. -/
theorem none_mem_wordPattern_iff (hg : g = 1 ∨ g = 4) {w : Text}
    (hlegal : ∀ c ∈ w, legalDigit g c = true) : none ∈ wordPattern g w ↔ '?' ∈ w := by
  rw [wordPattern, List.mem_map]
  constructor
  · intro h
    obtain ⟨c, hc, hnone⟩ := h
    have hl := hlegal c hc
    rw [legalDigit, hnone, Bool.or_eq_true, beq_iff_eq] at hl
    rcases hl with rfl | hl
    · exact hc
    · exact absurd hl (by decide)
  · intro h
    exact ⟨'?', h, digitOf_wildcard hg⟩

/-! ### One word -/

theorem legalDigit_hex {c : Char} : legalDigit 4 c = true ↔ c = '?' ∨ IsHexDigit c := by
  rw [legalDigit, Bool.or_eq_true, beq_iff_eq, isSome_digitOf_hex]

theorem legalDigit_binary {c : Char} : legalDigit 1 c = true ↔ c = '?' ∨ c = '0' ∨ c = '1' := by
  rw [legalDigit, Bool.or_eq_true, beq_iff_eq, isSome_digitOf_binary]

/-- The words of two and of eight characters are digits of a byte. -/
theorem tokenBase_eq (hg : g = 1 ∨ g = 4) {w : Text} (hlen : g * w.length = 8) :
    tokenBase w = 2 ^ g := by
  rcases hg with rfl | rfl
  · rw [tokenBase, if_neg (by omega)]
    rfl
  · rw [tokenBase, if_pos (by omega)]
    rfl

theorem isToken_iff_legal (hg : g = 1 ∨ g = 4) {w : Text} (hlen : g * w.length = 8) :
    IsToken w ↔ ∀ c ∈ w, legalDigit g c = true := by
  have hone : w ≠ ['?'] := by
    intro hw
    rw [hw] at hlen
    rcases hg with rfl | rfl <;> exact absurd hlen (by decide)
  rcases hg with rfl | rfl
  · have h8 : w.length = 8 := by omega
    simp only [IsToken, hone, h8, legalDigit_binary]
    simp
  · have h2 : w.length = 2 := by omega
    simp only [IsToken, hone, h2, legalDigit_hex]
    simp

theorem parseWord_digits (hg : g = 1 ∨ g = 4) {w : Text} (hlen : g * w.length = 8) :
    parseWord w = .ok (if w.all (legalDigit g) then .ok (some (patternElement g (wordPattern g w)))
      else .error .elementParseError) := by
  have hbase := tokenBase_eq hg hlen
  rw [tokenBase] at hbase
  have h28 : w.length = 2 ∨ w.length = 8 := by
    rcases hg with rfl | rfl
    · exact Or.inr (by omega)
    · exact Or.inl (by omega)
  have hword : parseWord w = (do
      match ← parseSignatureElement w (2 ^ g) with
      | some element => return .ok (some element)
      | none => return .error .elementParseError) := by
    unfold parseWord
    split
    · simp at h28
    · simp at h28
    · rw [if_pos h28]
      simp only [hbase]
  rw [hword, parseSignatureElement_eq hg w, ok_bind]
  by_cases hall : w.all (legalDigit g) = true
  · rw [if_pos hall, if_pos hall]
    rfl
  · rw [if_neg hall, if_neg hall]
    rfl

/-- **A token is read as an element** that matches the bytes the token accepts. -/
theorem parseWord_ok {w : Text} (h : IsToken w) :
    ∃ e, parseWord w = .ok (.ok (some e)) ∧ (∀ b, e.accepts b = true ↔ TokenAccepts w b) ∧
      (e.all = true ↔ '?' ∉ w) := by
  have hdigits : ∀ g, g = 1 ∨ g = 4 → g * w.length = 8 → ∃ e, parseWord w = .ok (.ok (some e)) ∧
      (∀ b, e.accepts b = true ↔ TokenAccepts w b) ∧ (e.all = true ↔ '?' ∉ w) := by
    intro g hg hlen
    have hlegal := (isToken_iff_legal hg hlen).mp h
    have hplen : g * (wordPattern g w).length = 8 := by
      rw [wordPattern, List.length_map]
      exact hlen
    have hpos : 0 < g := by omega
    refine ⟨patternElement g (wordPattern g w), ?_, fun b => ?_, ?_⟩
    · rw [parseWord_digits hg hlen, if_pos (List.all_eq_true.mpr hlegal)]
    · rw [patternElement_accepts (wordPattern_bounded w) hplen,
        agrees_wordPattern_iff hg (tokenBase_eq hg hlen) hlegal]
    · rw [patternElement_all hpos hplen, none_mem_wordPattern_iff hg hlegal]
  have htoken := h
  rcases htoken with rfl | ⟨h2, _⟩ | ⟨h8, _⟩
  · refine ⟨.wildcard, rfl, fun b => ?_, by decide⟩
    refine iff_of_true ?_ fun i hi hne => ?_
    · rw [SignatureElement.accepts_iff]
      exact BitVec.and_zero
    · have hi0 : i = 0 := by simpa using hi
      subst hi0
      exact absurd rfl hne
  · exact hdigits 4 (Or.inr rfl) (by omega)
  · exact hdigits 1 (Or.inl rfl) (by omega)

/-- **An ill-formed token is an error.** -/
theorem parseWord_error {w : Text} (hne : w ≠ []) (h : ¬ IsToken w) :
    parseWord w = .ok (.error (tokenError w)) := by
  have hdigits : ∀ g, g = 1 ∨ g = 4 → g * w.length = 8 →
      parseWord w = .ok (.error .elementParseError) := by
    intro g hg hlen
    rw [isToken_iff_legal hg hlen, ← List.all_eq_true] at h
    rw [parseWord_digits hg hlen, if_neg h]
  by_cases h2 : w.length = 2
  · rw [hdigits 4 (Or.inr rfl) (by omega), tokenError, h2]
    rfl
  by_cases h8 : w.length = 8
  · rw [hdigits 1 (Or.inl rfl) (by omega), tokenError, h8]
    rfl
  cases w with
  | nil => exact absurd rfl hne
  | cons c rest =>
    cases rest with
    | nil =>
      have hc : c ≠ '?' := by
        intro hc
        exact h (Or.inl (by rw [hc]))
      rw [parseWord, if_pos hc]
      rfl
    | cons c' rest =>
      have h28 : ¬ ((c :: c' :: rest).length = 2 ∨ (c :: c' :: rest).length = 8) := by
        rw [not_or]
        exact ⟨h2, h8⟩
      have h1 : (c :: c' :: rest).length ≠ 1 := by simp
      rw [tokenError, if_neg h1, if_neg h28]
      exact if_neg h28

end

/-! ### The whole text -/

/-- The words that are not passed over. -/
def nonempty (words : List Text) : List Text := words.filter (fun w => w ≠ [])

theorem nonempty_splitWords (str : Text) : nonempty (splitWords str) = tokens str := by
  cases str with
  | nil => rfl
  | cons c rest => rfl

theorem parseWords_cons {word : Text} {e : SignatureElement}
    (h : parseWord word = .ok (.ok (some e))) (words : List Text) (out : Signature)
    (written : Nat) (containsByte : Bool) :
    parseWords (word :: words) out written containsByte
      = parseWords words (out ++ [e]) (written + 1) (containsByte || e.all) := by
  rw [parseWords, h]
  rfl

/-- **Well-formed words are written one after the other.** -/
theorem parseWords_ok : ∀ (words : List Text) (out : Signature) (written : Nat)
    (containsByte : Bool), (∀ w ∈ nonempty words, IsToken w) →
    ∃ sig, List.Forall₂ (fun w e => ∀ b, e.accepts b = true ↔ TokenAccepts w b)
        (nonempty words) sig ∧
      parseWords words out written containsByte
        = parseWords [] (out ++ sig) (written + sig.length)
            (containsByte || (nonempty words).any (fun w => '?' ∉ w)) := by
  intro words
  induction words with
  | nil =>
    intro out written containsByte _
    exact ⟨[], .nil, by simp [nonempty]⟩
  | cons word words ih =>
    intro out written containsByte h
    by_cases hword : word = []
    · subst hword
      obtain ⟨sig, hsig, hrun⟩ := ih out written containsByte h
      exact ⟨sig, hsig, hrun⟩
    · have hcons : nonempty (word :: words) = word :: nonempty words :=
        List.filter_cons_of_pos (by simpa using hword)
      rw [hcons] at h ⊢
      obtain ⟨e, hparse, haccepts, hall⟩ := parseWord_ok (h word List.mem_cons_self)
      obtain ⟨sig, hsig, hrun⟩ := ih (out ++ [e]) (written + 1) (containsByte || e.all)
        fun w hw => h w (List.mem_cons_of_mem word hw)
      refine ⟨e :: sig, .cons haccepts hsig, ?_⟩
      have hfull : e.all = decide ('?' ∉ word) := by
        rw [Bool.eq_iff_iff, decide_eq_true_iff]
        exact hall
      rw [parseWords_cons hparse, hrun, List.append_assoc, List.singleton_append,
        List.length_cons, List.any_cons, ← Bool.or_assoc, hfull, Nat.add_assoc, Nat.add_comm 1]

/-- **The first ill-formed word ends the loop with its error.** -/
theorem parseWords_error : ∀ (words : List Text) (out : Signature) (written : Nat)
    (containsByte : Bool) {w : Text}, (nonempty words).find? (fun w => ¬ IsToken w) = some w →
    ∃ out', parseWords words out written containsByte = .ok (out', .error (tokenError w)) := by
  intro words
  induction words with
  | nil =>
    intro out written containsByte w h
    exact absurd h (by simp [nonempty])
  | cons word words ih =>
    intro out written containsByte w h
    by_cases hword : word = []
    · subst hword
      obtain ⟨out', hrun⟩ := ih out written containsByte h
      exact ⟨out', hrun⟩
    · have hcons : nonempty (word :: words) = word :: nonempty words :=
        List.filter_cons_of_pos (by simpa using hword)
      rw [hcons] at h
      by_cases htoken : IsToken word
      · rw [List.find?_cons_of_neg (by simpa using htoken)] at h
        obtain ⟨e, hparse, _⟩ := parseWord_ok htoken
        obtain ⟨out', hrun⟩ := ih (out ++ [e]) (written + 1) (containsByte || e.all) h
        exact ⟨out', by rw [parseWords_cons hparse, hrun]⟩
      · rw [List.find?_cons_of_pos (by simpa using htoken)] at h
        obtain rfl := Option.some.inj h
        exact ⟨out, by rw [parseWords, parseWord_error hword htoken]; rfl⟩

/-- A text of tokens is written in full; whether it is accepted is checked at the end. -/
theorem parseSignature_tokens {str : Text} (h : ∀ w ∈ tokens str, IsToken w) :
    ∃ sig, List.Forall₂ (fun w e => ∀ b, e.accepts b = true ↔ TokenAccepts w b) (tokens str) sig ∧
      parseSignature str = .ok (if tokens str = [] then .error .emptySignature
        else if ∃ w ∈ tokens str, '?' ∉ w then .ok sig else .error .missingMaskedByte) := by
  rw [← nonempty_splitWords] at h ⊢
  obtain ⟨sig, hsig, hrun⟩ := parseWords_ok (splitWords str) [] 0 false h
  refine ⟨sig, hsig, ?_⟩
  have hlen := hsig.length_eq
  rw [List.nil_append, Nat.zero_add, Bool.false_or] at hrun
  rw [parseSignature, parseSignatureTo, hrun, parseWords]
  by_cases hnil : nonempty (splitWords str) = []
  · rw [hnil, List.length_nil] at hlen
    rw [if_pos hlen.symm, if_pos hnil]
    rfl
  · have hpos : sig.length ≠ 0 := by
      rw [← hlen]
      exact fun h0 => hnil (List.length_eq_zero_iff.mp h0)
    rw [if_neg hpos, if_neg hnil]
    by_cases hfull : ∃ w ∈ nonempty (splitWords str), '?' ∉ w
    · have hany : (nonempty (splitWords str)).any (fun w => '?' ∉ w) = true := by
        simpa using hfull
      rw [if_pos hfull, hany]
      rfl
    · have hany : (nonempty (splitWords str)).any (fun w => '?' ∉ w) = false := by
        simpa using hfull
      rw [if_neg hfull, hany]
      rfl

/-- **`parse_signature`** accepts the texts of signatures; the result has an element
for every token in order, which matches the bytes whose digits agree with the
token; any other text gets the error of its first ill-formed token, or of the
whole text. -/
theorem parseSignature_spec (str : Text) :
    ((∃ sig, parseSignature str = .ok (.ok sig)) ↔
      tokens str ≠ [] ∧ (∀ w ∈ tokens str, IsToken w) ∧ ∃ w ∈ tokens str, '?' ∉ w) ∧
    (∀ sig, parseSignature str = .ok (.ok sig) →
      List.Forall₂ (fun w e => ∀ b, e.accepts b = true ↔ TokenAccepts w b) (tokens str) sig) ∧
    (¬ (tokens str ≠ [] ∧ (∀ w ∈ tokens str, IsToken w) ∧ ∃ w ∈ tokens str, '?' ∉ w) →
      parseSignature str = .ok (.error (textError str))) := by
  by_cases htokens : ∀ w ∈ tokens str, IsToken w
  · have hfind : (tokens str).find? (fun w => ¬ IsToken w) = none := by
      simpa [List.find?_eq_none] using htokens
    obtain ⟨sig, hsig, hparse⟩ := parseSignature_tokens htokens
    rw [hparse, textError, hfind]
    by_cases hnil : tokens str = []
    · simp [hnil]
    · by_cases hfull : ∃ w ∈ tokens str, '?' ∉ w
      · rw [if_neg hnil, if_pos hfull]
        refine ⟨iff_of_true ⟨sig, rfl⟩ ⟨hnil, htokens, hfull⟩, fun sig' h => ?_, fun h => ?_⟩
        · have : sig = sig' := by simpa using h
          exact this ▸ hsig
        · exact absurd ⟨hnil, htokens, hfull⟩ h
      · rw [if_neg hnil, if_neg hfull]
        refine ⟨iff_of_false (by simp) fun h => hfull h.2.2, fun sig' h => ?_, fun _ => ?_⟩
        · exact absurd h (by simp)
        · simp only [if_neg hnil]
  · obtain ⟨w, hw⟩ : ∃ w, (tokens str).find? (fun w => ¬ IsToken w) = some w := by
      rw [← Option.isSome_iff_exists, List.find?_isSome]
      simpa using htokens
    have hwords := hw
    rw [← nonempty_splitWords] at hwords
    obtain ⟨out, hrun⟩ := parseWords_error (splitWords str) [] 0 false hwords
    have hparse : parseSignature str = .ok (.error (textError str)) := by
      rw [parseSignature, parseSignatureTo, hrun, textError, hw]
      rfl
    rw [hparse]
    refine ⟨iff_of_false (by simp) fun h => htokens h.2.1, fun sig h => ?_, fun _ => rfl⟩
    exact absurd h (by simp)

end Libhat

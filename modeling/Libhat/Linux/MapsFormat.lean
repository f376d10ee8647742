import Libhat.Linux.Regions

/-!
# The format of `/proc/self/maps`

The kernel prints one line for each mapping: its bounds in lower-case
hexadecimal, four permission characters, and more.  `iter_mapped_regions` reads
those lines and is more lenient than the kernel: it takes digits of either case,
any separators, and looks at three permission characters only.

* `parseRegion_eq_some_iff`: a line is read as a region exactly if it has the
  looser shape, `LenientLine`.
* `iterMappedRegions_mapsText`: on a file made of mappings and other lines, the
  callback sees the mappings.
-/

namespace Libhat.Linux

/-! ### Hexadecimal numbers -/

/-- The value of hexadecimal digits. -/
def hexValue (digits : Text) : Nat :=
  digits.foldl (fun v c => v * 16 + (digitOf 16 c).getD 0) 0

/-- The character is not a hexadecimal digit. -/
def NoDigit (c : Char) : Prop := digitOf 16 c = none

/-- A hexadecimal number below `2 ^ 64`, digits of either case. -/
structure HexNumber where
  digits : Text
  ne_nil : digits ≠ []
  isSome : ∀ c ∈ digits, (digitOf 16 c).isSome = true
  lt : hexValue digits < 2 ^ 64

theorem hexValue_append (digits : Text) (c : Char) :
    hexValue (digits ++ [c]) = hexValue digits * 16 + (digitOf 16 c).getD 0 := by
  rw [hexValue, List.foldl_append]
  rfl

theorem hexValue_zeros (n : Nat) (digits : Text) :
    hexValue (List.replicate n '0' ++ digits) = hexValue digits := by
  induction n with
  | zero => rfl
  | succ n ih =>
    rw [List.replicate_succ, List.cons_append]
    exact ih

theorem digitOf_digitChar : ∀ d < 16, digitOf 16 (Nat.digitChar d) = some d := by decide

theorem hexValue_toDigits (n : Nat) : hexValue (Nat.toDigits 16 n) = n := by
  induction n using Nat.strong_induction_on with
  | h n ih =>
    by_cases hn : n < 16
    · rw [Nat.toDigits_of_lt_base hn, ← List.nil_append [n.digitChar], hexValue_append,
        digitOf_digitChar n hn]
      exact Nat.zero_add n
    · rw [Nat.toDigits_of_base_le (by decide) (by omega), hexValue_append, ih (n / 16) (by omega),
        digitOf_digitChar _ (Nat.mod_lt n (by decide))]
      show n / 16 * 16 + n % 16 = n
      omega

theorem isSome_of_mem_toDigits {c : Char} (n : Nat) (hc : c ∈ Nat.toDigits 16 n) :
    (digitOf 16 c).isSome = true := by
  induction n using Nat.strong_induction_on with
  | h n ih =>
    by_cases hn : n < 16
    · rw [Nat.toDigits_of_lt_base hn, List.mem_singleton] at hc
      rw [hc, digitOf_digitChar n hn]
      rfl
    · rw [Nat.toDigits_of_base_le (by decide) (by omega), List.mem_append,
        List.mem_singleton] at hc
      rcases hc with hc | rfl
      · exact ih (n / 16) (by omega) hc
      · rw [digitOf_digitChar _ (Nat.mod_lt n (by decide))]
        rfl

/-- A number as the kernel prints it: lower-case, with zeros in front up to a width. -/
def HexNumber.ofNat (width n : Nat) (h : n < 2 ^ 64) : HexNumber where
  digits := (Nat.toDigits 16 n).leftpad width '0'
  ne_nil := by
    intro hnil
    exact Nat.toDigits_ne_nil (List.append_eq_nil_iff.mp hnil).2
  isSome := by
    intro c hc
    rcases List.mem_append.mp hc with hzero | hdigit
    · rw [List.eq_of_mem_replicate hzero]
      rfl
    · exact isSome_of_mem_toDigits n hdigit
  lt := by
    rw [List.leftpad, hexValue_zeros, hexValue_toDigits]
    exact h

theorem HexNumber.value_ofNat (width n : Nat) (h : n < 2 ^ 64) :
    hexValue (ofNat width n h).digits = n := by
  show hexValue ((Nat.toDigits 16 n).leftpad width '0') = n
  rw [List.leftpad, hexValue_zeros, hexValue_toDigits]

theorem takeWhile_digits {digits rest : Text} {c : Char}
    (hdigits : ∀ d ∈ digits, (digitOf 16 d).isSome = true) (hc : NoDigit c) :
    (digits ++ c :: rest).takeWhile (fun d => (digitOf 16 d).isSome) = digits := by
  rw [List.takeWhile_append_of_pos hdigits, List.takeWhile_cons_of_neg (by rw [hc]; simp),
    List.append_nil]

/-- `from_chars` reads a number up to the first character that is no digit. -/
theorem fromChars_number (number : HexNumber) {c : Char} (hc : NoDigit c) (rest : Text) :
    fromChars (number.digits ++ c :: rest) = (.ok (hexValue number.digits), c :: rest) := by
  rw [fromChars]
  simp only [takeWhile_digits number.isSome hc, if_neg number.ne_nil, List.drop_left]
  exact if_pos number.lt

/-- Only a number is read. -/
theorem fromChars_ok {s rest : Text} {c : Char} {n : Nat} (h : fromChars s = (.ok n, c :: rest)) :
    ∃ number : HexNumber, s = number.digits ++ c :: rest ∧ hexValue number.digits = n ∧
      NoDigit c := by
  rw [fromChars] at h
  simp only at h
  split at h
  · cases h
  rename_i hne
  split at h
  · rename_i hlt
    obtain ⟨hvalue, hrest⟩ := Prod.mk.inj h
    have hsplit := List.takeWhile_append_dropWhile (p := fun d => (digitOf 16 d).isSome) (l := s)
    have hdrop : s.drop (s.takeWhile fun d => (digitOf 16 d).isSome).length =
        s.dropWhile fun d => (digitOf 16 d).isSome := by
      have hleft := @List.drop_left _ (s.takeWhile fun d => (digitOf 16 d).isSome)
        (s.dropWhile fun d => (digitOf 16 d).isSome)
      rwa [hsplit] at hleft
    rw [hdrop] at hrest
    have hsome : ∀ d ∈ s.takeWhile fun d => (digitOf 16 d).isSome,
        (digitOf 16 d).isSome = true := fun d hd => by
      simpa using List.mem_takeWhile_imp hd
    refine ⟨⟨_, hne, hsome, hlt⟩, ?_, Except.ok.inj hvalue, ?_⟩
    · rw [← hrest]
      exact hsplit.symm
    · have hhead := List.head?_dropWhile_not (fun d => (digitOf 16 d).isSome) s
      rw [hrest] at hhead
      simpa [NoDigit] using hhead
  · cases h

/-! ### Lines -/

/-- The protection of three permission characters. -/
def protOf (r w x : Char) : BitVec 32 :=
  (if r = 'r' then protRead else 0) ||| (if w = 'w' then protWrite else 0) |||
    (if x = 'x' then protExec else 0)

/-- A line that is read as a region: two numbers, a character behind each, and three
characters for the permissions. -/
structure LenientLine where
  first : HexNumber
  hyphen : Char
  noDigit_hyphen : NoDigit hyphen
  last : HexNumber
  space : Char
  noDigit_space : NoDigit space
  r : Char
  w : Char
  x : Char
  rest : Text

def LenientLine.text (line : LenientLine) : Text :=
  line.first.digits ++ line.hyphen :: (line.last.digits ++
    line.space :: line.r :: line.w :: line.x :: line.rest)

def LenientLine.region (line : LenientLine) : Region :=
  (hexValue line.first.digits, hexValue line.last.digits, protOf line.r line.w line.x)

theorem LenientLine.parseRegion_text (line : LenientLine) :
    parseRegion line.text = some line.region := by
  simp only [parseRegion, text, fromChars_number _ line.noDigit_hyphen,
    fromChars_number _ line.noDigit_space]
  rfl

/-- **What is read as a region**: the lines of the looser shape, and no others. -/
theorem parseRegion_eq_some_iff {text : Text} {region : Region} :
    parseRegion text = some region ↔
      ∃ line : LenientLine, line.text = text ∧ line.region = region := by
  constructor
  · intro h
    unfold parseRegion at h
    split at h
    · rename_i pageBegin hyphen rest hfirst
      split at h
      · rename_i pageEnd space r w x rest' hlast
        obtain ⟨first, hs, hb, hhyphen⟩ := fromChars_ok hfirst
        obtain ⟨last, hs', he, hspace⟩ := fromChars_ok hlast
        refine ⟨⟨first, hyphen, hhyphen, last, space, hspace, r, w, x, rest'⟩, ?_, ?_⟩
        · rw [hs, hs']
          rfl
        · rw [← Option.some.inj h, ← hb, ← he]
          rfl
      · cases h
    · cases h
  · rintro ⟨line, rfl, rfl⟩
    exact line.parseRegion_text

/-- A mapping, with what the kernel prints of it: the widths up to which the
bounds are padded, and the text behind the permissions. -/
structure Mapping where
  start : Nat
  start_lt : start < 2 ^ 64
  startWidth : Nat
  stop : Nat
  stop_lt : stop < 2 ^ 64
  stopWidth : Nat
  read : Bool
  write : Bool
  exec : Bool
  shared : Bool
  rest : Text
  rest_line : '\n' ∉ rest

namespace Mapping

def text (m : Mapping) : Text :=
  (HexNumber.ofNat m.startWidth m.start m.start_lt).digits ++ '-' ::
    ((HexNumber.ofNat m.stopWidth m.stop m.stop_lt).digits ++ ' ' ::
      (if m.read then 'r' else '-') :: (if m.write then 'w' else '-') ::
        (if m.exec then 'x' else '-') :: (if m.shared then 's' else 'p') :: m.rest)

def region (m : Mapping) : Region :=
  (m.start, m.stop, (if m.read then protRead else 0) ||| (if m.write then protWrite else 0) |||
    (if m.exec then protExec else 0))

/-- The line of a mapping has the looser shape. -/
def toLenientLine (m : Mapping) : LenientLine where
  first := HexNumber.ofNat m.startWidth m.start m.start_lt
  hyphen := '-'
  noDigit_hyphen := by unfold NoDigit; decide
  last := HexNumber.ofNat m.stopWidth m.stop m.stop_lt
  space := ' '
  noDigit_space := by unfold NoDigit; decide
  r := if m.read then 'r' else '-'
  w := if m.write then 'w' else '-'
  x := if m.exec then 'x' else '-'
  rest := (if m.shared then 's' else 'p') :: m.rest

theorem region_toLenientLine (m : Mapping) : m.toLenientLine.region = m.region := by
  obtain ⟨start, start_lt, startWidth, stop, stop_lt, stopWidth, read, write, exec, shared, rest,
    rest_line⟩ := m
  simp only [LenientLine.region, toLenientLine, HexNumber.value_ofNat, region, protOf]
  cases read <;> cases write <;> cases exec <;> rfl

/-- **Reading undoes printing.** -/
theorem parseRegion_text (m : Mapping) : parseRegion m.text = some m.region := by
  have h := m.toLenientLine.parseRegion_text
  rw [region_toLenientLine] at h
  exact h

theorem not_mem_text (m : Mapping) : '\n' ∉ m.text := by
  have hdigits : ∀ number : HexNumber, '\n' ∉ number.digits := by
    intro number hmem
    have hsome := number.isSome _ hmem
    rw [show digitOf 16 '\n' = none by decide] at hsome
    cases hsome
  obtain ⟨start, start_lt, startWidth, stop, stop_lt, stopWidth, read, write, exec, shared, rest,
    rest_line⟩ := m
  simp only [text, List.mem_append, List.mem_cons, hdigits, false_or, rest_line, or_false]
  cases read <;> cases write <;> cases exec <;> cases shared <;> simp

end Mapping

/-! ### Files -/

/-- A line of a file: a mapping as the kernel prints it, a line of the looser shape, or
a line of neither. -/
inductive MapsLine where
  | mapping (m : Mapping)
  | lenient (line : LenientLine) (single : '\n' ∉ line.text)
  | other (text : Text) (single : '\n' ∉ text) (shapeless : ∀ line : LenientLine, line.text ≠ text)

namespace MapsLine

def text : MapsLine → Text
  | mapping m => m.text
  | lenient line _ => line.text
  | other text _ _ => text

/-- What the callback is to see of the line. -/
def region : MapsLine → Option Region
  | mapping m => some m.region
  | lenient line _ => some line.region
  | other _ _ _ => none

theorem not_mem_text (l : MapsLine) : '\n' ∉ l.text := by
  cases l with
  | mapping m => exact m.not_mem_text
  | lenient line single => exact single
  | other text single shapeless => exact single

theorem parseRegion_text (l : MapsLine) : parseRegion l.text = l.region := by
  cases l with
  | mapping m => exact m.parseRegion_text
  | lenient line single => exact line.parseRegion_text
  | other text single shapeless =>
    apply Option.eq_none_iff_forall_ne_some.mpr
    intro region h
    obtain ⟨line, hline, _⟩ := parseRegion_eq_some_iff.mp h
    exact shapeless line hline

end MapsLine

/-- A file of lines. -/
def mapsText (lines : List MapsLine) : Text := lines.flatMap fun l => l.text ++ ['\n']

theorem splitOn_mapsText (lines : List MapsLine) :
    (mapsText lines).splitOn '\n' = lines.map MapsLine.text ++ [[]] := by
  induction lines with
  | nil => exact List.splitOn_nil '\n'
  | cons l lines ih =>
    rw [mapsText, List.flatMap_cons, List.append_assoc, List.singleton_append,
      List.splitOn_append_cons_self_of_not_mem l.not_mem_text]
    exact congrArg (l.text :: ·) ih

/-- `std::getline` gives the lines back. -/
theorem getlines_mapsText (lines : List MapsLine) :
    getlines (mapsText lines) = lines.map MapsLine.text := by
  rw [getlines, splitOn_mapsText]
  simp only [List.getLast?_concat, if_true, List.dropLast_concat]

/-- **The callback sees the mappings**: one call for each, in order, until a call says to
stop.  A line of the looser shape counts as one, and the others do not matter. -/
theorem iterMappedRegions_mapsText {σ : Type} (callback : Nat → Nat → BitVec 32 → σ → σ × Bool)
    (lines : List MapsLine) (s : σ) :
    iterMappedRegions callback (getlines (mapsText lines)) s =
      iterRegions callback (lines.filterMap MapsLine.region) s := by
  have hregions : (lines.map MapsLine.text).filterMap parseRegion =
      lines.filterMap MapsLine.region := by
    rw [List.filterMap_map]
    exact List.filterMap_congr fun l _ => l.parseRegion_text
  rw [iterMappedRegions_eq, getlines_mapsText, hregions]

/-- A line that the kernel never prints, and that the callback sees all the same. -/
theorem lenient_line_is_read :
    (∀ m : Mapping, m.text ≠ "A-B,rwx".toList) ∧
      iterMappedRegions (fun b e prot seen => (seen ++ [(b, e, prot)], true))
        (getlines "A-B,rwx\n".toList) [] = [(10, 11, 7#32)] := by
  constructor
  · intro m hm
    have hspace : ' ' ∈ m.text := by
      rw [Mapping.text]
      simp
    rw [hm] at hspace
    revert hspace
    decide
  · decide

end Libhat.Linux

import Libhat.MemoryReads
import Libhat.Win32.Vtable

/-!
# Signatures of strings

`string_to_signature` makes room for the bytes of a string, whose characters may have one, two or
four bytes each, and copies the bytes of one character after the other into it.

* `charsToSignature_eq`: the copies fill the signature, and nothing is written past its end.
* `findPattern_string`: a scan for it finds the first place where the characters of the string can
  be read.
-/

namespace Libhat

open FirstHit

/-! ### The copies -/

/-- `std::ranges::copy` of bytes to the elements from `it` on. -/
def copyBytes (result : Signature) (it : Nat) : List Byte → Exec Signature
  | [] => .ok result
  | b :: rest =>
    if it < result.length then copyBytes (result.set it (.ofByte b)) (it + 1) rest
    else .error (.write it)

/-- The loop over characters of `n` bytes. -/
def copyChars (n : Nat) (result : Signature) (it : Nat) : List (BitVec (8 * n)) → Exec Signature
  | [] => .ok result
  | ch :: rest => do
    let result ← copyBytes result it (LittleEndian.bytes n ch)
    copyChars n result (it + n) rest

/-- `string_to_signature`, for characters of `n` bytes. -/
def charsToSignature (n : Nat) (str : List (BitVec (8 * n))) :
    Exec (Except SignatureError Signature) :=
  if str.isEmpty then .ok (.error .emptySignature)
  else do
    let result ← copyChars n (List.replicate (str.length * n) .wildcard) 0 str
    return .ok result

/-- The bytes of a string. -/
def stringBytes {n : Nat} (str : List (BitVec (8 * n))) : List Byte :=
  str.flatMap (LittleEndian.bytes n)

theorem stringBytes_cons {n : Nat} (ch : BitVec (8 * n)) (rest : List (BitVec (8 * n))) :
    stringBytes (ch :: rest) = LittleEndian.bytes n ch ++ stringBytes rest := List.flatMap_cons

theorem length_stringBytes {n : Nat} (str : List (BitVec (8 * n))) :
    (stringBytes str).length = n * str.length := by
  induction str with
  | nil => rfl
  | cons ch rest ih =>
    rw [stringBytes_cons, List.length_append, LittleEndian.length_bytes, ih, List.length_cons,
      Nat.mul_succ, Nat.add_comm]

/-- **A copy replaces the elements** that are there. -/
theorem copyBytes_ok {bytes : List Byte} (before : Signature) {old : Signature}
    (after : Signature) (hlength : old.length = bytes.length) :
    copyBytes (before ++ old ++ after) before.length bytes =
      .ok (before ++ bytes.map SignatureElement.ofByte ++ after) := by
  induction bytes generalizing before old with
  | nil =>
    obtain rfl := List.length_eq_zero_iff.mp hlength
    rfl
  | cons b rest ih =>
    cases old with
    | nil => cases hlength
    | cons e old =>
      have hroom : before.length < (before ++ e :: old ++ after).length := by simp
      have hset : (before ++ e :: old ++ after).set before.length (.ofByte b)
          = (before ++ [.ofByte b]) ++ old ++ after := by
        simp [List.set_append_right]
      have hnext := ih (before ++ [.ofByte b]) (Nat.succ.inj hlength)
      rw [List.length_append, List.length_singleton] at hnext
      rw [copyBytes, if_pos hroom, hset, hnext, List.map_cons]
      simp

/-- **The loop fills the signature.** -/
theorem copyChars_ok {n : Nat} {str : List (BitVec (8 * n))} (before : Signature)
    {old : Signature} (hlength : old.length = str.length * n) :
    copyChars n (before ++ old) before.length str =
      .ok (before ++ (stringBytes str).map SignatureElement.ofByte) := by
  induction str generalizing before old with
  | nil =>
    rw [List.length_nil, Nat.zero_mul] at hlength
    obtain rfl := List.length_eq_zero_iff.mp hlength
    rfl
  | cons ch rest ih =>
    rw [List.length_cons, Nat.succ_mul] at hlength
    have htake : (old.take n).length = (LittleEndian.bytes n ch).length := by
      rw [List.length_take, LittleEndian.length_bytes]
      omega
    have hdrop : (old.drop n).length = rest.length * n := by
      rw [List.length_drop]
      omega
    have hcopy := copyBytes_ok before (old.drop n) htake
    rw [List.append_assoc, List.take_append_drop] at hcopy
    have hnext := ih (before ++ (LittleEndian.bytes n ch).map SignatureElement.ofByte) hdrop
    rw [List.length_append, List.length_map, LittleEndian.length_bytes] at hnext
    rw [copyChars, hcopy, ok_bind, hnext, stringBytes_cons, List.map_append, List.append_assoc]

/-- **The signature of a string** has its bytes. -/
theorem charsToSignature_eq {n : Nat} {str : List (BitVec (8 * n))} (hstr : str ≠ []) :
    charsToSignature n str = .ok (.ok ((stringBytes str).map SignatureElement.ofByte)) := by
  have hroom : (List.replicate (str.length * n) SignatureElement.wildcard).length
      = str.length * n := List.length_replicate
  have hcopy := copyChars_ok [] hroom
  rw [charsToSignature, if_neg (by simpa using hstr)]
  rw [List.nil_append] at hcopy
  show (do let result ← copyChars n _ 0 str; return Except.ok result) = _
  rw [show (0 : Nat) = ([] : Signature).length from rfl, hcopy]
  rfl

/-- For characters of one byte it is the signature of their bytes. -/
theorem charsToSignature_char (str : List Byte) :
    charsToSignature 1 str = .ok (Win32.stringToSignature str) := by
  by_cases hstr : str = []
  · subst hstr
    rfl
  · have hbytes : stringBytes (n := 1) str = str := by
      have hbyte : ∀ ch : Byte, LittleEndian.bytes 1 ch = [ch] := by
        intro ch
        rw [LittleEndian.bytes]
        simp
      rw [stringBytes, show LittleEndian.bytes 1 = fun ch : Byte => [ch] from funext hbyte]
      exact List.flatMap_singleton' str
    rw [charsToSignature_eq hstr, hbytes, Win32.stringToSignature, if_neg (by simpa using hstr)]

/-! ### Where the string stands -/

section

variable {m : Memory} {n : Nat} {str : List (BitVec (8 * n))}

/-- The characters of the string can be read at `p`. -/
def ReadsString (m : Memory) (str : List (BitVec (8 * n))) (p : Nat) : Prop :=
  ∀ (i : Nat) (h : i < str.length), m.readInt n (p + n * i) = .ok str[i]

/-- **The bytes of a string stand** where its characters can be read. -/
theorem holds_stringBytes {p : Nat} : m.Holds p (stringBytes str) ↔ ReadsString m str p := by
  induction str generalizing p with
  | nil =>
    exact ⟨fun _ i hi => absurd hi (Nat.not_lt_zero i), fun _ i hi => absurd hi (Nat.not_lt_zero i)⟩
  | cons ch rest ih =>
    have hplace : ∀ i, p + n * (i + 1) = p + n + n * i := fun i => by
      rw [Nat.mul_succ, Nat.add_assoc, Nat.add_comm n]
    rw [stringBytes_cons, Memory.holds_append, LittleEndian.length_bytes, ih,
      ← Memory.readInt_ok_iff]
    constructor
    · rintro ⟨hch, hrest⟩ i hi
      cases i with
      | zero => exact hch
      | succ i =>
        rw [hplace]
        exact hrest i (Nat.lt_of_succ_lt_succ hi)
    · intro h
      refine ⟨h 0 (Nat.succ_pos _), fun i hi => ?_⟩
      rw [← hplace]
      exact h (i + 1) (Nat.succ_lt_succ hi)

/-- **A scan for a string** finds the first place where its characters can be read. -/
theorem findPattern_string (target : Target) (alignment : ScanAlignment) (hints : ScanHint)
    (hn : 0 < n) (hstr : str ≠ [])
    (hdef : MasksDefined target .auto ((stringBytes str).map .ofByte) alignment hints)
    {first last : Nat} (hread : m.Readable first last) :
    ∃ signature r, charsToSignature n str = .ok (.ok signature) ∧
      findPattern target m first last signature alignment hints = .ok r ∧
      IsFirst {p | first ≤ p ∧ p + n * str.length ≤ last ∧ alignment.toStride ∣ p ∧
        ReadsString m str p} r := by
  have hne : stringBytes str ≠ [] := by
    rw [← List.length_pos_iff, length_stringBytes]
    exact Nat.mul_pos hn (List.length_pos_iff.mpr hstr)
  have hfull : HasFullByte ((stringBytes str).map SignatureElement.ofByte) := by
    obtain ⟨b, rest, hcons⟩ := List.exists_cons_of_ne_nil hne
    exact ⟨.ofByte b, by rw [hcons]; exact List.mem_cons_self, rfl⟩
  obtain ⟨r, hr, hfirst⟩ := findPattern_ok target alignment hints hfull hdef hread
  refine ⟨_, r, charsToSignature_eq hstr, hr, ?_⟩
  have hhits : Hits m ((stringBytes str).map SignatureElement.ofByte) alignment.toStride first last
      = {p | first ≤ p ∧ p + n * str.length ≤ last ∧ alignment.toStride ∣ p ∧
        ReadsString m str p} := by
    ext p
    simp only [Hits, List.length_map, length_stringBytes, Win32.matchesAt_ofByte, holds_stringBytes]
  rwa [← hhits]

/-- `u"Hi"`. -/
def wideText : List (BitVec (8 * 2)) := [0x48, 0x69]

def wideBytes : List Byte := [0x48, 0x69, 0x48, 0x00, 0x69, 0x00]

theorem findPattern_string_sample :
    ∃ signature r, charsToSignature 2 wideText = .ok (.ok signature) ∧
      findPattern default (Memory.ofBytes 0x1000 wideBytes) 0x1000 0x1006 signature .x1 0 = .ok r ∧
      IsFirst {p | 0x1000 ≤ p ∧ p + 2 * wideText.length ≤ 0x1006 ∧ ScanAlignment.x1.toStride ∣ p ∧
        ReadsString (Memory.ofBytes 0x1000 wideBytes) wideText p} r :=
  findPattern_string default .x1 0 (by decide) (by decide) (masksDefined_x1 _ _ _ _)
    (Memory.readable_ofBytes 0x1000 wideBytes)

end

end Libhat

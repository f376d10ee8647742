import Libhat.Scan
import Libhat.SignatureText

/-!
# Scans for a text

What a scan for the signature of a text looks for can be said of the tokens of the text.

* `parseSignature_text`: a text of tokens, one of which has no wildcard, gives a signature that
  can be scanned for; `parseSignature_error`: any other text gives an error.
* `matchesAt_iff_text`: it matches where the bytes agree with the tokens.
-/

namespace Libhat

open FirstHit

/-- The texts of signatures. -/
def IsSignatureText (str : Text) : Prop :=
  tokens str ≠ [] ∧ (∀ w ∈ tokens str, IsToken w) ∧ ∃ w ∈ tokens str, '?' ∉ w

instance : DecidablePred IsSignatureText := fun _ => inferInstanceAs (Decidable (_ ∧ _))

/-- The bytes from `p` on agree with the tokens of the text. -/
def TextMatchesAt (m : Memory) (str : Text) (p : Nat) : Prop :=
  ∀ (j : Nat) (h : j < (tokens str).length), ∃ b, m (p + j) = some b ∧
    TokenAccepts (tokens str)[j] b

/-- The flag of the loop says that a full byte was written. -/
theorem hasFullByte_of_parseWords : ∀ (words : List Text) {out sig : Signature} {written n : Nat}
    {containsByte : Bool}, (containsByte = true → HasFullByte out) →
    parseWords words out written containsByte = .ok (sig, .ok n) → HasFullByte sig := by
  intro words
  induction words with
  | nil =>
    intro out sig written n containsByte hout h
    rw [parseWords] at h
    by_cases hwritten : written = 0
    · rw [if_pos hwritten] at h
      exact absurd h (by simp)
    · rw [if_neg hwritten] at h
      cases containsByte with
      | false => exact absurd h (by simp)
      | true =>
        obtain ⟨rfl, _⟩ : out = sig ∧ written = n := by simpa using h
        exact hout rfl
  | cons word words ih =>
    intro out sig written n containsByte hout h
    rw [parseWords] at h
    obtain ⟨result, _, h⟩ := bind_eq_ok h
    cases result with
    | error e => exact absurd h (by simp)
    | ok element =>
      cases element with
      | none => exact ih hout h
      | some element =>
        refine ih (fun hbyte => ?_) h
        rcases Bool.or_eq_true_iff.mp hbyte with hold | hnew
        · obtain ⟨e, he, hall⟩ := hout hold
          exact ⟨e, List.mem_append_left _ he, hall⟩
        · exact ⟨element, List.mem_append_right _ List.mem_cons_self, hnew⟩

/-- **What `parse_signature` accepts can be scanned for.** -/
theorem hasFullByte_of_parseSignature {str : Text} {sig : Signature}
    (h : parseSignature str = .ok (.ok sig)) : HasFullByte sig := by
  rw [parseSignature] at h
  obtain ⟨⟨out, result⟩, hrun, h⟩ := bind_eq_ok h
  cases result with
  | error e => exact absurd h (by simp)
  | ok n =>
    obtain rfl : out = sig := by simpa using h
    exact hasFullByte_of_parseWords (splitWords str) (fun hfalse => absurd hfalse (by simp)) hrun

theorem parseSignature_text {str : Text} (h : IsSignatureText str) :
    ∃ sig, parseSignature str = .ok (.ok sig) ∧ HasFullByte sig ∧
      List.Forall₂ (fun w e => ∀ b, e.accepts b = true ↔ TokenAccepts w b) (tokens str) sig := by
  obtain ⟨sig, hsig, hparse⟩ := parseSignature_tokens h.2.1
  rw [if_neg h.1, if_pos h.2.2] at hparse
  exact ⟨sig, hparse, hasFullByte_of_parseSignature hparse, hsig⟩

theorem parseSignature_error {str : Text} (h : ¬ IsSignatureText str) :
    ∃ e, parseSignature str = .ok (.error e) := by
  by_cases htokens : ∀ w ∈ tokens str, IsToken w
  · obtain ⟨sig, _, hparse⟩ := parseSignature_tokens htokens
    by_cases hnil : tokens str = []
    · rw [if_pos hnil] at hparse
      exact ⟨_, hparse⟩
    · rw [if_neg hnil, if_neg fun hfull => h ⟨hnil, htokens, hfull⟩] at hparse
      exact ⟨_, hparse⟩
  · obtain ⟨w, hw⟩ : ∃ w, (tokens str).find? (fun w => ¬ IsToken w) = some w := by
      rw [← Option.isSome_iff_exists, List.find?_isSome]
      simpa using htokens
    rw [← nonempty_splitWords] at hw
    obtain ⟨out, hrun⟩ := parseWords_error (splitWords str) [] 0 false hw
    exact ⟨tokenError w, by rw [parseSignature, parseSignatureTo, hrun]; rfl⟩

/-- **The signature of a text**: the text has one, and its elements are those of the tokens. -/
theorem isSignatureText_of_parseSignature {str : Text} {sig : Signature}
    (h : parseSignature str = .ok (.ok sig)) : IsSignatureText str ∧
      List.Forall₂ (fun w e => ∀ b, e.accepts b = true ↔ TokenAccepts w b) (tokens str) sig := by
  by_cases htext : IsSignatureText str
  · obtain ⟨sig', hparse, _, hsig⟩ := parseSignature_text htext
    obtain rfl : sig' = sig := by simpa [h] using hparse.symm
    exact ⟨htext, hsig⟩
  · obtain ⟨e, hparse⟩ := parseSignature_error htext
    rw [h] at hparse
    exact absurd hparse (by simp)

/-- **A match of the signature** of a text is one of its tokens. -/
theorem matchesAt_iff_text {m : Memory} {str : Text} {sig : Signature}
    (h : List.Forall₂ (fun w e => ∀ b, e.accepts b = true ↔ TokenAccepts w b) (tokens str) sig)
    {p : Nat} : MatchesAt m sig p ↔ TextMatchesAt m str p := by
  have hlen := h.length_eq
  have haccepts : ∀ (j : Nat) (hw : j < (tokens str).length) (he : j < sig.length) (b : Byte),
      sig[j].accepts b = true ↔ TokenAccepts (tokens str)[j] b := by
    intro j hw he b
    exact (List.forall₂_iff_get.mp h).2 j hw he b
  constructor
  · intro hmatch j hj
    obtain ⟨b, hb, hacc⟩ := hmatch j (by omega)
    exact ⟨b, hb, (haccepts j hj (by omega) b).mp hacc⟩
  · intro hmatch j hj
    obtain ⟨b, hb, hacc⟩ := hmatch j (by omega)
    exact ⟨b, hb, (haccepts j (by omega) hj b).mpr hacc⟩

end Libhat

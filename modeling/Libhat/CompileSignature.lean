import Libhat.SignatureText

/-!
# Signatures at compile time

`parse_signature_to` writes its elements through an output iterator.
`parse_signature` hands it one that appends to a vector; `compile_signature` hands
it the beginning of an array whose size is fixed before the text is read, so a
text with more tokens than the array has elements would be written past its end.

`parseSignatureToIter_eq` says that the parser treats every iterator alike: it
writes one list of elements, which depends on the text only, and
`length_tokens_le` bounds that list.
-/

namespace Libhat

section

variable {σ : Type}

/-- The loop of `parse_signature_to`, `write` being what `*out++ = element` does. -/
def parseWordsTo (write : σ → SignatureElement → Exec σ) :
    List Text → σ → Nat → Bool → Exec (σ × Except SignatureError Nat)
  | [], out, written, containsByte =>
    if written = 0 then pure (out, .error .emptySignature)
    else if !containsByte then pure (out, .error .missingMaskedByte)
    else pure (out, .ok written)
  | word :: words, out, written, containsByte => do
    match ← parseWord word with
    | .ok none => parseWordsTo write words out written containsByte
    | .ok (some element) =>
      let out ← write out element
      parseWordsTo write words out (written + 1) (containsByte || element.all)
    | .error e => return (out, .error e)

/-- `parse_signature_to` for any output iterator. -/
def parseSignatureToIter (write : σ → SignatureElement → Exec σ) (out : σ) (str : Text) :
    Exec (σ × Except SignatureError Nat) :=
  parseWordsTo write (splitWords str) out 0 false

end

/-- `*it++ = element` for a `std::back_inserter`. -/
def backInsert (out : Signature) (element : SignatureElement) : Exec Signature :=
  pure (out ++ [element])

/-- An iterator into a `std::array`, with the array. -/
structure ArrayIterator (N : Nat) where
  array : Vector SignatureElement N
  index : Nat

/-- `*it++ = element`. -/
def ArrayIterator.write {N : Nat} (it : ArrayIterator N) (element : SignatureElement) :
    Exec (ArrayIterator N) :=
  if h : it.index < N then
    pure ⟨it.array.set it.index element, it.index + 1⟩
  else
    .error (.write it.index)

/-- `compile_signature_max_size<N>`. -/
def compileSignatureMaxSize (N : Nat) (str : Text) : Exec (Vector SignatureElement N × Nat) := do
  let array := Vector.replicate N SignatureElement.wildcard
  let (it, size) ← parseSignatureToIter ArrayIterator.write ⟨array, 0⟩ str
  match size with
  | .ok n => return (it.array, n)
  | .error _ => .error .noValue

/-- `compile_signature<str>`; the size of the `fixed_signature` depends on the text. -/
def compileSignature (str : Text) : Exec (Σ n, Vector SignatureElement n) := do
  let (array, n) ← compileSignatureMaxSize (str.length / 2 + 1) str
  if h : n ≤ str.length / 2 + 1 then
    return ⟨n, Vector.ofFn fun i => array[i.val]⟩
  else
    .error (.index n)

/-! ### What is written -/

/-- Every word is an element, nothing or an error. -/
theorem parseWord_total (word : Text) :
    parseWord word = .ok (.ok none) ∧ word = [] ∨
      (∃ e, parseWord word = .ok (.ok (some e)) ∧ word ≠ []) ∨
      ∃ e, parseWord word = .ok (.error e) := by
  by_cases hnil : word = []
  · subst hnil
    exact Or.inl ⟨rfl, rfl⟩
  by_cases htoken : IsToken word
  · obtain ⟨e, he, _⟩ := parseWord_ok htoken
    exact Or.inr (Or.inl ⟨e, he, hnil⟩)
  · exact Or.inr (Or.inr ⟨_, parseWord_error hnil htoken⟩)

/-- The checks behind the loop do not look at the iterator. -/
theorem parseWordsTo_nil (written : Nat) (containsByte : Bool) :
    ∃ result : Except SignatureError Nat, (∀ n, result = .ok n → n = written) ∧
      ∀ {σ : Type} (write : σ → SignatureElement → Exec σ) (out : σ),
        parseWordsTo write [] out written containsByte = .ok (out, result) := by
  by_cases hzero : written = 0
  · exact ⟨.error .emptySignature, fun n h => absurd h (by simp), fun write out => if_pos hzero⟩
  · cases containsByte with
    | false =>
      refine ⟨.error .missingMaskedByte, fun n h => absurd h (by simp), fun write out => ?_⟩
      rw [parseWordsTo, if_neg hzero]
      rfl
    | true =>
      refine ⟨.ok written, fun n h => (Except.ok.inj h).symm, fun write out => ?_⟩
      rw [parseWordsTo, if_neg hzero]
      rfl

/-- **The loop writes one list of elements**, whatever it writes them through: at
most one for every word, and as many as it reports. -/
theorem parseWordsTo_eq : ∀ (words : List Text) (written : Nat) (containsByte : Bool),
    ∃ (sig : Signature) (result : Except SignatureError Nat),
      sig.length ≤ (nonempty words).length ∧
      (∀ n, result = .ok n → n = written + sig.length) ∧
      ∀ {σ : Type} (write : σ → SignatureElement → Exec σ) (out : σ),
        parseWordsTo write words out written containsByte
          = (sig.foldlM write out >>= fun out => pure (out, result)) := by
  intro words
  induction words with
  | nil =>
    intro written containsByte
    obtain ⟨result, hsize, hrun⟩ := parseWordsTo_nil written containsByte
    exact ⟨[], result, le_rfl, hsize, hrun⟩
  | cons word words ih =>
    intro written containsByte
    rcases parseWord_total word with ⟨hword, rfl⟩ | ⟨e, hword, hne⟩ | ⟨e, hword⟩
    · obtain ⟨sig, result, hlen, hsize, hrun⟩ := ih written containsByte
      refine ⟨sig, result, hlen, hsize, fun write out => ?_⟩
      rw [parseWordsTo, hword, ← hrun]
      rfl
    · obtain ⟨sig, result, hlen, hsize, hrun⟩ := ih (written + 1) (containsByte || e.all)
      have hcons : nonempty (word :: words) = word :: nonempty words :=
        List.filter_cons_of_pos (by simpa using hne)
      refine ⟨e :: sig, result, ?_, fun n h => ?_, fun write out => ?_⟩
      · rw [hcons, List.length_cons, List.length_cons]
        exact Nat.succ_le_succ hlen
      · rw [hsize n h, List.length_cons]
        omega
      · rw [parseWordsTo, hword, ok_bind, List.foldlM_cons, bind_assoc]
        exact bind_congr fun out => hrun write out
    · refine ⟨[], .error e, Nat.zero_le _, fun n h => absurd h (by simp), fun write out => ?_⟩
      rw [parseWordsTo, hword]
      rfl

/-- **A text has at most one token for every two characters**, and one more.  A word
that is about to begin has its space behind it, or the beginning of the text. -/
theorem length_nonempty_splitOn (str : Text) :
    2 * (nonempty (str.splitOn ' ')).length
      ≤ str.length + if (str.splitOn ' ').head? = some [] then 0 else 1 := by
  induction str with
  | nil => decide
  | cons c rest ih =>
    obtain ⟨word, words, hrest⟩ := List.exists_cons_of_ne_nil (List.splitOn_ne_nil ' ' rest)
    rw [hrest] at ih
    rw [List.splitOn_cons_eq_if_modifyHead, List.length_cons]
    by_cases hc : c = ' '
    · have hskip : nonempty ([] :: rest.splitOn ' ') = nonempty (word :: words) := by
        rw [hrest]
        rfl
      rw [if_pos (by simpa using hc), hskip]
      simp only [List.head?_cons, if_true]
      split at ih <;> omega
    · have hgrow : nonempty ((c :: word) :: words) = (c :: word) :: nonempty words := rfl
      rw [if_neg (by simpa using hc), hrest, List.modifyHead_cons, hgrow, List.length_cons]
      simp only [List.head?_cons, Option.some.injEq, reduceCtorEq, if_false] at ih ⊢
      by_cases hword : word = []
      · subst hword
        have hnil : nonempty ([] :: words) = nonempty words := rfl
        rw [if_pos rfl, hnil] at ih
        omega
      · have hkeep : nonempty (word :: words) = word :: nonempty words :=
          List.filter_cons_of_pos (by simpa using hword)
        rw [if_neg hword, hkeep, List.length_cons] at ih
        omega

theorem length_tokens_le (str : Text) : (tokens str).length ≤ str.length / 2 + 1 := by
  have h : 2 * (tokens str).length ≤ _ := length_nonempty_splitOn str
  split at h <;> omega

/-- **The parser treats every iterator alike**: it writes one list of elements, of
bounded length, before it succeeds or fails. -/
theorem parseSignatureToIter_eq (str : Text) :
    ∃ (sig : Signature) (result : Except SignatureError Nat),
      sig.length ≤ str.length / 2 + 1 ∧ (∀ n, result = .ok n → n = sig.length) ∧
      ∀ {σ : Type} (write : σ → SignatureElement → Exec σ) (out : σ),
        parseSignatureToIter write out str
          = (sig.foldlM write out >>= fun out => pure (out, result)) := by
  obtain ⟨sig, result, hlen, hsize, hrun⟩ := parseWordsTo_eq (splitWords str) 0 false
  rw [nonempty_splitWords] at hlen
  exact ⟨sig, result, Nat.le_trans hlen (length_tokens_le str),
    fun n h => by rw [hsize n h, Nat.zero_add], hrun⟩

/-! ### The two iterators -/

/-- The parser with a `std::back_inserter` is the one of `parse_signature`. -/
theorem parseWordsTo_backInsert : ∀ (words : List Text) (out : Signature) (written : Nat)
    (containsByte : Bool), parseWordsTo backInsert words out written containsByte
      = parseWords words out written containsByte := by
  intro words
  induction words with
  | nil =>
    intro out written containsByte
    rfl
  | cons word words ih =>
    intro out written containsByte
    rw [parseWordsTo, parseWords]
    refine bind_congr fun result => ?_
    cases result with
    | error e => rfl
    | ok element =>
      cases element with
      | none => exact ih out written containsByte
      | some e => exact ih (out ++ [e]) (written + 1) (containsByte || e.all)

theorem foldlM_backInsert : ∀ (sig out : Signature),
    sig.foldlM backInsert out = .ok (out ++ sig) := by
  intro sig
  induction sig with
  | nil =>
    intro out
    rw [List.append_nil]
    rfl
  | cons e sig ih =>
    intro out
    have := ih (out ++ [e])
    rw [List.append_assoc, List.singleton_append] at this
    exact this

/-- **A list that fits is written whole**, behind what has been written before. -/
theorem foldlM_write {N : Nat} : ∀ (sig : Signature) (it : ArrayIterator N),
    it.index + sig.length ≤ N →
    ∃ it' : ArrayIterator N, sig.foldlM ArrayIterator.write it = .ok it' ∧
      it'.index = it.index + sig.length ∧
      it'.array.toList.take it'.index = it.array.toList.take it.index ++ sig := by
  intro sig
  induction sig with
  | nil =>
    intro it _
    exact ⟨it, rfl, rfl, (List.append_nil _).symm⟩
  | cons e sig ih =>
    intro it h
    rw [List.length_cons] at h
    have hlt : it.index < N := by omega
    have hwrite : it.write e = .ok ⟨it.array.set it.index e, it.index + 1⟩ := dif_pos hlt
    obtain ⟨it', hrun, hindex, htake⟩ := ih ⟨it.array.set it.index e, it.index + 1⟩ (by
      dsimp only
      omega)
    refine ⟨it', by rw [List.foldlM_cons, hwrite, ok_bind, hrun], ?_, ?_⟩
    · rw [hindex, List.length_cons]
      dsimp only
      omega
    · have hset : (it.array.set it.index e).toList.take (it.index + 1)
          = it.array.toList.take it.index ++ [e] := by
        rw [Vector.toList_set, List.take_add_one, List.take_set_of_le le_rfl,
          List.getElem?_set_self (by simpa using hlt)]
        rfl
      rw [htake, hset, List.append_assoc, List.singleton_append]

/-- The first elements of an array, moved to a smaller one. -/
theorem toList_ofFn_getElem {N n : Nat} (array : Vector SignatureElement N) (h : n ≤ N) :
    (Vector.ofFn fun i : Fin n => array[i.val]).toList = array.toList.take n := by
  apply List.ext_getElem
  · simp [h]
  · intro i h1 h2
    simp

/-- **`parse_signature_to` writes at most half as many elements as its text has
characters, and one**, and `compile_signature`, which has room for just as many,
has the elements of `parse_signature`. -/
theorem compileSignature_spec (str : Text) :
    (∃ (sig : Signature) (result : Except SignatureError Nat),
      sig.length ≤ str.length / 2 + 1 ∧ parseSignatureTo str = .ok (sig, result) ∧
      ∀ {σ : Type} (write : σ → SignatureElement → Exec σ) (out : σ),
        parseSignatureToIter write out str
          = (sig.foldlM write out >>= fun out => pure (out, result))) ∧
    (∀ sig, parseSignature str = .ok (.ok sig) →
      ∃ arr : Vector SignatureElement sig.length,
        compileSignature str = .ok ⟨sig.length, arr⟩ ∧ arr.toList = sig) := by
  obtain ⟨sig, result, hlen, hsize, hrun⟩ := parseSignatureToIter_eq str
  have hback : parseSignatureTo str = .ok (sig, result) := by
    have h := hrun backInsert []
    rw [foldlM_backInsert, List.nil_append, ok_bind, parseSignatureToIter,
      parseWordsTo_backInsert] at h
    exact h
  refine ⟨⟨sig, result, hlen, hback, hrun⟩, fun sig' hparse => ?_⟩
  cases result with
  | error e =>
    rw [parseSignature, hback] at hparse
    exact absurd hparse (by simp)
  | ok n =>
    obtain rfl := hsize n rfl
    obtain rfl : sig = sig' := by
      rw [parseSignature, hback] at hparse
      simpa using hparse
    obtain ⟨it, hwrite, hindex, htake⟩ := foldlM_write sig
      ⟨Vector.replicate (str.length / 2 + 1) SignatureElement.wildcard, 0⟩ (by
        dsimp only
        omega)
    have hmax : compileSignatureMaxSize (str.length / 2 + 1) str = .ok (it.array, sig.length) := by
      rw [compileSignatureMaxSize, hrun, hwrite]
      rfl
    refine ⟨Vector.ofFn fun i => it.array[i.val], ?_, ?_⟩
    · rw [compileSignature, hmax, ok_bind]
      exact dif_pos hlen
    · dsimp only at hindex
      rw [Nat.zero_add] at hindex
      rw [hindex, List.take_zero, List.nil_append] at htake
      exact (toList_ofFn_getElem it.array hlen).trans htake

theorem compileSignature_mov :
    parseSignature ['8', 'B', ' ', '?'] = .ok (.ok [.ofByte 0x8B, .wildcard]) ∧
      ∃ arr : Vector SignatureElement 2,
        compileSignature ['8', 'B', ' ', '?'] = .ok ⟨2, arr⟩ ∧
          arr.toList = [.ofByte 0x8B, .wildcard] :=
  have h : parseSignature ['8', 'B', ' ', '?'] = .ok (.ok [.ofByte 0x8B, .wildcard]) := by decide
  ⟨h, (compileSignature_spec ['8', 'B', ' ', '?']).2 _ h⟩

end Libhat

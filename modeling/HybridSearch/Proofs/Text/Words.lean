import HybridSearch.Text.Layout

/-!
# Words of a text

The words of a text are what is left between its white space, the empty pieces apart. They hold every
character that is not white space, in its order, and nothing else.
-/
namespace HybridSearch.Text

variable {α : Type} {p : α → Bool}

theorem of_mem_splitOnP {xs piece : List α} (h : piece ∈ xs.splitOnP p) :
    ∀ x ∈ piece, x ∈ xs ∧ p x = false := by
  induction xs generalizing piece with
  | nil => simp_all
  | cons y ys ih =>
    rw [List.splitOnP_cons_eq_if_modifyHead] at h
    split at h
    · rcases List.mem_cons.mp h with rfl | h
      · simp
      · exact fun x hx => (ih h x hx).imp_left (List.mem_cons_of_mem y)
    · next hy =>
      -- the character goes to the first of the pieces that the rest is split into
      obtain ⟨first, rest, hpieces⟩ := List.exists_cons_of_ne_nil (List.splitOnP_ne_nil p ys)
      rw [hpieces] at h ih
      rcases List.mem_cons.mp h with rfl | h
      · intro x hx
        rcases List.mem_cons.mp hx with rfl | hx
        · simpa using hy
        · exact (ih List.mem_cons_self x hx).imp_left (List.mem_cons_of_mem y)
      · exact fun x hx => (ih (List.mem_cons_of_mem _ h) x hx).imp_left (List.mem_cons_of_mem y)

theorem flatten_splitOnP (p : α → Bool) (xs : List α) : (xs.splitOnP p).flatten = xs.filter (!p ·) := by
  induction xs with
  | nil => simp
  | cons y ys ih =>
    obtain ⟨first, rest, hpieces⟩ := List.exists_cons_of_ne_nil (List.splitOnP_ne_nil p ys)
    rw [hpieces] at ih
    cases hy : p y <;> simp [List.splitOnP_cons_eq_if_modifyHead, hpieces, hy, ← ih]

theorem length_splitOnP (p : α → Bool) (xs : List α) : (xs.splitOnP p).length = xs.countP p + 1 := by
  induction xs with
  | nil => simp
  | cons y ys ih => cases hy : p y <;> simp [List.splitOnP_cons_eq_if_modifyHead, hy, ih]

theorem head?_dropWhile_eq_false (xs : List α) : ∀ x ∈ (xs.dropWhile p).head?, p x = false := by
  intro x hx
  have hfirst := List.head?_dropWhile_not p xs
  rw [Option.mem_def.mp hx] at hfirst
  exact hfirst

theorem splitWordsFrom_eq (word cs : List Char) :
    splitWordsFrom word cs = (cs.splitOnPPrepend isWhitespace word).filter (!·.isEmpty) := by
  induction cs generalizing word with
  | nil => cases word <;> simp [splitWordsFrom]
  | cons c cs ih =>
    have hrest : splitWordsFrom [] cs = (cs.splitOnP isWhitespace).filter (!·.isEmpty) := ih []
    rw [splitWordsFrom, List.splitOnPPrepend_cons_eq_if]
    split
    · cases word <;> simp [hrest]
    · exact ih (c :: word)

theorem splitWords_eq (cs : List Char) :
    splitWords cs = (cs.splitOnP isWhitespace).filter (!·.isEmpty) :=
  splitWordsFrom_eq [] cs

theorem of_mem_splitWords {cs word : List Char} (h : word ∈ splitWords cs) :
    word ≠ [] ∧ ∀ c ∈ word, c ∈ cs ∧ isWhitespace c = false := by
  rw [splitWords_eq, List.mem_filter] at h
  exact ⟨by simpa using h.2, of_mem_splitOnP h.1⟩

theorem flatten_splitWords (cs : List Char) : (splitWords cs).flatten = cs.filter (!isWhitespace ·) := by
  rw [splitWords_eq, List.flatten_filter_not_isEmpty, flatten_splitOnP]

theorem isWhitespace_or_mem_splitWords {cs : List Char} {c : Char} (h : c ∈ cs) :
    isWhitespace c = true ∨ ∃ word ∈ splitWords cs, c ∈ word := by
  cases hc : isWhitespace c with
  | true => exact .inl rfl
  | false =>
    have hkept : c ∈ (splitWords cs).flatten := by simp [flatten_splitWords, h, hc]
    exact .inr (List.mem_flatten.mp hkept)

theorem splitWords_cons_of_blank {c : Char} (hc : isWhitespace c = true) (cs : List Char) :
    splitWords (c :: cs) = splitWords cs := by
  simp [splitWords_eq, List.splitOnP_cons_eq_if_modifyHead, hc]

theorem splitWords_append {word rest : List Char} (hne : word ≠ [])
    (hword : ∀ c ∈ word, isWhitespace c = false) (hrest : ∀ c ∈ rest.head?, isWhitespace c = true) :
    splitWords (word ++ rest) = word :: splitWords rest := by
  cases rest with
  | nil => simp [splitWords_eq, List.splitOnP_eq_singleton hword, hne]
  | cons c rest =>
    have hc : isWhitespace c = true := hrest c rfl
    rw [splitWords_cons_of_blank hc, splitWords_eq, splitWords_eq,
      List.splitOnP_append_cons_of_forall_mem hword c hc]
    simp [hne]

end HybridSearch.Text

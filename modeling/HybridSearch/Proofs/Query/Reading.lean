import HybridSearch.Proofs.Text.Words
import HybridSearch.Query.Expression
import Mathlib.Data.List.Forall2
import Mathlib.Data.List.TakeWhile

/-!
# How a query is read

A text whose quotes pair up is read as words and phrases in exactly one way, and the terms of a query are
what its words and phrases ask for, in their order. Nothing but letters, digits, underscores and hyphens
is left in a term.
-/
namespace HybridSearch.Query

/-- How a text is cut: a phrase stands between two quotes, a word goes on as far as it can. -/
inductive Reads : List Char → List Token → Prop
  | done : Reads [] []
  | blank {c : Char} {rest : List Char} {tokens : List Token} (hc : Text.isWhitespace c = true)
      (h : Reads rest tokens) : Reads (c :: rest) tokens
  | phrase {text rest : List Char} {tokens : List Token} (htext : '"' ∉ text)
      (h : Reads rest tokens) : Reads ('"' :: (text ++ '"' :: rest)) (.phrase text :: tokens)
  | word {text rest : List Char} {tokens : List Token} (hne : text ≠ [])
      (htext : ∀ c ∈ text, isWordChar c = true) (hrest : ∀ c ∈ rest.head?, isWordChar c = false)
      (h : Reads rest tokens) : Reads (text ++ rest) (.word text :: tokens)

/-- The text with its quotes, or with a space for each of them where they do not pair up. -/
def pairedQuotes (cs : List Char) : List Char :=
  if cs.count '"' % 2 = 0 then cs else cs.map quoteToSpace

theorem tokenize_eq (cs : List Char) : tokenize cs = scan (pairedQuotes cs) := by
  rw [tokenize, pairedQuotes]
  split <;> rfl

theorem not_isWhitespace_quote : Text.isWhitespace '"' = false := by decide

theorem ne_quote_of_isWhitespace {c : Char} (h : Text.isWhitespace c = true) : c ≠ '"' := by
  rintro rfl
  simp [not_isWhitespace_quote] at h

theorem isWordChar_iff {c : Char} :
    isWordChar c = true ↔ Text.isWhitespace c = false ∧ c ≠ '"' := by
  simp [isWordChar]

theorem takeWhile_append_of_head? {p : Char → Bool} {text rest : List Char}
    (htext : ∀ c ∈ text, p c = true) (hrest : ∀ c ∈ rest.head?, p c = false) :
    (text ++ rest).takeWhile p = text ∧ (text ++ rest).dropWhile p = rest := by
  have hstop : rest.takeWhile p = [] ∧ rest.dropWhile p = rest := by
    cases rest with
    | nil => exact ⟨rfl, rfl⟩
    | cons c cs =>
      have hc : p c = false := hrest c rfl
      exact ⟨by simp [hc], by simp [hc]⟩
  constructor
  · rw [List.takeWhile_append_of_pos htext, hstop.1, List.append_nil]
  · rw [List.dropWhile_append_of_pos htext, hstop.2]

theorem count_quoteToSpace (cs : List Char) : (cs.map quoteToSpace).count '"' = 0 := by
  rw [List.count_eq_zero]
  intro hmem
  obtain ⟨c, -, hc⟩ := List.mem_map.mp hmem
  rw [quoteToSpace] at hc
  split at hc
  · exact absurd hc (by decide)
  · next hother => exact hother hc

theorem even_count_pairedQuotes (cs : List Char) : (pairedQuotes cs).count '"' % 2 = 0 := by
  rw [pairedQuotes]
  split
  · assumption
  · rw [count_quoteToSpace]

theorem exists_closing {cs : List Char} (h : cs.count '"' % 2 = 1) :
    ∃ rest, cs.dropWhile isInsidePhrase = '"' :: rest ∧ rest.count '"' % 2 = 0 := by
  induction cs with
  | nil => simp at h
  | cons c cs ih =>
    by_cases hc : c = '"'
    · subst hc
      refine ⟨cs, by simp [isInsidePhrase], ?_⟩
      rw [List.count_cons_self] at h
      omega
    · rw [List.count_cons_of_ne hc] at h
      obtain ⟨rest, hrest, heven⟩ := ih h
      refine ⟨rest, ?_, heven⟩
      rw [List.dropWhile_cons_of_pos (by simp [isInsidePhrase, hc]), hrest]

theorem count_dropWhile_isWordChar (cs : List Char) :
    (cs.dropWhile isWordChar).count '"' = cs.count '"' := by
  have hnone : (cs.takeWhile isWordChar).count '"' = 0 := by
    rw [List.count_eq_zero]
    intro hmem
    exact (isWordChar_iff.mp (List.mem_takeWhile_imp hmem)).2 rfl
  conv_rhs => rw [← List.takeWhile_append_dropWhile (p := isWordChar) (l := cs), List.count_append,
    hnone, Nat.zero_add]

theorem reads_scan (cs : List Char) (h : cs.count '"' % 2 = 0) : Reads cs (scan cs) := by
  induction cs using scan.induct with
  | case1 => rw [scan]; exact .done
  | case2 c cs hblank ih =>
    rw [scan, if_pos hblank]
    rw [List.count_cons_of_ne (ne_quote_of_isWhitespace hblank)] at h
    exact .blank hblank (ih h)
  | case3 cs hblank ih =>
    rw [List.count_cons_self] at h
    have hodd : cs.count '"' % 2 = 1 := by omega
    obtain ⟨rest, hrest, heven⟩ := exists_closing hodd
    have hcut : cs = cs.takeWhile isInsidePhrase ++ '"' :: rest := by
      rw [← hrest, List.takeWhile_append_dropWhile]
    rw [scan, if_neg hblank, if_pos rfl]
    rw [hrest, List.drop_one, List.tail_cons] at ih ⊢
    have hinside : '"' ∉ cs.takeWhile isInsidePhrase := by
      intro hmem
      have hquote : isInsidePhrase '"' = true := List.mem_takeWhile_imp hmem
      exact absurd hquote (by decide)
    conv => enter [1]; rw [hcut]
    exact .phrase hinside (ih heven)
  | case4 c cs hblank hquote ih =>
    rw [scan, if_neg hblank, if_neg hquote]
    rw [List.count_cons_of_ne hquote] at h
    have hfirst : isWordChar c = true :=
      isWordChar_iff.mpr ⟨Bool.eq_false_iff.mpr hblank, hquote⟩
    have hcut : c :: cs = (c :: cs.takeWhile isWordChar) ++ cs.dropWhile isWordChar := by
      rw [List.cons_append, List.takeWhile_append_dropWhile]
    conv => enter [1]; rw [hcut]
    refine .word (List.cons_ne_nil _ _) ?_ (Text.head?_dropWhile_eq_false cs) (ih ?_)
    · intro d hd
      rcases List.mem_cons.mp hd with rfl | hd
      · exact hfirst
      · exact List.mem_takeWhile_imp hd
    · rw [count_dropWhile_isWordChar]
      exact h

theorem scan_of_reads {cs : List Char} {tokens : List Token} (h : Reads cs tokens) :
    scan cs = tokens := by
  induction h with
  | done => rw [scan]
  | blank hc _ ih => rw [scan, if_pos hc, ih]
  | @phrase text rest tokens htext _ ih =>
    have hinside : ∀ c ∈ text, isInsidePhrase c = true := by
      intro c hc
      rw [isInsidePhrase, bne_iff_ne]
      rintro rfl
      exact htext hc
    have hstop : ∀ c ∈ ('"' :: rest).head?, isInsidePhrase c = false := by
      rintro c ⟨⟩
      rfl
    obtain ⟨htake, hdrop⟩ := takeWhile_append_of_head? hinside hstop
    rw [scan, if_neg (by simp [not_isWhitespace_quote]), if_pos rfl, htake, hdrop, List.drop_one,
      List.tail_cons, ih]
  | @word text rest tokens hne htext hrest _ ih =>
    obtain ⟨c, cs, rfl⟩ := List.exists_cons_of_ne_nil hne
    obtain ⟨hblank, hquote⟩ := isWordChar_iff.mp (htext c List.mem_cons_self)
    obtain ⟨htake, hdrop⟩ := takeWhile_append_of_head?
      (fun d hd => htext d (List.mem_cons_of_mem _ hd)) hrest
    rw [List.cons_append, scan, if_neg (by simp [hblank]), if_neg hquote, htake, hdrop, ih]

theorem reads_pairedQuotes_iff {cs : List Char} {tokens : List Token} :
    Reads (pairedQuotes cs) tokens ↔ tokenize cs = tokens := by
  constructor
  · intro h
    rw [tokenize_eq, scan_of_reads h]
  · rintro rfl
    rw [tokenize_eq]
    exact reads_scan _ (even_count_pairedQuotes cs)

/-- At least one character, each a letter, a digit, an underscore or a hyphen. -/
def IsRun (word : List Char) : Prop := word ≠ [] ∧ ∀ c ∈ word, isTermChar c = true

/-- What a word or a phrase of a query asks for. -/
inductive Asks : Token → Term → Prop
  | beginning {word : List Char} (hbare : word.head? ≠ some '-') (hrun : IsRun (sanitize word)) :
      Asks (.word word) (.beginning (sanitize word))
  | exclusion {word : List Char} (hrun : IsRun (sanitize word)) :
      Asks (.word ('-' :: word)) (.exclusion (sanitize word))
  | phrase {text : List Char} {kept : List (List Char)} (hkept : kept.Sublist (Text.splitWords text))
      (hne : kept ≠ []) (hrun : ∀ word ∈ kept, IsRun (sanitize word)) :
      Asks (.phrase text) (.phrase (kept.map sanitize))

theorem isRun_sanitize {word : List Char} (h : (sanitize word).isEmpty = false) :
    IsRun (sanitize word) := by
  refine ⟨List.isEmpty_eq_false_iff.mp h, ?_⟩
  intro c hc
  exact (List.mem_filter.mp hc).2

theorem splitMinus_of_head? {word : List Char} (h : word.head? ≠ some '-') :
    splitMinus word = (false, word) := by
  rw [splitMinus]
  intro body hbody
  rw [hbody] at h
  exact h rfl

theorem asks_ofWord? {word : List Char} {term : Term} (h : Term.ofWord? word = some term) :
    Asks (.word word) term := by
  rw [Term.ofWord?] at h
  by_cases hminus : word.head? = some '-'
  · obtain ⟨body, rfl⟩ := List.head?_eq_some_iff.mp hminus
    simp only [splitMinus, if_true] at h
    split at h
    · cases h
    · next hkept =>
      obtain rfl := Option.some.inj h
      simp only [Bool.or_eq_true, not_or, Bool.not_eq_true] at hkept
      exact .exclusion (isRun_sanitize hkept.2)
  · simp only [splitMinus_of_head? hminus, Bool.false_eq_true, if_false] at h
    split at h
    · cases h
    · next hkept =>
      obtain rfl := Option.some.inj h
      simp only [Bool.or_eq_true, not_or, Bool.not_eq_true] at hkept
      exact .beginning hminus (isRun_sanitize hkept.2)

theorem asks_ofPhrase? {text : List Char} {term : Term} (h : Term.ofPhrase? text = some term) :
    Asks (.phrase text) term := by
  rw [Term.ofPhrase?] at h
  split at h
  · cases h
  · next hne =>
    obtain rfl := Option.some.inj h
    -- the words that are kept, before they are cleaned
    let kept := ((Text.splitWords text).filter fun w =>
      decide (w.length ≤ maxTermLength) && !isKeyword w).filter fun w => !(sanitize w).isEmpty
    have hwords : phraseWords text = kept.map sanitize := by
      rw [phraseWords, List.filter_map]
      rfl
    rw [hwords] at hne ⊢
    refine .phrase (List.filter_sublist.trans List.filter_sublist) ?_ ?_
    · rintro hnil
      exact hne (by rw [hnil]; rfl)
    · intro word hword
      have hsome := (List.mem_filter.mp hword).2
      exact isRun_sanitize (by simpa using hsome)

theorem asks_ofToken? {token : Token} {term : Term} (h : Term.ofToken? token = some term) :
    Asks token term := by
  cases token with
  | word text => exact asks_ofWord? h
  | phrase text => exact asks_ofPhrase? h

theorem exists_asking (tokens : List Token) :
    ∃ asking, asking.Sublist tokens ∧ List.Forall₂ Asks asking (tokens.filterMap Term.ofToken?) := by
  induction tokens with
  | nil => exact ⟨[], .slnil, .nil⟩
  | cons token tokens ih =>
    obtain ⟨asking, hsub, hasks⟩ := ih
    cases hterm : Term.ofToken? token with
    | none =>
      rw [List.filterMap_cons_none hterm]
      exact ⟨asking, hsub.cons token, hasks⟩
    | some term =>
      rw [List.filterMap_cons_some hterm]
      exact ⟨token :: asking, hsub.cons_cons token, .cons (asks_ofToken? hterm) hasks⟩

/-- The terms of a query are asked for by words and phrases of it, one by one and in their order. -/
theorem exists_asking_terms (cs : List Char) :
    ∃ tokens asking, Reads (pairedQuotes cs) tokens ∧ asking.Sublist tokens ∧
      List.Forall₂ Asks asking (terms cs) := by
  obtain ⟨asking, hsub, hasks⟩ := exists_asking (tokenize cs)
  refine ⟨tokenize cs, asking.take maxTerms, reads_pairedQuotes_iff.mpr rfl, ?_, ?_⟩
  · exact (List.take_sublist _ _).trans hsub
  · exact List.forall₂_take _ hasks

end HybridSearch.Query

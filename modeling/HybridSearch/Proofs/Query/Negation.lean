import HybridSearch.Proofs.Query.Inert

/-!
# Minus signs

A minus sign in front of a word excludes the word, and the query requires what it required without it. In front
of a phrase the minus sign is a word of its own, since a quote ends a word, and nothing is left of it: the
phrase is required like any other.
-/
namespace HybridSearch.Query

/-- A word, or a phrase between its quotes, as it stands in a query. -/
inductive Written : Token → List Char → Prop
  | word {text : List Char} (htext : ∀ c ∈ text, isWordChar c = true) : Written (.word text) text
  | phrase {text : List Char} (htext : '"' ∉ text) : Written (.phrase text) ('"' :: (text ++ ['"']))

/-- What is read where a minus sign stands in front of a word or a phrase. -/
def minusTokens : Token → List Token
  | .word text => [.word ('-' :: text)]
  | .phrase text => [.word ['-'], .phrase text]

variable {token : Token} {chars : List Char}

theorem Reads.append_blank {cs rest : List Char} {tokens more : List Token} {c : Char}
    (h : Reads cs tokens) (hc : Text.isWhitespace c = true) (hrest : Reads rest more) :
    Reads (cs ++ c :: rest) (tokens ++ more) := by
  induction h with
  | done => exact .blank hc hrest
  | blank hblank _ ih => exact .blank hblank ih
  | phrase htext _ ih =>
    simp only [List.cons_append, List.append_assoc]
    exact .phrase htext ih
  | @word text behind _ hne htext hbehind _ ih =>
    rw [List.append_assoc]
    refine .word hne htext ?_ ih
    cases behind with
    | nil => simp [isWordChar, hc]
    | cons d ds => exact hbehind

theorem isWordChar_minus : isWordChar '-' = true := by decide

theorem Written.reads (h : Written token chars) : Reads ('-' :: chars) (minusTokens token) := by
  cases h with
  | word htext =>
    have hchars : ∀ c ∈ '-' :: chars, isWordChar c = true :=
      List.forall_mem_cons.mpr ⟨isWordChar_minus, htext⟩
    have hread := Reads.word (List.cons_ne_nil _ _) hchars (by simp) .done
    rwa [List.append_nil] at hread
  | @phrase text htext =>
    -- the quote ends the word that the minus sign begins
    have hminus : ∀ c ∈ ['-'], isWordChar c = true := by simp [isWordChar_minus]
    have hquote : ∀ c ∈ ('"' :: (text ++ ['"'])).head?, isWordChar c = false := by simp [isWordChar]
    exact .word (List.cons_ne_nil _ _) hminus hquote (.phrase htext .done)

theorem Written.even_count (h : Written token chars) : chars.count '"' % 2 = 0 := by
  cases h with
  | word htext =>
    have hnone : chars.count '"' = 0 :=
      List.count_eq_zero.mpr fun hmem => (isWordChar_iff.mp (htext _ hmem)).2 rfl
    omega
  | phrase htext => simp [List.count_eq_zero.mpr htext]

theorem tokenize_minus {cs : List Char} (hcs : cs.count '"' % 2 = 0) (h : Written token chars) :
    tokenize (cs ++ ' ' :: '-' :: chars) = tokenize cs ++ minusTokens token := by
  have heven : (cs ++ ' ' :: '-' :: chars).count '"' % 2 = 0 := by
    have hchars := h.even_count
    simp only [List.count_append, List.count_cons]
    simp
    omega
  rw [tokenize, if_pos heven, tokenize, if_pos hcs]
  exact scan_of_reads ((reads_scan cs hcs).append_blank (by decide) h.reads)

/-- A word that something is left of once it is cleaned, and that is neither a keyword nor too long to stand
behind a minus sign. -/
def Excludable (text : List Char) : Prop :=
  text.length < maxTermLength ∧ isKeyword text = false ∧ sanitize text ≠ []

instance (text : List Char) : Decidable (Excludable text) :=
  inferInstanceAs (Decidable (_ ∧ _ ∧ _))

theorem ofWord?_minus (text : List Char) :
    Term.ofWord? ('-' :: text) = if Excludable text then some (.exclusion (sanitize text)) else none := by
  simp only [Term.ofWord?, splitMinus, Excludable, List.length_cons, if_true]
  by_cases hlength : text.length < maxTermLength
  · have hshort : ¬maxTermLength < text.length + 1 := by omega
    by_cases hkeyword : isKeyword text = true <;> by_cases hclean : sanitize text = [] <;>
      simp [hlength, hshort, hkeyword, hclean]
  · have hlong : maxTermLength < text.length + 1 := by omega
    simp [hlength, hlong]

/-- What a word or a phrase behind a minus sign asks for. -/
def minusTerms : Token → List Term
  | .word text => if Excludable text then [.exclusion (sanitize text)] else []
  | .phrase text => if phraseWords text = [] then [] else [.phrase (phraseWords text)]

theorem filterMap_minusTokens (token : Token) :
    (minusTokens token).filterMap Term.ofToken? = minusTerms token := by
  cases token with
  | word text =>
    simp only [minusTokens, minusTerms, List.filterMap_cons, Term.ofToken?, ofWord?_minus, List.filterMap_nil]
    split <;> simp_all
  | phrase text =>
    have hminus : Term.ofWord? ['-'] = none := by decide
    simp only [minusTokens, minusTerms, List.filterMap_cons, Term.ofToken?, hminus, Term.ofPhrase?,
      List.isEmpty_iff, List.filterMap_nil]
    split <;> simp_all

/-- With room for all tokens, the terms of the query are kept and what is asked for behind them is added. -/
theorem terms_minus {cs : List Char} (hcs : cs.count '"' % 2 = 0) (h : Written token chars)
    (hfew : (tokenize (cs ++ ' ' :: '-' :: chars)).length ≤ maxTerms) :
    terms (cs ++ ' ' :: '-' :: chars) = terms cs ++ minusTerms token := by
  have hsplit : (tokenize (cs ++ ' ' :: '-' :: chars)).filterMap Term.ofToken? =
      (tokenize cs).filterMap Term.ofToken? ++ minusTerms token := by
    rw [tokenize_minus hcs h, List.filterMap_append, filterMap_minusTokens]
  have hwhole := List.length_filterMap_le Term.ofToken? (tokenize (cs ++ ' ' :: '-' :: chars))
  have hpart := congrArg List.length hsplit
  rw [List.length_append] at hpart
  rw [terms, terms, List.take_of_length_le (by omega), List.take_of_length_le (by omega), hsplit]

namespace Expression

/-- How the expression of a query goes on behind a minus sign in front of a word or a phrase: what is required
is the same unless it is a phrase with words to search for. -/
structure Negates (token : Token) (e e' : Expression) : Prop where
  required_iff : e'.required = e.required ↔ ∀ text, token = .phrase text → phraseWords text = []
  word : ∀ text, token = .word text →
    e'.excluded = e.excluded ++ if Excludable text then [sanitize text] else []
  phrase : ∀ text, token = .phrase text → e'.excluded = e.excluded ∧
    (phraseWords text ≠ [] → e'.required = e.required ++ [.phrase (phraseWords text)])

theorem negates_minus (e : Expression) (token : Token) :
    Negates token e ⟨e.required ++ (minusTerms token).filterMap Term.required?,
      e.excluded ++ (minusTerms token).filterMap Term.excluded?⟩ := by
  cases token with
  | word text =>
    have hterms : (minusTerms (.word text)).filterMap Term.required? = [] := by
      rw [minusTerms]
      split <;> rfl
    refine ⟨by simp [hterms], fun _ h => ?_, fun _ h => nomatch h⟩
    obtain rfl := Token.word.inj h
    rw [minusTerms]
    split <;> rfl
  | phrase text =>
    by_cases hwords : phraseWords text = []
    · refine ⟨by simp [minusTerms, hwords], fun _ h => (nomatch h), fun _ h => ?_⟩
      obtain rfl := Token.phrase.inj h
      simp [minusTerms, hwords]
    · refine ⟨by simp [minusTerms, hwords, Term.required?], fun _ h => (nomatch h), fun _ h => ?_⟩
      obtain rfl := Token.phrase.inj h
      simp [minusTerms, hwords, Term.required?, Term.excluded?]

theorem ofTerms?_append {ts more : List Term} {e : Expression} (h : ofTerms? ts = some e) :
    ofTerms? (ts ++ more) = some ⟨e.required ++ more.filterMap Term.required?,
      e.excluded ++ more.filterMap Term.excluded?⟩ := by
  simp only [ofTerms?, List.isEmpty_iff] at h ⊢
  split at h
  · cases h
  · next hne =>
    obtain rfl := Option.some.inj h
    simp [List.filterMap_append, hne]

theorem ofTerms?_of_ofText? {query : String} {e : Expression} (h : ofText? query = some e) :
    ofTerms? (terms (query.toList.take maxQueryLength)) = some e := by
  simp only [ofText?] at h
  split at h
  · cases h
  · exact h

/-- Behind a minus sign a word is excluded and nothing new is required, but a phrase with words to search for is
required. -/
theorem ofText?_minus {query operand : String} {token : Token} {e : Expression}
    (hquotes : query.toList.count '"' % 2 = 0) (hoperand : Written token operand.toList)
    (hlength : (query ++ " -" ++ operand).toList.length ≤ maxQueryLength)
    (htokens : (tokenize (query ++ " -" ++ operand).toList).length ≤ maxTerms)
    (hcontrol : ∀ part ∈ controlSequences, occursIn part (query ++ " -" ++ operand).toList = false)
    (he : ofText? query = some e) :
    ∃ e', ofText? (query ++ " -" ++ operand) = some e' ∧ Negates token e e' := by
  have hchars : (query ++ " -" ++ operand).toList = query.toList ++ ' ' :: '-' :: operand.toList := by
    simp
  rw [hchars] at hlength htokens hcontrol
  have hshort : query.toList.length ≤ maxQueryLength := by
    rw [List.length_append] at hlength
    omega
  have hterms := ofTerms?_of_ofText? he
  rw [List.take_of_length_le hshort] at hterms
  have hallowed : controlSequences.any (occursIn · (query.toList ++ ' ' :: '-' :: operand.toList)) = false :=
    List.any_eq_false.mpr fun part hpart => by simp [hcontrol part hpart]
  refine ⟨_, ?_, negates_minus e token⟩
  rw [ofText?, hchars, List.take_of_length_le hlength]
  simp only [hallowed, terms_minus hquotes hoperand htokens]
  exact ofTerms?_append hterms

/-- A word behind a minus sign, next to a phrase and with a wildcard in it. -/
theorem negates_draft : ofText? "refund \"late fee\"" =
      some ⟨[.beginning "refund".toList, .phrase ["late".toList, "fee".toList]], []⟩ ∧
    ofText? ("refund \"late fee\"" ++ " -" ++ "dra*ft") =
      some ⟨[.beginning "refund".toList, .phrase ["late".toList, "fee".toList]], ["draft".toList]⟩ := by
  have htext : ofText? "refund \"late fee\"" =
      some ⟨[.beginning "refund".toList, .phrase ["late".toList, "fee".toList]], []⟩ := by decide +kernel
  have hword : Written (.word "dra*ft".toList) "dra*ft".toList :=
    .word (List.all_eq_true.mp (by decide))
  obtain ⟨e', he', hnegates⟩ := ofText?_minus (by decide) hword (by decide) (by decide +kernel)
    (by decide) htext
  have hrequired := hnegates.required_iff.mpr fun _ h => (nomatch h)
  have hexcluded := hnegates.word _ rfl
  refine ⟨htext, he'.trans (congrArg some ?_)⟩
  obtain ⟨required, excluded⟩ := e'
  obtain rfl : required = _ := hrequired
  obtain rfl : excluded = _ := hexcluded
  decide

/-- A phrase behind a minus sign becomes a requirement. -/
theorem not_negated : ¬∀ (query operand : String) (token : Token) (e : Expression),
    query.toList.count '"' % 2 = 0 → Written token operand.toList →
    (query ++ " -" ++ operand).toList.length ≤ maxQueryLength →
    (tokenize (query ++ " -" ++ operand).toList).length ≤ maxTerms →
    (∀ part ∈ controlSequences, occursIn part (query ++ " -" ++ operand).toList = false) →
    ofText? query = some e →
    ∃ e', ofText? (query ++ " -" ++ operand) = some e' ∧ e'.required = e.required := by
  intro h
  have hphrase : Written (.phrase "draft".toList) "\"draft\"".toList :=
    @Written.phrase "draft".toList (by decide)
  obtain ⟨e', he', hsame⟩ := h "policy" "\"draft\"" _ ⟨[.beginning "policy".toList], []⟩ (by decide) hphrase
    (by decide) (by decide +kernel) (by decide) (by decide +kernel)
  have hrequired : ofText? ("policy" ++ " -" ++ "\"draft\"") =
      some ⟨[.beginning "policy".toList, .phrase ["draft".toList]], []⟩ := by decide +kernel
  obtain rfl := Option.some.inj (hrequired.symm.trans he')
  exact absurd hsame (by decide)

end Expression

end HybridSearch.Query

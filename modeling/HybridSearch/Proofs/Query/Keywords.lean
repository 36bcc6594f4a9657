import HybridSearch.Proofs.Query.Inert

/-!
# Keywords

The words of an expression are what is left of the words of the query that are no keywords. A keyword is looked
for before a word is cleaned, so one gets through exactly when a character that cleaning takes away hides it: in
a query of letters, digits, underscores and hyphens nothing does.
-/
namespace HybridSearch.Query

def Required.words : Required → List (List Char)
  | .beginning word => [word]
  | .phrase words => words

def Term.words : Term → List (List Char)
  | .beginning word => [word]
  | .phrase words => words
  | .exclusion word => [word]

/-- The words that a token consists of, as they stand in the query: a minus sign in front of a word is not a part
of it. -/
def Token.words : Token → List (List Char)
  | .word text => [(splitMinus text).2]
  | .phrase text => Text.splitWords text

/-- The words and phrases that the terms of a query come from. -/
def askingTokens (cs : List Char) : List Token :=
  ((tokenize cs).filter fun token => (Term.ofToken? token).isSome).take maxTerms

/-- A word that is searched for or excluded where it is asked for. -/
def Searched (word : List Char) : Prop :=
  word.length ≤ maxTermLength ∧ isKeyword word = false ∧ sanitize word ≠ []

/-- A searched word that is a keyword once it is cleaned. -/
def Disguised (word : List Char) : Prop := Searched word ∧ isKeyword (sanitize word) = true

variable {token : Token} {term : Term} {word : List Char}

theorem splitMinus_suffix (text : List Char) : (splitMinus text).2 <:+ text := by
  unfold splitMinus
  split
  · exact List.suffix_cons _ _
  · exact List.suffix_refl _

theorem words_of_ofWord? {text : List Char} (h : Term.ofWord? text = some term) :
    Searched (splitMinus text).2 ∧ term.words = [sanitize (splitMinus text).2] := by
  simp only [Term.ofWord?] at h
  split at h
  · cases h
  · next hkept =>
    simp only [Bool.or_eq_true, not_or, Bool.not_eq_true, decide_eq_true_eq, Nat.not_lt,
      List.isEmpty_eq_false_iff] at hkept
    obtain ⟨⟨hshort, hkeyword⟩, hclean⟩ := hkept
    refine ⟨⟨(splitMinus_suffix text).length_le.trans hshort, hkeyword, hclean⟩, ?_⟩
    obtain rfl := Option.some.inj h
    split <;> rfl

theorem mem_phraseWords_iff {text : List Char} :
    word ∈ phraseWords text ↔ ∃ raw ∈ Text.splitWords text, Searched raw ∧ sanitize raw = word := by
  simp only [phraseWords, List.mem_filter, List.mem_map, Bool.and_eq_true, decide_eq_true_eq,
    Bool.not_eq_true', List.isEmpty_eq_false_iff, Searched]
  constructor
  · rintro ⟨⟨raw, ⟨hraw, hshort, hkeyword⟩, rfl⟩, hclean⟩
    exact ⟨raw, hraw, ⟨hshort, hkeyword, hclean⟩, rfl⟩
  · rintro ⟨raw, hraw, ⟨hshort, hkeyword, hclean⟩, rfl⟩
    exact ⟨⟨raw, ⟨hraw, hshort, hkeyword⟩, rfl⟩, hclean⟩

theorem mem_words_of_ofToken? (h : Term.ofToken? token = some term) :
    word ∈ term.words ↔ ∃ raw ∈ token.words, Searched raw ∧ sanitize raw = word := by
  cases token with
  | word text =>
    obtain ⟨hsearched, hwords⟩ := words_of_ofWord? h
    simp only [hwords, Token.words, List.mem_singleton, exists_eq_left, hsearched, true_and, eq_comm]
  | phrase text =>
    simp only [Term.ofToken?, Term.ofPhrase?] at h
    split at h
    · cases h
    · obtain rfl := Option.some.inj h
      exact mem_phraseWords_iff

theorem filterMap_take_filter (tokens : List Token) (n : ℕ) :
    ((tokens.filter fun token => (Term.ofToken? token).isSome).take n).filterMap Term.ofToken? =
      (tokens.filterMap Term.ofToken?).take n := by
  induction tokens generalizing n with
  | nil => simp
  | cons token tokens ih =>
    cases hterm : Term.ofToken? token with
    | none => rw [List.filter_cons_of_neg (by simp [hterm]), List.filterMap_cons_none hterm, ih]
    | some term =>
      rw [List.filter_cons_of_pos (by simp [hterm]), List.filterMap_cons_some hterm]
      cases n with
      | zero => rfl
      | succ n => rw [List.take_succ_cons, List.take_succ_cons, List.filterMap_cons_some hterm, ih]

theorem filterMap_askingTokens (cs : List Char) :
    (askingTokens cs).filterMap Term.ofToken? = terms cs :=
  filterMap_take_filter _ _

theorem isSome_of_mem_askingTokens {cs : List Char} (h : token ∈ askingTokens cs) :
    token ∈ tokenize cs ∧ (Term.ofToken? token).isSome = true :=
  List.mem_filter.mp (List.mem_of_mem_take h)

theorem mem_words_terms_iff {cs : List Char} :
    (∃ term ∈ terms cs, word ∈ term.words) ↔
      ∃ token ∈ askingTokens cs, ∃ raw ∈ token.words, Searched raw ∧ sanitize raw = word := by
  rw [← filterMap_askingTokens]
  constructor
  · rintro ⟨term, hterm, hword⟩
    obtain ⟨token, htoken, hsome⟩ := List.mem_filterMap.mp hterm
    exact ⟨token, htoken, (mem_words_of_ofToken? hsome).mp hword⟩
  · rintro ⟨token, htoken, hraw⟩
    obtain ⟨term, hsome⟩ := Option.isSome_iff_exists.mp (isSome_of_mem_askingTokens htoken).2
    exact ⟨term, List.mem_filterMap.mpr ⟨token, htoken, hsome⟩, (mem_words_of_ofToken? hsome).mpr hraw⟩

/-- A character that stands between words, or that is kept in them. -/
def isPlainChar (c : Char) : Bool := Text.isWhitespace c || c == '"' || isTermChar c

/-- The words of a text consist of its characters, without blanks and quotes. -/
theorem Reads.mem_words {cs : List Char} {tokens : List Token} (h : Reads cs tokens)
    (htoken : token ∈ tokens) (hword : word ∈ token.words) {c : Char} (hc : c ∈ word) :
    c ∈ cs ∧ isWordChar c = true := by
  induction h with
  | done => cases htoken
  | blank _ _ ih => exact (ih htoken).imp_left (List.mem_cons_of_mem _)
  | @phrase text rest tokens htext _ ih =>
    rcases List.mem_cons.mp htoken with rfl | htoken
    · obtain ⟨hmem, hblank⟩ := (Text.of_mem_splitWords hword).2 c hc
      have hquote : c ≠ '"' := fun heq => htext (heq ▸ hmem)
      exact ⟨List.mem_cons_of_mem _ (List.mem_append_left _ hmem), isWordChar_iff.mpr ⟨hblank, hquote⟩⟩
    · refine (ih htoken).imp_left fun hmem => ?_
      exact List.mem_cons_of_mem _ (List.mem_append_right _ (List.mem_cons_of_mem _ hmem))
  | @word text rest tokens _ htext _ _ ih =>
    rcases List.mem_cons.mp htoken with rfl | htoken
    · obtain rfl := List.mem_singleton.mp hword
      have hmem := (splitMinus_suffix text).subset hc
      exact ⟨List.mem_append_left _ hmem, htext c hmem⟩
    · exact (ih htoken).imp_left (List.mem_append_right _)

theorem mem_of_mem_pairedQuotes {cs : List Char} {c : Char} (h : c ∈ pairedQuotes cs)
    (hc : isWordChar c = true) : c ∈ cs := by
  rw [pairedQuotes] at h
  split at h
  · exact h
  · obtain ⟨d, hd, rfl⟩ := List.mem_map.mp h
    by_cases hquote : d = '"'
    · rw [quoteToSpace, if_pos hquote] at hc
      exact absurd hc (by decide)
    · rwa [quoteToSpace, if_neg hquote]

theorem sanitize_of_plain {cs : List Char} (hplain : ∀ c ∈ cs, isPlainChar c = true)
    (htoken : token ∈ tokenize cs) (hword : word ∈ token.words) : sanitize word = word := by
  refine List.filter_eq_self.mpr fun c hc => ?_
  obtain ⟨hmem, hchar⟩ := (reads_pairedQuotes_iff.mpr rfl).mem_words htoken hword hc
  have hkind := hplain c (mem_of_mem_pairedQuotes hmem hchar)
  obtain ⟨hblank, hquote⟩ := isWordChar_iff.mp hchar
  simpa [isPlainChar, hblank, hquote] using hkind

namespace Expression

/-- The words that are searched for or excluded, those inside phrases included. -/
def words (e : Expression) : List (List Char) := e.required.flatMap Required.words ++ e.excluded

/-- What keyword stripping leaves in the expression of a query. -/
structure Stripped (query : String) (e : Expression) : Prop where
  words_iff : ∀ word, word ∈ e.words ↔
    ∃ token ∈ askingTokens (query.toList.take maxQueryLength), ∃ raw ∈ token.words,
      Searched raw ∧ sanitize raw = word
  keyword_iff : (∃ word ∈ e.words, isKeyword word = true) ↔
    ∃ token ∈ askingTokens (query.toList.take maxQueryLength), ∃ raw ∈ token.words, Disguised raw
  plain : (∀ c ∈ query.toList.take maxQueryLength, isPlainChar c = true) →
    ∀ word ∈ e.words, isKeyword word = false

variable {query : String} {e : Expression}

theorem mem_words_iff (h : ofText? query = some e) :
    word ∈ e.words ↔ ∃ term ∈ terms (query.toList.take maxQueryLength), word ∈ term.words := by
  obtain ⟨-, hrequired, hexcluded⟩ := ofText?_eq_some h
  rw [words, hrequired, hexcluded, List.mem_append, List.mem_flatMap]
  constructor
  · rintro (⟨r, hr, hword⟩ | hword)
    · obtain ⟨term, hterm, hsome⟩ := List.mem_filterMap.mp hr
      refine ⟨term, hterm, ?_⟩
      cases term with
      | beginning _ => obtain rfl := Option.some.inj hsome; exact hword
      | phrase _ => obtain rfl := Option.some.inj hsome; exact hword
      | exclusion _ => cases hsome
    · obtain ⟨term, hterm, hsome⟩ := List.mem_filterMap.mp hword
      refine ⟨term, hterm, ?_⟩
      cases term with
      | beginning _ => cases hsome
      | phrase _ => cases hsome
      | exclusion _ => obtain rfl := Option.some.inj hsome; exact List.mem_singleton_self _
  · rintro ⟨term, hterm, hword⟩
    cases term with
    | beginning w => exact .inl ⟨.beginning w, List.mem_filterMap.mpr ⟨_, hterm, rfl⟩, hword⟩
    | phrase ws => exact .inl ⟨.phrase ws, List.mem_filterMap.mpr ⟨_, hterm, rfl⟩, hword⟩
    | exclusion w =>
      obtain rfl := List.mem_singleton.mp hword
      exact .inr (List.mem_filterMap.mpr ⟨_, hterm, rfl⟩)

theorem exists_keyword_iff (h : ofText? query = some e) :
    (∃ word ∈ e.words, isKeyword word = true) ↔
      ∃ token ∈ askingTokens (query.toList.take maxQueryLength), ∃ raw ∈ token.words, Disguised raw := by
  constructor
  · rintro ⟨word, hword, hkeyword⟩
    obtain ⟨token, htoken, raw, hraw, hsearched, rfl⟩ := mem_words_terms_iff.mp ((mem_words_iff h).mp hword)
    exact ⟨token, htoken, raw, hraw, hsearched, hkeyword⟩
  · rintro ⟨token, htoken, raw, hraw, hsearched, hkeyword⟩
    refine ⟨sanitize raw, (mem_words_iff h).mpr (mem_words_terms_iff.mpr ?_), hkeyword⟩
    exact ⟨token, htoken, raw, hraw, hsearched, rfl⟩

/-- A keyword is left in an expression exactly when a word of the query is one once it is cleaned but not before,
and never where the query has nothing to clean. -/
theorem stripped_of_ofText? (h : ofText? query = some e) : Stripped query e := by
  refine ⟨fun word => (mem_words_iff h).trans mem_words_terms_iff, exists_keyword_iff h, ?_⟩
  intro hplain word hword
  rw [← Bool.not_eq_true]
  intro hkeyword
  obtain ⟨token, htoken, raw, hraw, hsearched, hclean⟩ := (exists_keyword_iff h).mp ⟨word, hword, hkeyword⟩
  rw [sanitize_of_plain hplain (isSome_of_mem_askingTokens htoken).1 hraw, hsearched.2.1] at hclean
  exact Bool.false_ne_true hclean

/-- A comma hides a keyword in a phrase and a wildcard hides one behind a minus sign; the keyword that stands alone
is dropped. -/
theorem stripped_dropTable : ofText? "select fromage \"drop, table\" -*FROM" =
      some ⟨[.beginning "fromage".toList, .phrase ["drop".toList, "table".toList]], ["FROM".toList]⟩ ∧
    ∃ token ∈ askingTokens "select fromage \"drop, table\" -*FROM".toList, ∃ raw ∈ token.words,
      Disguised raw := by
  have htext : ofText? "select fromage \"drop, table\" -*FROM" =
      some ⟨[.beginning "fromage".toList, .phrase ["drop".toList, "table".toList]], ["FROM".toList]⟩ := by
    decide +kernel
  have hdisguised := (stripped_of_ofText? htext).keyword_iff.mp ⟨"drop".toList, by decide, by decide⟩
  rw [List.take_of_length_le (by decide)] at hdisguised
  exact ⟨htext, hdisguised⟩

/-- A comma behind it is enough for a keyword to stay. -/
theorem not_stripped : ¬∀ (query : String) (e : Expression), ofText? query = some e →
    ∀ word ∈ e.words, isKeyword word = false := by
  intro h
  have hkeyword := h "select, fromage" ⟨[.beginning "select".toList, .beginning "fromage".toList], []⟩
    (by decide +kernel) "select".toList (by decide)
  exact absurd hkeyword (by decide)

end Expression

end HybridSearch.Query

import HybridSearch.Proofs.Query.MatchSyntax

/-!
# Queries have no syntax

The expression of a query has between one and twenty terms and each of them is clean, so the quotes of the
expression are those around its terms: the full-text engine reads the terms back as they were taken from
the query, and behind them the tenant as it was given.
-/
namespace HybridSearch.Query

def Term.Clean : Term → Prop
  | .beginning word => IsRun word
  | .phrase words => words ≠ [] ∧ ∀ word ∈ words, IsRun word
  | .exclusion word => IsRun word

theorem Asks.clean {token : Token} {term : Term} (h : Asks token term) : term.Clean := by
  cases h with
  | beginning hbare hrun => exact hrun
  | exclusion hrun => exact hrun
  | phrase hkept hne hrun =>
    refine ⟨fun hnil => hne (List.map_eq_nil_iff.mp hnil), ?_⟩
    intro word hword
    obtain ⟨original, horiginal, rfl⟩ := List.mem_map.mp hword
    exact hrun original horiginal

theorem clean_of_mem_terms {cs : List Char} {term : Term} (h : term ∈ terms cs) : term.Clean := by
  obtain ⟨token, -, htoken⟩ := List.mem_filterMap.mp (List.mem_of_mem_take h)
  exact (asks_ofToken? htoken).clean

theorem Term.Clean.required {term : Term} (h : term.Clean) {r : Required}
    (hr : term.required? = some r) : r.Clean := by
  cases term with
  | beginning word => obtain rfl := Option.some.inj hr; exact h
  | phrase words => obtain rfl := Option.some.inj hr; exact h
  | exclusion word => cases hr

theorem Term.Clean.excluded {term : Term} (h : term.Clean) {word : List Char}
    (hword : term.excluded? = some word) : IsRun word := by
  cases term with
  | beginning word => cases hword
  | phrase words => cases hword
  | exclusion word => obtain rfl := Option.some.inj hword; exact h

theorem length_required_add_length_excluded (ts : List Term) :
    (ts.filterMap Term.required?).length + (ts.filterMap Term.excluded?).length = ts.length := by
  induction ts with
  | nil => rfl
  | cons term ts ih =>
    cases term <;>
      simp only [List.filterMap_cons, Term.required?, Term.excluded?, List.length_cons] <;> omega

namespace Expression

variable {query : String} {e : Expression}

theorem ofText?_eq_some (h : ofText? query = some e) :
    e.required ≠ [] ∧
      e.required = (terms (query.toList.take maxQueryLength)).filterMap Term.required? ∧
      e.excluded = (terms (query.toList.take maxQueryLength)).filterMap Term.excluded? := by
  simp only [ofText?] at h
  split at h
  · cases h
  · simp only [ofTerms?] at h
    split at h
    · cases h
    · next hne =>
      obtain rfl := Option.some.inj h
      exact ⟨fun hnil => hne (List.isEmpty_iff.mpr hnil), rfl, rfl⟩

theorem length_of_ofText? (h : ofText? query = some e) :
    1 ≤ e.required.length ∧ e.required.length + e.excluded.length ≤ maxTerms := by
  obtain ⟨hne, hrequired, hexcluded⟩ := ofText?_eq_some h
  have hlength := length_required_add_length_excluded (terms (query.toList.take maxQueryLength))
  rw [← hrequired, ← hexcluded] at hlength
  have hmost : (terms (query.toList.take maxQueryLength)).length ≤ maxTerms :=
    List.length_take_le _ _
  exact ⟨List.length_pos_iff.mpr hne, by omega⟩

theorem clean_of_ofText? (h : ofText? query = some e) :
    (∀ r ∈ e.required, r.Clean) ∧ ∀ word ∈ e.excluded, IsRun word := by
  obtain ⟨-, hrequired, hexcluded⟩ := ofText?_eq_some h
  rw [hrequired, hexcluded]
  constructor
  · intro r hr
    obtain ⟨term, hterm, hsome⟩ := List.mem_filterMap.mp hr
    exact (clean_of_mem_terms hterm).required hsome
  · intro word hword
    obtain ⟨term, hterm, hsome⟩ := List.mem_filterMap.mp hword
    exact (clean_of_mem_terms hterm).excluded hsome

theorem quote_notMem_lexemes (hrequired : ∀ r ∈ e.required, r.Clean)
    (hexcluded : ∀ word ∈ e.excluded, IsRun word) {text : List Char}
    (h : Lexeme.string text ∈ e.lexemes) : '"' ∉ text := by
  simp only [lexemes, List.mem_append, List.mem_cons, List.mem_flatMap, reduceCtorEq,
    List.not_mem_nil, false_or, or_false] at h
  rcases h with ⟨r, hr, htext⟩ | ⟨word, hword, htext⟩
  · have hclean := hrequired r hr
    cases r with
    | beginning word =>
      obtain rfl : text = word := by simpa [Required.lexemes] using htext
      exact quote_notMem_of_isRun hclean
    | phrase words =>
      obtain rfl : text = [' '].intercalate words := by simpa [Required.lexemes] using htext
      exact quote_notMem_intercalate hclean.2
  · obtain rfl : text = word := by simpa using htext
    exact quote_notMem_of_isRun (hexcluded text hword)

theorem isTermChar_of_isIdChar {c : Char} (h : Tenant.isIdChar c = true) : isTermChar c = true := by
  simp only [Tenant.isIdChar, isTermChar, Bool.or_eq_true] at h ⊢
  rcases h with (hc | hunderscore) | hminus
  · exact .inl (.inl (Text.isAlphanumeric_of_isAsciiAlphanumeric hc))
  · exact .inl (.inr hunderscore)
  · exact .inr hminus

theorem sanitize_tenant {tenant : String} (h : Tenant.isValid tenant = true) :
    sanitize tenant.toList = tenant.toList := by
  simp only [Tenant.isValid, Bool.and_eq_true, List.all_eq_true] at h
  exact List.filter_eq_self.mpr fun c hc => isTermChar_of_isIdChar (h.2 c hc)

theorem quote_notMem_tenant {tenant : String} (h : Tenant.isValid tenant = true) :
    '"' ∉ tenant.toList := by
  intro hmem
  simp only [Tenant.isValid, Bool.and_eq_true, List.all_eq_true] at h
  exact absurd (h.2 '"' hmem) (by decide)

theorem scopedText_eq {tenant : String} (h : Tenant.isValid tenant = true) :
    e.scopedText tenant = e.text ++ " AND tenant_id : \"" ++ tenant ++ "\"" := by
  apply String.toList_injective
  have hopening : " AND tenant_id : \"".toList = " AND tenant_id : ".toList ++ ['"'] := by decide
  rw [scopedText, sanitize_tenant h, quotedString_of_notMem (quote_notMem_tenant h)]
  simp only [String.toList_append, String.toList_ofList, text, hopening]
  simp only [List.append_assoc, List.cons_append, List.nil_append]
  rfl

theorem lexemes?_scopedText {tenant : String} (h : Tenant.isValid tenant = true) :
    lexemes? (e.scopedText tenant).toList =
      some (e.lexemes ++
        [.word "AND".toList, .word "tenant_id".toList, .colon, .string tenant.toList]) := by
  have hempty : lexemes? [] = some [] := by rw [lexemes?]
  have htenant := lexemes?_quotedString tenant.toList (by simp) hempty
  rw [List.append_nil] at htenant
  have hcolon := lexemes?_mark (c := ':') rfl (lexemes?_blank htenant)
  have hcolumn := lexemes?_word "tenant_id".toList (by decide) (by decide)
    (isSpecChar_head? (by decide)) (lexemes?_blank hcolon)
  have hand := lexemes?_word "AND".toList (by decide) (by decide)
    (isSpecChar_head? (by decide)) (lexemes?_blank hcolumn)
  have hread := lexemes?_chars_append e (lexemes?_blank hand)
  rw [scopedText, sanitize_tenant h, String.toList_ofList, List.append_assoc]
  exact hread

/-- An expression that is a frame around quoted terms. Between the quotes stand clean words that words and
phrases of the query ask for, and reading the expression gives the frame and those terms again, also with a
tenant behind it. -/
structure Inert (query : String) (e : Expression) : Prop where
  length : 1 ≤ e.required.length ∧ e.required.length + e.excluded.length ≤ 20
  required_clean : ∀ r ∈ e.required, r.Clean
  excluded_clean : ∀ word ∈ e.excluded, IsRun word
  text_eq : e.text.toList = e.plainText
  reads : lexemes? e.text.toList = some e.lexemes
  unquoted : ∀ text, Lexeme.string text ∈ e.lexemes → '"' ∉ text
  asked : ∃ tokens asking, Reads (pairedQuotes (query.toList.take maxQueryLength)) tokens ∧
    asking.Sublist tokens ∧ List.Forall₂ Asks asking (terms (query.toList.take maxQueryLength))
  required_eq : e.required = (terms (query.toList.take maxQueryLength)).filterMap Term.required?
  excluded_eq : e.excluded = (terms (query.toList.take maxQueryLength)).filterMap Term.excluded?
  narrowed : ∀ tenant, Tenant.isValid tenant = true →
    e.scopedText tenant = e.text ++ " AND tenant_id : \"" ++ tenant ++ "\"" ∧
      lexemes? (e.scopedText tenant).toList =
        some (e.lexemes ++
          [.word "AND".toList, .word "tenant_id".toList, .colon, .string tenant.toList])

theorem inert_of_ofText? (h : ofText? query = some e) : Inert query e := by
  obtain ⟨hrequired, hexcluded⟩ := clean_of_ofText? h
  obtain ⟨-, htaken, hleft⟩ := ofText?_eq_some h
  refine ⟨length_of_ofText? h, hrequired, hexcluded, ?_, ?_, ?_, exists_asking_terms _, htaken, hleft,
    fun tenant htenant => ⟨scopedText_eq htenant, lexemes?_scopedText htenant⟩⟩
  · rw [text, String.toList_ofList]
    exact chars_of_clean hrequired hexcluded
  · have hread : lexemes? (e.chars ++ []) = some (e.lexemes ++ []) :=
      lexemes?_chars_append e (by rw [lexemes?])
    rw [text, String.toList_ofList]
    simpa only [List.append_nil] using hread
  · intro text htext
    exact quote_notMem_lexemes hrequired hexcluded htext

theorem of_ofText?_eq_none (h : ofText? query = none) :
    (∃ sequence ∈ controlSequences, occursIn sequence (query.toList.take maxQueryLength) = true) ∨
      (terms (query.toList.take maxQueryLength)).filterMap Term.required? = [] := by
  simp only [ofText?] at h
  split at h
  · next hcontrol => exact .inl (List.any_eq_true.mp hcontrol)
  · simp only [ofTerms?] at h
    split at h
    · next hnone => exact .inr (List.isEmpty_iff.mp hnone)
    · cases h

/-- A query has an expression unless a control sequence occurs in it or it asks for nothing, and no
character of the query acts as syntax in its expression. -/
theorem ofText?_inert (query : String) :
    (ofText? query = none ∧
      ((∃ sequence ∈ controlSequences,
          occursIn sequence (query.toList.take maxQueryLength) = true) ∨
        (terms (query.toList.take maxQueryLength)).filterMap Term.required? = [])) ∨
    ∃ e, ofText? query = some e ∧ Inert query e := by
  cases h : ofText? query with
  | none => exact .inl ⟨rfl, of_ofText?_eq_none h⟩
  | some e => exact .inr ⟨e, rfl, inert_of_ofText? h⟩

/-- A column filter, an operator and a wildcard are words like others, and the phrase has no star. -/
theorem inert_columnFilter :
    ∃ e, ofText? "tenant_id:t2 OR \"late  fee\" -dra*ft" = some e ∧
      lexemes? e.text.toList = some e.lexemes ∧
      e.lexemes = [.openBrace, .word "title".toList, .word "content".toList, .closeBrace, .colon,
        .openParen, .openParen, .string "tenant_idt2".toList, .star, .string "OR".toList, .star,
        .string "late fee".toList, .closeParen, .word "NOT".toList, .string "draft".toList,
        .closeParen] ∧
      e.scopedText "t1" = e.text ++ " AND tenant_id : \"" ++ "t1" ++ "\"" := by
  have htext : ofText? "tenant_id:t2 OR \"late  fee\" -dra*ft" =
      some ⟨[.beginning "tenant_idt2".toList, .beginning "OR".toList,
        .phrase ["late".toList, "fee".toList]], ["draft".toList]⟩ := by decide +kernel
  rcases ofText?_inert "tenant_id:t2 OR \"late  fee\" -dra*ft" with ⟨hnone, -⟩ | ⟨e, he, hinert⟩
  · rw [htext] at hnone
    cases hnone
  · obtain rfl := Option.some.inj (htext.symm.trans he)
    exact ⟨_, htext, hinert.reads, by decide, (hinert.narrowed "t1" (by decide)).1⟩

end Expression

end HybridSearch.Query

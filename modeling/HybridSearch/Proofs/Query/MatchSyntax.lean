import HybridSearch.Analysis.Tokenizer
import HybridSearch.Proofs.Query.Reading
import HybridSearch.Tenant

/-!
# What the full-text engine reads

The query language of the full-text engine has marks, words and quoted strings; inside a quoted string a
quote is written twice. Read in that language, an expression has the marks and words of its own frame, and
its strings are the terms of the query: no character of the query is a mark or a word there, whatever the
query is.
-/
namespace HybridSearch.Query

inductive Lexeme where
  | openBrace
  | closeBrace
  | openParen
  | closeParen
  | colon
  | comma
  | plus
  | star
  | minus
  | caret
  | word (text : List Char)
  | string (text : List Char)
  deriving DecidableEq, Repr

def isBlank (c : Char) : Bool := c == ' ' || c == '\t' || c == '\n' || c == '\r'

def mark? : Char → Option Lexeme
  | '\x7b' => some .openBrace
  | '\x7d' => some .closeBrace
  | '(' => some .openParen
  | ')' => some .closeParen
  | ':' => some .colon
  | ',' => some .comma
  | '+' => some .plus
  | '*' => some .star
  | '-' => some .minus
  | '^' => some .caret
  | _ => none

/-- The characters up to the closing quote, and what stands behind it. -/
def unquote? : List Char → Option (List Char × List Char)
  | [] => none
  | '"' :: '"' :: rest => (unquote? rest).map fun r => ('"' :: r.1, r.2)
  | '"' :: rest => some ([], rest)
  | c :: rest => (unquote? rest).map fun r => (c :: r.1, r.2)

theorem length_of_unquote? {cs : List Char} {r : List Char × List Char} (h : unquote? cs = some r) :
    r.2.length < cs.length := by
  induction cs using unquote?.induct generalizing r with
  | case1 => cases h
  | case2 rest ih =>
    rw [unquote?] at h
    obtain ⟨s, hs, rfl⟩ := Option.map_eq_some_iff.mp h
    have hlt := ih hs
    simp only [List.length_cons]
    omega
  | case3 rest hsingle =>
    rw [unquote?] at h
    · obtain rfl := Option.some.inj h
      simp
    · exact hsingle
  | case4 c rest hdouble hsingle ih =>
    rw [unquote?] at h
    · obtain ⟨s, hs, rfl⟩ := Option.map_eq_some_iff.mp h
      have hlt := ih hs
      simp only [List.length_cons]
      omega
    · exact hdouble
    · exact hsingle

/-- The lexemes of a text; a string that is not closed or a character that no lexeme has is an error. -/
def lexemes? : List Char → Option (List Lexeme)
  | [] => some []
  | c :: cs =>
    if isBlank c then lexemes? cs
    else if c = '"' then
      match _h : unquote? cs with
      | none => none
      | some r => (lexemes? r.2).map (.string r.1 :: ·)
    else match mark? c with
      | some mark => (lexemes? cs).map (mark :: ·)
      | none =>
        if Analysis.isSpecChar c then
          (lexemes? (cs.dropWhile Analysis.isSpecChar)).map
            (.word (c :: cs.takeWhile Analysis.isSpecChar) :: ·)
        else none
termination_by cs => cs.length
decreasing_by
  all_goals
    simp only [List.length_cons]
  · omega
  · have hlt := length_of_unquote? _h
    omega
  · omega
  · have hle := length_dropWhile_le Analysis.isSpecChar cs
    omega

variable {rest : List Char} {lexed : List Lexeme}

theorem lexemes?_blank (h : lexemes? rest = some lexed) : lexemes? (' ' :: rest) = some lexed := by
  rw [lexemes?, if_pos (by decide), h]

theorem not_isBlank_of_mark? {c : Char} {mark : Lexeme} (h : mark? c = some mark) :
    isBlank c = false ∧ c ≠ '"' := by
  constructor
  · rw [Bool.eq_false_iff]
    intro hblank
    simp only [isBlank, Bool.or_eq_true, beq_iff_eq] at hblank
    rcases hblank with ((rfl | rfl) | rfl) | rfl <;> cases h
  · rintro rfl
    cases h

theorem lexemes?_mark {c : Char} {mark : Lexeme} (hmark : mark? c = some mark)
    (h : lexemes? rest = some lexed) : lexemes? (c :: rest) = some (mark :: lexed) := by
  obtain ⟨hblank, hquote⟩ := not_isBlank_of_mark? hmark
  rw [lexemes?, if_neg (by simp [hblank]), if_neg hquote]
  simp only [hmark, h, Option.map_some]

theorem isBlank_isSpecChar {c : Char} (h : Analysis.isSpecChar c = true) :
    isBlank c = false ∧ c ≠ '"' ∧ mark? c = none := by
  refine ⟨?_, ?_, ?_⟩
  · rw [Bool.eq_false_iff]
    intro hblank
    simp only [isBlank, Bool.or_eq_true, beq_iff_eq] at hblank
    rcases hblank with ((rfl | rfl) | rfl) | rfl <;> exact absurd h (by decide)
  · rintro rfl
    exact absurd h (by decide)
  · rw [Option.eq_none_iff_forall_ne_some]
    intro mark hmark
    unfold mark? at hmark
    split at hmark <;> first | exact absurd h (by decide) | cases hmark

theorem lexemes?_word (text : List Char) (hne : text ≠ [])
    (htext : text.all Analysis.isSpecChar = true)
    (hrest : ∀ c ∈ rest.head?, Analysis.isSpecChar c = false) (h : lexemes? rest = some lexed) :
    lexemes? (text ++ rest) = some (.word text :: lexed) := by
  rw [List.all_eq_true] at htext
  obtain ⟨c, cs, rfl⟩ := List.exists_cons_of_ne_nil hne
  have hfirst := htext c List.mem_cons_self
  obtain ⟨hblank, hquote, hmark⟩ := isBlank_isSpecChar hfirst
  obtain ⟨htake, hdrop⟩ := takeWhile_append_of_head?
    (fun d hd => htext d (List.mem_cons_of_mem _ hd)) hrest
  rw [List.cons_append, lexemes?, if_neg (by simp [hblank]), if_neg hquote]
  simp only [hmark, hfirst, if_true, htake, hdrop, h, Option.map_some]

theorem isSpecChar_head? {c : Char} (hc : Analysis.isSpecChar c = false) :
    ∀ d ∈ (c :: rest).head?, Analysis.isSpecChar d = false := by
  rintro d ⟨⟩
  exact hc

open Expression

/-- The quoted-string rule undoes the quoting, whatever the text and whatever stands behind it. -/
theorem unquote?_doubledQuote (text : List Char) (hrest : rest.head? ≠ some '"') :
    unquote? (text.flatMap doubledQuote ++ '"' :: rest) = some (text, rest) := by
  induction text with
  | nil =>
    rw [List.flatMap_nil, List.nil_append, unquote?]
    rintro after rfl
    exact hrest rfl
  | cons c text ih =>
    by_cases hc : c = '"'
    · subst hc
      rw [List.flatMap_cons, doubledQuote, if_pos rfl]
      simp only [List.cons_append, List.nil_append]
      rw [unquote?, ih]
      rfl
    · rw [List.flatMap_cons, doubledQuote, if_neg hc, List.cons_append, List.nil_append,
        List.cons_append, unquote?, ih]
      · rfl
      · rintro after rfl
        exact absurd rfl hc
      · rintro rfl
        exact absurd rfl hc

theorem lexemes?_quotedString (text : List Char) (hrest : rest.head? ≠ some '"')
    (h : lexemes? rest = some lexed) :
    lexemes? (quotedString text ++ rest) = some (.string text :: lexed) := by
  have hread := unquote?_doubledQuote text hrest
  rw [quotedString, List.cons_append, List.cons_append, List.append_assoc, List.singleton_append,
    lexemes?, if_neg (by decide), if_pos rfl]
  split
  · next hnone => rw [hread] at hnone; cases hnone
  · next r hsome =>
    rw [hread] at hsome
    obtain rfl := Option.some.inj hsome
    rw [h, Option.map_some]

theorem joinWords_eq_intercalate (words : List (List Char)) :
    joinWords words = [' '].intercalate words := by
  induction words using joinWords.induct with
  | case1 => rfl
  | case2 word => simp [joinWords, List.intercalate]
  | case3 word words hne ih =>
    rw [joinWords.eq_3 word words hne, ih]
    obtain ⟨next, words, rfl⟩ := List.exists_cons_of_ne_nil hne
    simp [List.intercalate]

/-- The words of a required string are runs of term characters. -/
def Required.Clean : Required → Prop
  | .beginning word => IsRun word
  | .phrase words => words ≠ [] ∧ ∀ word ∈ words, IsRun word

/-- A required string in quotes, and a star behind the beginning of a word. -/
def Required.plainText : Required → List Char
  | .beginning word => '"' :: (word ++ ['"', '*'])
  | .phrase words => '"' :: ([' '].intercalate words ++ ['"'])

def Required.lexemes : Required → List Lexeme
  | .beginning word => [.string word, .star]
  | .phrase words => [.string ([' '].intercalate words)]

namespace Expression

def plainText (e : Expression) : List Char :=
  "\x7btitle content\x7d : ((".toList ++ [' '].intercalate (e.required.map Required.plainText) ++
    [')'] ++ (e.excluded.flatMap fun word => " NOT \"".toList ++ word ++ ['"']) ++ [')']

/-- The frame of the expression, and its terms as strings. -/
def lexemes (e : Expression) : List Lexeme :=
  [.openBrace, .word "title".toList, .word "content".toList, .closeBrace, .colon, .openParen,
    .openParen] ++
    e.required.flatMap Required.lexemes ++ [.closeParen] ++
    (e.excluded.flatMap fun word => [.word "NOT".toList, .string word]) ++ [.closeParen]

end Expression

theorem quote_notMem_of_isRun {word : List Char} (h : IsRun word) : '"' ∉ word := by
  intro hmem
  exact absurd (h.2 '"' hmem) (by decide)

theorem quote_notMem_intercalate {words : List (List Char)} (h : ∀ word ∈ words, IsRun word) :
    '"' ∉ [' '].intercalate words := by
  rw [← joinWords_eq_intercalate]
  induction words using joinWords.induct with
  | case1 => exact List.not_mem_nil
  | case2 word => exact quote_notMem_of_isRun (h word List.mem_cons_self)
  | case3 word words hne ih =>
    obtain ⟨hword, hwords⟩ := List.forall_mem_cons.mp h
    rw [joinWords.eq_3 word words hne]
    simp only [List.mem_append, List.mem_cons, not_or]
    exact ⟨quote_notMem_of_isRun hword, by decide, ih hwords⟩

theorem quotedString_of_notMem {text : List Char} (h : '"' ∉ text) :
    quotedString text = '"' :: (text ++ ['"']) := by
  have hplain : text.flatMap doubledQuote = text := by
    rw [List.flatMap_congr (g := fun c => [c])]
    · exact List.flatMap_singleton' text
    · intro c hc
      rw [doubledQuote, if_neg]
      rintro rfl
      exact h hc
  rw [quotedString, hplain, List.cons_append]

theorem requiredText_of_clean {r : Required} (h : r.Clean) : requiredText r = r.plainText := by
  cases r with
  | beginning word =>
    rw [requiredText, quotedString_of_notMem (quote_notMem_of_isRun h), Required.plainText]
    simp
  | phrase words =>
    rw [requiredText, joinWords_eq_intercalate,
      quotedString_of_notMem (quote_notMem_intercalate h.2), Required.plainText]

theorem excludedText_of_isRun {word : List Char} (h : IsRun word) :
    excludedText word = " NOT \"".toList ++ word ++ ['"'] := by
  have hopening : " NOT \"".toList = " NOT ".toList ++ ['"'] := by decide
  rw [excludedText, quotedString_of_notMem (quote_notMem_of_isRun h), hopening]
  simp only [List.append_assoc, List.cons_append, List.nil_append]

theorem Expression.chars_of_clean {e : Expression} (hrequired : ∀ r ∈ e.required, r.Clean)
    (hexcluded : ∀ word ∈ e.excluded, IsRun word) : e.chars = e.plainText := by
  have hwritten : e.required.map requiredText = e.required.map Required.plainText :=
    List.map_congr_left fun r hr => requiredText_of_clean (hrequired r hr)
  have hplain : e.excluded.flatMap excludedText =
      e.excluded.flatMap fun word => " NOT \"".toList ++ word ++ ['"'] :=
    List.flatMap_congr fun word hword => excludedText_of_isRun (hexcluded word hword)
  unfold chars plainText
  rw [hwritten, hplain, joinWords_eq_intercalate]

theorem lexemes?_requiredText (r : Required) (hrest : rest.head? ≠ some '"')
    (h : lexemes? rest = some lexed) :
    lexemes? (requiredText r ++ rest) = some (r.lexemes ++ lexed) := by
  cases r with
  | beginning word =>
    rw [requiredText, List.append_assoc]
    exact lexemes?_quotedString word (by simp) (lexemes?_mark rfl h)
  | phrase words =>
    rw [requiredText, joinWords_eq_intercalate]
    exact lexemes?_quotedString _ hrest h

theorem lexemes?_required (rs : List Required) (hrest : rest.head? ≠ some '"')
    (h : lexemes? rest = some lexed) :
    lexemes? (joinWords (rs.map requiredText) ++ rest) =
      some (rs.flatMap Required.lexemes ++ lexed) := by
  induction rs with
  | nil => exact h
  | cons r rs ih =>
    cases rs with
    | nil =>
      rw [List.map_singleton, joinWords, List.flatMap_cons, List.flatMap_nil, List.append_nil]
      exact lexemes?_requiredText r hrest h
    | cons next rs =>
      have hjoined : joinWords ((r :: next :: rs).map requiredText) =
          requiredText r ++ ' ' :: joinWords ((next :: rs).map requiredText) := rfl
      rw [hjoined, List.flatMap_cons, List.append_assoc, List.append_assoc]
      refine lexemes?_requiredText r (by simp) ?_
      exact lexemes?_blank ih

theorem head?_excluded (words : List (List Char)) (hrest : rest.head? ≠ some '"') :
    (words.flatMap excludedText ++ rest).head? ≠ some '"' := by
  cases words with
  | nil => exact hrest
  | cons word words =>
    have hspace : ((word :: words).flatMap excludedText ++ rest).head? = some ' ' := rfl
    rw [hspace]
    decide

theorem lexemes?_excluded (words : List (List Char)) (hrest : rest.head? ≠ some '"')
    (h : lexemes? rest = some lexed) :
    lexemes? (words.flatMap excludedText ++ rest) =
      some ((words.flatMap fun word => [.word "NOT".toList, .string word]) ++ lexed) := by
  induction words with
  | nil => exact h
  | cons word words ih =>
    have hcut : (word :: words).flatMap excludedText ++ rest =
        ' ' :: ("NOT".toList ++ ' ' :: (quotedString word ++ (words.flatMap excludedText ++ rest))) := by
      rw [List.flatMap_cons, excludedText, List.append_assoc, List.append_assoc]
      rfl
    rw [hcut]
    have hword := lexemes?_quotedString word (head?_excluded words hrest) ih
    have hnot := lexemes?_word "NOT".toList (by decide) (by decide)
      (isSpecChar_head? (by decide)) (lexemes?_blank hword)
    exact lexemes?_blank hnot

theorem lexemes?_opening (h : lexemes? rest = some lexed) :
    lexemes? ("\x7btitle content\x7d : ((".toList ++ rest) =
      some ([.openBrace, .word "title".toList, .word "content".toList, .closeBrace, .colon,
        .openParen, .openParen] ++ lexed) := by
  have hcut : "\x7btitle content\x7d : ((".toList ++ rest =
      '\x7b' :: ("title".toList ++ ' ' :: ("content".toList ++
        '\x7d' :: ' ' :: ':' :: ' ' :: '(' :: '(' :: rest)) := by
    rfl
  have hparens : lexemes? (' ' :: '(' :: '(' :: rest) = some (.openParen :: .openParen :: lexed) :=
    lexemes?_blank (lexemes?_mark rfl (lexemes?_mark rfl h))
  have hcolon : lexemes? ('\x7d' :: ' ' :: ':' :: ' ' :: '(' :: '(' :: rest) =
      some (.closeBrace :: .colon :: .openParen :: .openParen :: lexed) :=
    lexemes?_mark rfl (lexemes?_blank (lexemes?_mark rfl hparens))
  have hcontent := lexemes?_word "content".toList (by decide) (by decide)
    (isSpecChar_head? (by decide)) hcolon
  have htitle := lexemes?_word "title".toList (by decide) (by decide)
    (isSpecChar_head? (by decide)) (lexemes?_blank hcontent)
  rw [hcut]
  exact lexemes?_mark rfl htitle

theorem lexemes?_chars_append (e : Expression) (h : lexemes? rest = some lexed) :
    lexemes? (e.chars ++ rest) = some (e.lexemes ++ lexed) := by
  have hclose : lexemes? (')' :: rest) = some (.closeParen :: lexed) := lexemes?_mark rfl h
  have hexcluded := lexemes?_excluded e.excluded (by simp) hclose
  have hrequired := lexemes?_required e.required (by simp) (lexemes?_mark (c := ')') rfl hexcluded)
  have hopening := lexemes?_opening hrequired
  unfold chars Expression.lexemes
  simp only [List.append_assoc, List.singleton_append]
  exact hopening

end HybridSearch.Query

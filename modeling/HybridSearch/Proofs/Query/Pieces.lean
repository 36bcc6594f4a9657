import HybridSearch.Proofs.Query.Reading

/-!
# Pieces of a query

The quotes of a query cut it into pieces that stand outside and inside of quotes in turn. What is read is the
words of each piece outside and each piece inside as it stands, so that nothing is lost but the quotes and the
white space outside of them. Where the quotes do not pair up, the whole query is one piece outside.
-/
namespace HybridSearch.Query

namespace Token

def text : Token → List Char
  | .word text => text
  | .phrase text => text

def phrase? : Token → Option (List Char)
  | .word _ => none
  | .phrase text => some text

end Token

/-- The elements at the second place, the fourth, and so on. -/
def everySecond {α : Type} : List α → List α
  | [] => []
  | [_] => []
  | _ :: x :: xs => x :: everySecond xs

/-- The words of the pieces outside of quotes, and the pieces inside, in turn. -/
def readPieces : List (List Char) → List Token
  | [] => []
  | [outside] => (Text.splitWords outside).map .word
  | outside :: inside :: rest =>
    (Text.splitWords outside).map .word ++ .phrase inside :: readPieces rest

theorem length_everySecond {α : Type} (xs : List α) : (everySecond xs).length = xs.length / 2 := by
  fun_induction everySecond xs with
  | case1 => simp
  | case2 => simp
  | case3 _ x xs ih => simp [ih]; omega

theorem phrases_readPieces (pieces : List (List Char)) :
    (readPieces pieces).filterMap Token.phrase? = everySecond pieces := by
  have hwords (piece : List Char) : ((Text.splitWords piece).map Token.word).filterMap Token.phrase? = [] := by
    simp [List.filterMap_map, Function.comp_def, Token.phrase?]
  fun_induction readPieces pieces with
  | case1 => rfl
  | case2 outside => exact hwords outside
  | case3 outside inside rest ih => simp [hwords, Token.phrase?, everySecond, ih]

theorem exists_piece_of_word {pieces : List (List Char)} {text : List Char}
    (h : .word text ∈ readPieces pieces) : ∃ piece ∈ pieces, text ∈ Text.splitWords piece := by
  fun_induction readPieces pieces with
  | case1 => simp at h
  | case2 outside => exact ⟨outside, by simp, by simpa using h⟩
  | case3 outside inside rest ih =>
    simp only [List.mem_append, List.mem_map, Token.word.injEq, exists_eq_right, List.mem_cons,
      reduceCtorEq, false_or] at h
    rcases h with h | h
    · exact ⟨outside, by simp, h⟩
    · obtain ⟨piece, hpiece, htext⟩ := ih h
      exact ⟨piece, by simp [hpiece], htext⟩

theorem readPieces_of_splitWords {piece rest : List Char} {words : List (List Char)}
    (h : Text.splitWords piece = words ++ Text.splitWords rest) (pieces : List (List Char)) :
    readPieces (piece :: pieces) = words.map .word ++ readPieces (rest :: pieces) := by
  cases pieces <;> simp [readPieces, h]

theorem splitOn_append_of_notMem {text : List Char} (htext : '"' ∉ text) {rest piece : List Char}
    {pieces : List (List Char)} (hrest : rest.splitOn '"' = piece :: pieces) :
    (text ++ rest).splitOn '"' = (text ++ piece) :: pieces := by
  induction text with
  | nil => exact hrest
  | cons c text ih =>
    simp only [List.mem_cons, not_or] at htext
    simp [List.splitOn_cons_eq_if_modifyHead, Ne.symm htext.1, ih htext.2]

theorem head?_of_splitOn {rest piece : List Char} {pieces : List (List Char)}
    (hrest : rest.splitOn '"' = piece :: pieces) : ∀ c ∈ piece.head?, c ∈ rest.head? ∧ c ≠ '"' := by
  cases rest with
  | nil =>
    obtain ⟨rfl, -⟩ : [] = piece ∧ [] = pieces := by simpa using hrest
    simp
  | cons d rest =>
    rw [List.splitOn_cons_eq_if_modifyHead] at hrest
    split at hrest
    · obtain ⟨rfl, -⟩ := List.cons.inj hrest
      simp
    · next hd =>
      obtain ⟨first, others, hfirst⟩ := List.exists_cons_of_ne_nil (List.splitOn_ne_nil '"' rest)
      rw [hfirst, List.modifyHead_cons] at hrest
      obtain ⟨rfl, -⟩ := List.cons.inj hrest
      simpa using hd

theorem Reads.eq_readPieces {cs : List Char} {tokens : List Token} (h : Reads cs tokens) :
    tokens = readPieces (cs.splitOn '"') := by
  induction h with
  | done => simp [readPieces, Text.splitWords, Text.splitWordsFrom]
  | @blank c rest tokens hc _ ih =>
    obtain ⟨piece, pieces, hpieces⟩ := List.exists_cons_of_ne_nil (List.splitOn_ne_nil '"' rest)
    have hquote : '"' ∉ [c] := by simpa using (ne_quote_of_isWhitespace hc).symm
    have hwords : Text.splitWords (c :: piece) = [] ++ Text.splitWords piece :=
      Text.splitWords_cons_of_blank hc piece
    have hsplit : (c :: rest).splitOn '"' = (c :: piece) :: pieces := splitOn_append_of_notMem hquote hpieces
    rw [ih, hsplit, hpieces, readPieces_of_splitWords hwords, List.map_nil, List.nil_append]
  | @phrase text rest tokens htext _ ih =>
    rw [List.splitOn_cons_eq_if_modifyHead, if_pos (by simp),
      List.splitOn_append_cons_self_of_not_mem htext, ih]
    simp [readPieces, Text.splitWords, Text.splitWordsFrom]
  | @word text rest tokens hne htext hrest _ ih =>
    obtain ⟨piece, pieces, hpieces⟩ := List.exists_cons_of_ne_nil (List.splitOn_ne_nil '"' rest)
    have hquote : '"' ∉ text := fun hmem => (isWordChar_iff.mp (htext '"' hmem)).2 rfl
    have hplain : ∀ c ∈ text, Text.isWhitespace c = false := fun c hc => (isWordChar_iff.mp (htext c hc)).1
    -- no quote ends the word here, so that white space does
    have hblank : ∀ c ∈ piece.head?, Text.isWhitespace c = true := by
      intro c hc
      obtain ⟨hfirst, hne⟩ := head?_of_splitOn hpieces c hc
      simpa [isWordChar, hne] using hrest c hfirst
    have hwords : Text.splitWords (text ++ piece) = [text] ++ Text.splitWords piece :=
      Text.splitWords_append hne hplain hblank
    rw [ih, splitOn_append_of_notMem hquote hpieces, hpieces, readPieces_of_splitWords hwords]
    rfl

theorem tokenize_eq_readPieces (cs : List Char) :
    tokenize cs = readPieces ((pairedQuotes cs).splitOn '"') :=
  (reads_pairedQuotes_iff.mpr rfl).eq_readPieces

/-- The text without its quotes and without the white space outside of them; `inside` tells on which side of a
quote the text begins. -/
def withoutQuotes (inside : Bool) : List Char → List Char
  | [] => []
  | c :: cs =>
    if c = '"' then withoutQuotes (!inside) cs
    else if !inside && Text.isWhitespace c then withoutQuotes inside cs
    else c :: withoutQuotes inside cs

theorem withoutQuotes_append {inside : Bool} {text : List Char}
    (htext : ∀ c ∈ text, c ≠ '"' ∧ (inside = false → Text.isWhitespace c = false)) (rest : List Char) :
    withoutQuotes inside (text ++ rest) = text ++ withoutQuotes inside rest := by
  induction text with
  | nil => rfl
  | cons c text ih =>
    obtain ⟨⟨hquote, hblank⟩, htext⟩ := List.forall_mem_cons.mp htext
    have hkept : (!inside && Text.isWhitespace c) = false := by
      cases inside with
      | false => simpa using hblank rfl
      | true => rfl
    simp [withoutQuotes, hquote, hkept, ih htext]

theorem Reads.text_eq {cs : List Char} {tokens : List Token} (h : Reads cs tokens) :
    tokens.flatMap Token.text = withoutQuotes false cs := by
  induction h with
  | done => rfl
  | @blank c rest tokens hc _ ih => simp [withoutQuotes, ne_quote_of_isWhitespace hc, hc, ih]
  | @phrase text rest tokens htext _ ih =>
    have hinside : ∀ c ∈ text, c ≠ '"' ∧ (true = false → Text.isWhitespace c = false) := by
      refine fun c hc => ⟨?_, nofun⟩
      rintro rfl
      exact htext hc
    simp [withoutQuotes, withoutQuotes_append hinside, Token.text, ih]
  | @word text rest tokens hne htext hrest _ ih =>
    have houtside : ∀ c ∈ text, c ≠ '"' ∧ (false = false → Text.isWhitespace c = false) := by
      intro c hc
      obtain ⟨hblank, hquote⟩ := isWordChar_iff.mp (htext c hc)
      exact ⟨hquote, fun _ => hblank⟩
    simp [withoutQuotes_append houtside, Token.text, ih]

/-- Nothing but quotes and white space outside of them is lost: a phrase for each pair of quotes, the words
of what stands outside, and all of it in the order of the text. -/
structure Lossless (cs : List Char) (tokens : List Token) : Prop where
  pieces : tokens = readPieces (cs.splitOn '"')
  pairs : 2 * (tokens.filterMap Token.phrase?).length = cs.count '"'
  phrases : tokens.filterMap Token.phrase? = everySecond (cs.splitOn '"')
  words : ∀ text, .word text ∈ tokens → text ≠ [] ∧ ∀ c ∈ text, Text.isWhitespace c = false ∧ c ≠ '"'
  text : tokens.flatMap Token.text = withoutQuotes false cs

theorem Reads.lossless {cs : List Char} {tokens : List Token} (h : Reads cs tokens)
    (heven : cs.count '"' % 2 = 0) : Lossless cs tokens := by
  have hphrases : tokens.filterMap Token.phrase? = everySecond (cs.splitOn '"') := by
    rw [h.eq_readPieces, phrases_readPieces]
  have hlength : (cs.splitOn '"').length = cs.count '"' + 1 := Text.length_splitOnP _ cs
  refine ⟨h.eq_readPieces, ?_, hphrases, fun text htext => ?_, h.text_eq⟩
  · rw [hphrases, length_everySecond, hlength]
    omega
  · rw [h.eq_readPieces] at htext
    obtain ⟨piece, hpiece, hword⟩ := exists_piece_of_word htext
    obtain ⟨hne, hchars⟩ := Text.of_mem_splitWords hword
    refine ⟨hne, fun c hc => ?_⟩
    obtain ⟨hmem, hblank⟩ := hchars c hc
    have hquote := (Text.of_mem_splitOnP hpiece c hmem).2
    exact ⟨hblank, by simpa using hquote⟩

/-- Where the quotes pair up, nothing is lost but them and the white space outside of them; otherwise a quote is
read as a space, and there are words only. -/
theorem tokenize_lossless (cs : List Char) :
    if cs.count '"' % 2 = 0 then Lossless cs (tokenize cs)
    else tokenize cs =
      (((cs.map quoteToSpace).splitOnP Text.isWhitespace).filter (!·.isEmpty)).map .word := by
  split
  · next heven =>
    have hreads : Reads (pairedQuotes cs) (tokenize cs) := reads_pairedQuotes_iff.mpr rfl
    rw [pairedQuotes, if_pos heven] at hreads
    exact hreads.lossless heven
  · next hodd =>
    have hquote : '"' ∉ cs.map quoteToSpace := List.count_eq_zero.mp (count_quoteToSpace cs)
    rw [tokenize_eq_readPieces, pairedQuotes, if_neg hodd, List.splitOn_eq_singleton hquote, readPieces,
      Text.splitWords_eq]

/-- Words and phrases without white space between them, an empty phrase and a quote at the end. -/
example : tokenize "ab\"c d\"e \"\" f\"\"".toList =
    [.word ['a', 'b'], .phrase ['c', ' ', 'd'], .word ['e'], .phrase [], .word ['f'], .phrase []] := by
  decide +kernel

end HybridSearch.Query

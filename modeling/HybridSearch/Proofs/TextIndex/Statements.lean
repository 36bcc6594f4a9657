import HybridSearch.Proofs.Config.TextConfig
import HybridSearch.Proofs.Except
import HybridSearch.TextIndex.Index

/-!
# What the database reads in the statements that create the tables

The database cuts a text into words, quoted literals and names, and marks, and passes over blanks and
comments. Cut like this, the statements that create the tables are the words and marks of their own frame, a
word for each name that is made from the prefix, and one literal for the tokenizer: no character of accepted
settings ends the name or the literal that it stands in.
-/
namespace HybridSearch

namespace Sql

/-- A word is a name, a keyword or a number; a mark is any other character on its own. -/
inductive Token where
  | word (text : List Char)
  | literal (text : List Char)
  | quotedName (text : List Char)
  | mark (c : Char)
  | unclosed (text : List Char)
  deriving DecidableEq, Repr

/-- What the next character may belong to; `read` holds the characters of an unfinished token reversed. -/
inductive Mode where
  | between
  | word (read : List Char)
  | quoted (quote : Char) (read : List Char)
  /-- A quote has been read inside quotes: it ends the token, unless it is written twice. -/
  | quotedTo (quote : Char) (read : List Char)
  | bracketed (read : List Char)
  | dash
  | slash
  | lineComment
  | blockComment
  | blockCommentStar
  deriving DecidableEq, Repr

def isBlank (c : Char) : Bool := c == ' ' || c == '\t' || c == '\n' || c == '\x0c' || c == '\r'

def isWordChar (c : Char) : Bool :=
  Text.isAsciiAlphanumeric c || c == '_' || c == '$' || decide (0x80 ≤ c.toNat)

def literalQuote : Char := '\x27'

def quotes : List Char := [literalQuote, '"', '\x60']

def unquoted (quote : Char) (text : List Char) : Token :=
  if quote = literalQuote then .literal text else .quotedName text

def start (c : Char) : List Token × Mode :=
  if isBlank c then ([], .between)
  else if isWordChar c then ([], .word [c])
  else if quotes.contains c then ([], .quoted c [])
  else if c = '[' then ([], .bracketed [])
  else if c = '-' then ([], .dash)
  else if c = '/' then ([], .slash)
  else ([.mark c], .between)

def endBefore (token : Token) (c : Char) : List Token × Mode := (token :: (start c).1, (start c).2)

def step : Mode → Char → List Token × Mode
  | .between, c => start c
  | .word read, c => if isWordChar c then ([], .word (c :: read)) else endBefore (.word read.reverse) c
  | .quoted quote read, c =>
    if c = quote then ([], .quotedTo quote read) else ([], .quoted quote (c :: read))
  | .quotedTo quote read, c =>
    if c = quote then ([], .quoted quote (c :: read)) else endBefore (unquoted quote read.reverse) c
  | .bracketed read, c =>
    if c = ']' then ([.quotedName read.reverse], .between) else ([], .bracketed (c :: read))
  | .dash, c => if c = '-' then ([], .lineComment) else endBefore (.mark '-') c
  | .slash, c => if c = '*' then ([], .blockComment) else endBefore (.mark '/') c
  | .lineComment, c => if c = '\n' then ([], .between) else ([], .lineComment)
  | .blockComment, c => if c = '*' then ([], .blockCommentStar) else ([], .blockComment)
  | .blockCommentStar, c =>
    if c = '/' then ([], .between) else if c = '*' then ([], .blockCommentStar) else ([], .blockComment)

/-- The tokens that the characters complete, and the mode behind them. -/
def run : Mode → List Char → List Token × Mode
  | m, [] => ([], m)
  | m, c :: cs => ((step m c).1 ++ (run (step m c).2 cs).1, (run (step m c).2 cs).2)

def finish : Mode → List Token
  | .between | .lineComment | .blockComment | .blockCommentStar => []
  | .word read => [.word read.reverse]
  | .quoted _ read | .bracketed read => [.unclosed read.reverse]
  | .quotedTo quote read => [unquoted quote read.reverse]
  | .dash => [.mark '-']
  | .slash => [.mark '/']

def tokens (cs : List Char) : List Token := (run .between cs).1 ++ finish (run .between cs).2

/-- The text is cut into these tokens, whatever stands behind it. -/
def Yields (cs : List Char) (ts : List Token) : Prop := run .between cs = (ts, .between)

instance (cs : List Char) (ts : List Token) : Decidable (Yields cs ts) :=
  inferInstanceAs (Decidable (run .between cs = (ts, .between)))

variable {cs ds : List Char} {ts us : List Token} {c : Char}

theorem run_append (m : Mode) (cs ds : List Char) :
    run m (cs ++ ds) = ((run m cs).1 ++ (run (run m cs).2 ds).1, (run (run m cs).2 ds).2) := by
  induction cs generalizing m with
  | nil => rfl
  | cons c cs ih => rw [List.cons_append, run, ih, run, List.append_assoc]

theorem Yields.tokens (h : Yields cs ts) : tokens cs = ts := by
  rw [Sql.tokens, h, finish, List.append_nil]

theorem Yields.append (h : Yields cs ts) (hbehind : Yields ds us) : Yields (cs ++ ds) (ts ++ us) := by
  rw [Yields, run_append, h, hbehind]

theorem Yields.append_toList {s t : String} (h : Yields s.toList ts) (hbehind : Yields t.toList us) :
    Yields (s ++ t).toList (ts ++ us) := by
  rw [String.toList_append]
  exact h.append hbehind

theorem start_of_isWordChar (h : isWordChar c = true) : start c = ([], .word [c]) := by
  have hblank : isBlank c = false := by
    rw [Bool.eq_false_iff]
    intro hblank
    simp only [isBlank, Bool.or_eq_true, beq_iff_eq] at hblank
    rcases hblank with (((rfl | rfl) | rfl) | rfl) | rfl <;> exact absurd h (by decide)
  rw [start, if_neg (by simp [hblank]), if_pos h]

/-- A token that ends before a character leaves the rest to be cut as if nothing stood before it. -/
theorem run_of_endBefore {m : Mode} {token : Token} (h : step m c = endBefore token c) :
    run m (c :: cs) = (token :: (run .between (c :: cs)).1, (run .between (c :: cs)).2) := by
  rw [run, h]
  rfl

theorem run_word {text : List Char} (h : ∀ c ∈ text, isWordChar c = true) (read : List Char) :
    run (.word read) text = ([], .word (text.reverse ++ read)) := by
  induction text generalizing read with
  | nil => rfl
  | cons c text ih =>
    obtain ⟨hc, htext⟩ := List.forall_mem_cons.mp h
    rw [run, step, if_pos hc, ih htext, List.reverse_cons, List.append_assoc, List.singleton_append,
      List.nil_append]

theorem Yields.word {text : List Char} (hne : text ≠ []) (htext : ∀ c ∈ text, isWordChar c = true)
    (hhead : cs.head? = some c) (hc : isWordChar c = false) (h : Yields cs ts) :
    Yields (text ++ cs) (.word text :: ts) := by
  obtain ⟨cs, rfl⟩ := List.head?_eq_some_iff.mp hhead
  obtain ⟨d, text, rfl⟩ := List.exists_cons_of_ne_nil hne
  obtain ⟨hd, htext⟩ := List.forall_mem_cons.mp htext
  have hread : run .between (d :: text) = ([], .word (d :: text).reverse) := by
    rw [run, step, start_of_isWordChar hd, run_word htext, List.reverse_cons, List.nil_append]
  have hend : step (.word (d :: text).reverse) c = endBefore (.word (d :: text)) c := by
    rw [step, if_neg (by simp [hc]), List.reverse_reverse]
  rw [Yields, run_append, hread, run_of_endBefore hend, h, List.nil_append]

theorem run_quoted {quote : Char} {text : List Char} (h : quote ∉ text) (read : List Char) :
    run (.quoted quote read) text = ([], .quoted quote (text.reverse ++ read)) := by
  induction text generalizing read with
  | nil => rfl
  | cons c text ih =>
    rw [List.mem_cons, not_or] at h
    rw [run, step, if_neg (Ne.symm h.1), ih h.2, List.reverse_cons, List.append_assoc,
      List.singleton_append, List.nil_append]

/-- Text without quotes between an opening and a closing quote is one literal when no quote stands behind
it. -/
theorem Yields.literal {opening text : List Char} {us : List Token}
    (hopening : run .between opening = (us, .quoted literalQuote [])) (htext : literalQuote ∉ text)
    (hhead : cs.head? = some c) (hc : c ≠ literalQuote) (h : Yields cs ts) :
    Yields (opening ++ text ++ literalQuote :: cs) (us ++ .literal text :: ts) := by
  obtain ⟨cs, rfl⟩ := List.head?_eq_some_iff.mp hhead
  have hread : run .between (opening ++ text) = (us, .quoted literalQuote text.reverse) := by
    rw [run_append, hopening, run_quoted htext, List.append_nil, List.append_nil]
  have hclosed : step (.quoted literalQuote text.reverse) literalQuote =
      ([], .quotedTo literalQuote text.reverse) := by
    rw [step, if_pos rfl]
  have hend : step (.quotedTo literalQuote text.reverse) c = endBefore (.literal text) c := by
    rw [step, if_neg hc, unquoted, if_pos rfl, List.reverse_reverse]
  rw [Yields, run_append, hread, run, hclosed, run_of_endBefore hend, h, List.nil_append]

/-- A quote inside the text ends the literal early. -/
example : Sql.tokens "'a'b'".toList = [.literal ['a'], .word ['b'], .unclosed []] := by decide

end Sql

namespace TextIndex

open Sql (Token Yields)

def wordTokens (text : String) : List Token := (Text.splitWords text.toList).map .word

def commaSeparated (items : List String) : List Token := [Token.mark ','].intercalate (items.map wordTokens)

def textColumnTokens : List Token :=
  commaSeparated ["docid UNINDEXED", "tenant_id", "doc_type", "title", "content", "metadata UNINDEXED",
    "tokenize"] ++ [.mark '=']

def listingColumnTokens : List Token :=
  commaSeparated ["docid TEXT PRIMARY KEY", "tenant_id TEXT NOT NULL", "doc_type TEXT NOT NULL",
    "title TEXT", "content_length INTEGER NOT NULL DEFAULT 0", "created_at INTEGER NOT NULL",
    "updated_at INTEGER NOT NULL"] ++ [.mark ')', .mark ';']

/-- The table that finds the texts, with its tokenizer. -/
def textTokens (name tokenizer : String) : List Token :=
  wordTokens "CREATE VIRTUAL TABLE IF NOT EXISTS" ++
    .word name.toList :: (wordTokens "USING fts5" ++ [.mark '(']) ++
    (textColumnTokens ++ .literal tokenizer.toList :: [.mark ')', .mark ';'])

def listingTokens (name : String) : List Token :=
  wordTokens "CREATE TABLE IF NOT EXISTS" ++ .word name.toList :: [.mark '('] ++ listingColumnTokens

def indexTokens (listing suffix column : String) : List Token :=
  wordTokens "CREATE INDEX IF NOT EXISTS" ++
    .word ("idx_" ++ listing ++ suffix).toList :: [.word "ON".toList] ++
    .word listing.toList :: [.mark '(', .word column.toList, .mark ')', .mark ';']

/-- The frame of the statements, a word for each name that the prefix makes, and the tokenizer. -/
def createTokens (c : TextConfig) : List Token :=
  let listing := c.tablePrefix ++ "_meta"
  textTokens (c.tablePrefix ++ "_fts") c.tokenizer ++ listingTokens listing ++
    indexTokens listing "_tenant" "tenant_id" ++ indexTokens listing "_type" "doc_type" ++
    indexTokens listing "_created" "created_at"

def columnGap : String := "\n                "

def lineGap : String := "\n            "

def textColumns : String :=
  columnGap ++ "docid UNINDEXED," ++ columnGap ++ "tenant_id," ++ columnGap ++ "doc_type," ++
    columnGap ++ "title," ++ columnGap ++ "content," ++ columnGap ++ "metadata UNINDEXED," ++
    columnGap ++ "tokenize = '"

def listingColumns : String :=
  columnGap ++ "docid TEXT PRIMARY KEY," ++ columnGap ++ "tenant_id TEXT NOT NULL," ++
    columnGap ++ "doc_type TEXT NOT NULL," ++ columnGap ++ "title TEXT," ++
    columnGap ++ "content_length INTEGER NOT NULL DEFAULT 0," ++
    columnGap ++ "created_at INTEGER NOT NULL," ++ columnGap ++ "updated_at INTEGER NOT NULL" ++ lineGap ++ ");"

def textStatement (name tokenizer : String) : String :=
  "CREATE VIRTUAL TABLE IF NOT EXISTS " ++ (name ++ " USING fts5(") ++
    (textColumns ++ tokenizer ++ ("'" ++ (lineGap ++ ");")))

def listingStatement (name : String) : String :=
  lineGap ++ "CREATE TABLE IF NOT EXISTS " ++ (name ++ " (") ++ listingColumns

def indexStatement (listing suffix column : String) : String :=
  lineGap ++ "CREATE INDEX IF NOT EXISTS " ++ ("idx_" ++ listing ++ suffix ++ " ON ") ++
    (listing ++ ("(" ++ (column ++ ");")))

theorem createStatements_eq (c : TextConfig) :
    createStatements c =
      textStatement (c.tablePrefix ++ "_fts") c.tokenizer ++ listingStatement (c.tablePrefix ++ "_meta") ++
        indexStatement (c.tablePrefix ++ "_meta") "_tenant" "tenant_id" ++
        indexStatement (c.tablePrefix ++ "_meta") "_type" "doc_type" ++
        indexStatement (c.tablePrefix ++ "_meta") "_created" "created_at" := by
  have hopening : "CREATE INDEX IF NOT EXISTS idx_" = "CREATE INDEX IF NOT EXISTS " ++ "idx_" := by decide
  have hsuffixes : "_tenant ON " = "_tenant" ++ " ON " ∧ "_type ON " = "_type" ++ " ON " ∧
      "_created ON " = "_created" ++ " ON " := by decide
  have hcolumns : "(tenant_id);" = "(" ++ "tenant_id" ++ ");" ∧ "(doc_type);" = "(" ++ "doc_type" ++ ");" ∧
      "(created_at);" = "(" ++ "created_at" ++ ");" := by decide
  unfold createStatements textStatement listingStatement indexStatement textColumns listingColumns
  unfold columnGap lineGap
  dsimp only
  simp only [hopening, hsuffixes, hcolumns, String.append_assoc]

theorem run_textColumns :
    Sql.run .between textColumns.toList = (textColumnTokens, .quoted Sql.literalQuote []) := by
  unfold textColumns
  simp only [String.toList_append]
  decide +kernel

theorem yields_listingColumns : Yields listingColumns.toList listingColumnTokens := by
  unfold listingColumns
  simp only [String.toList_append]
  decide +kernel

section

variable {name : String} (hne : name ≠ "") (hname : ∀ c ∈ name.toList, Sql.isWordChar c = true)
include hne hname

theorem yields_name {c : Char} {behind : String} {ts : List Token} (hhead : behind.toList.head? = some c)
    (hc : Sql.isWordChar c = false) (h : Yields behind.toList ts) :
    Yields (name ++ behind).toList (.word name.toList :: ts) := by
  rw [String.toList_append]
  exact Yields.word (mt String.toList_eq_nil_iff.mp hne) hname hhead hc h

theorem yields_textStatement {tokenizer : String} (htokenizer : Sql.literalQuote ∉ tokenizer.toList) :
    Yields (textStatement name tokenizer).toList (textTokens name tokenizer) := by
  have hcreate : Yields "CREATE VIRTUAL TABLE IF NOT EXISTS ".toList
      (wordTokens "CREATE VIRTUAL TABLE IF NOT EXISTS") := by decide +kernel
  have htable : Yields (name ++ " USING fts5(").toList
      (.word name.toList :: (wordTokens "USING fts5" ++ [.mark '('])) :=
    yields_name hne hname (c := ' ') (by decide) (by decide) (by decide +kernel)
  have hcolumns : Yields (textColumns ++ tokenizer ++ ("'" ++ (lineGap ++ ");"))).toList
      (textColumnTokens ++ .literal tokenizer.toList :: [.mark ')', .mark ';']) := by
    have hclosing : Yields (lineGap.toList ++ ");".toList) [.mark ')', .mark ';'] := by decide +kernel
    have hquote : "'".toList = [Sql.literalQuote] := by decide
    simp only [String.toList_append, hquote, List.singleton_append]
    exact Yields.literal run_textColumns htokenizer (c := '\n') (by decide +kernel) (by decide) hclosing
  exact (hcreate.append_toList htable).append_toList hcolumns

theorem yields_listingStatement :
    Yields (listingStatement name).toList (listingTokens name) := by
  have hcreate : Yields (lineGap ++ "CREATE TABLE IF NOT EXISTS ").toList
      (wordTokens "CREATE TABLE IF NOT EXISTS") := by decide +kernel
  have htable : Yields (name ++ " (").toList (.word name.toList :: [.mark '(']) :=
    yields_name hne hname (c := ' ') (by decide) (by decide) (by decide +kernel)
  exact (hcreate.append_toList htable).append_toList yields_listingColumns

theorem yields_indexStatement {suffix column : String}
    (hsuffix : suffix.toList.all Sql.isWordChar = true) (hcolumn : column ≠ "")
    (hcolumnChars : column.toList.all Sql.isWordChar = true) :
    Yields (indexStatement name suffix column).toList (indexTokens name suffix column) := by
  have hcreate : Yields (lineGap ++ "CREATE INDEX IF NOT EXISTS ").toList
      (wordTokens "CREATE INDEX IF NOT EXISTS") := by decide +kernel
  have hindexName : ∀ c ∈ ("idx_" ++ name ++ suffix).toList, Sql.isWordChar c = true := by
    simp only [String.toList_append, List.forall_mem_append]
    exact ⟨⟨List.all_eq_true.mp (by decide), hname⟩, List.all_eq_true.mp hsuffix⟩
  have hindex : Yields ("idx_" ++ name ++ suffix ++ " ON ").toList
      (.word ("idx_" ++ name ++ suffix).toList :: [.word "ON".toList]) :=
    yields_name (by simp) hindexName (c := ' ') (by decide) (by decide) (by decide +kernel)
  have hinside : Yields ("(" ++ (column ++ ");")).toList
      (.mark '(' :: .word column.toList :: [.mark ')', .mark ';']) := by
    have hopen : Yields "(".toList [.mark '('] := by decide
    have hinner := List.all_eq_true.mp hcolumnChars
    exact hopen.append_toList (yields_name hcolumn hinner (c := ')') (by decide) (by decide) (by decide))
  have htable : Yields (name ++ ("(" ++ (column ++ ");"))).toList
      (.word name.toList :: .mark '(' :: .word column.toList :: [.mark ')', .mark ';']) := by
    refine yields_name hne hname (c := '(') ?_ (by decide) hinside
    rw [String.toList_append]
    rfl
  exact (hcreate.append_toList hindex).append_toList htable

end

theorem literalQuote_notMem {c : TextConfig} (h : c.Accepted) : Sql.literalQuote ∉ c.tokenizer.toList := by
  intro hquote
  rcases h.mem_tokenizer hquote with hplain | hblank
  · exact absurd (TextConfig.isNameChar_iff.mpr hplain) (by decide)
  · exact absurd hblank (by decide)

theorem isWordChar_tableName {c : TextConfig} (h : c.Accepted) {suffix : String}
    (hsuffix : suffix.toList.all Sql.isWordChar = true) :
    ∀ ch ∈ (c.tablePrefix ++ suffix).toList, Sql.isWordChar ch = true := by
  rw [String.toList_append]
  refine List.forall_mem_append.mpr ⟨fun ch hch => ?_, List.all_eq_true.mp hsuffix⟩
  have hplain := TextConfig.isNameChar_iff.mpr (h.prefixChars ch hch)
  rw [TextConfig.isNameChar] at hplain
  rw [Sql.isWordChar, hplain, Bool.true_or, Bool.true_or]

theorem yields_createStatements {c : TextConfig} (h : c.Accepted) :
    Yields (createStatements c).toList (createTokens c) := by
  have htexts : c.tablePrefix ++ "_fts" ≠ "" := by simp
  have hne : c.tablePrefix ++ "_meta" ≠ "" := by simp
  have hlisting : ∀ ch ∈ (c.tablePrefix ++ "_meta").toList, Sql.isWordChar ch = true :=
    isWordChar_tableName h (by decide)
  have htext := yields_textStatement htexts (isWordChar_tableName h (by decide)) (literalQuote_notMem h)
  have hindex := @yields_indexStatement _ hne hlisting
  rw [createStatements_eq]
  exact (((htext.append_toList (yields_listingStatement hne hlisting)).append_toList
    (hindex (by decide) (by decide) (by decide))).append_toList
    (hindex (by decide) (by decide) (by decide))).append_toList
    (hindex (by decide) (by decide) (by decide))

/-- The checks accept the prefixes and tokenizers of the described forms and no others. Nothing but plain
characters and white space is left in the tokenizer then, and the database cuts the statements that create the
tables at the ends of the names and of the literal that their frame has. -/
theorem createStatements_safe (c : TextConfig) :
    (c.validate = .ok () ↔ c.Accepted) ∧
      (c.validate = .ok () →
        (∀ ch ∈ c.tokenizer.toList, TextConfig.IsPlain ch ∨ Text.isWhitespace ch = true) ∧
          Sql.tokens (createStatements c).toList = createTokens c) := by
  refine ⟨TextConfig.validate_eq_ok_iff, fun hvalid => ?_⟩
  have haccepted := TextConfig.validate_eq_ok_iff.mp hvalid
  exact ⟨fun ch hch => haccepted.mem_tokenizer hch, (yields_createStatements haccepted).tokens⟩

/-- A tokenizer with white space of several kinds between its words. -/
def spacedConfig : TextConfig := { tablePrefix := "Docs_1", tokenizer := "porter\u00a0ascii \n x9" }

theorem createStatements_safe_spaced :
    spacedConfig.validate = .ok () ∧ spacedConfig.Accepted ∧
      Sql.tokens (createStatements spacedConfig).toList = createTokens spacedConfig := by
  have hvalid : spacedConfig.validate = .ok () := ok_of_toOption (by decide +kernel)
  obtain ⟨haccepted, hsafe⟩ := createStatements_safe spacedConfig
  exact ⟨hvalid, haccepted.mp hvalid, (hsafe hvalid).2⟩

end TextIndex

end HybridSearch

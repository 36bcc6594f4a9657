import HybridSearch.Text.Characters

/-!
# Layout of texts

White space around a text and between its words, lines and margins, the beginning of a text within a number of
bytes, and texts between quotes. A line ends with a line feed, which may follow a carriage return, or with the
text. A quoted text is on one line: quotes, backslashes and the common controls have short escapes, other
invisible or extending characters are written by code point.
-/
namespace HybridSearch.Text

def isBlank (cs : List Char) : Bool := cs.all isWhitespace

def trimStart (cs : List Char) : List Char := cs.dropWhile isWhitespace

def trimEnd (cs : List Char) : List Char := (cs.reverse.dropWhile isWhitespace).reverse

def trim (cs : List Char) : List Char := trimEnd (trimStart cs)

/-- Consumes characters up to the next white space; `word` holds the current word reversed. -/
def splitWordsFrom (word : List Char) : List Char → List (List Char)
  | [] => if word.isEmpty then [] else [word.reverse]
  | c :: cs =>
    if isWhitespace c then
      if word.isEmpty then splitWordsFrom [] cs else word.reverse :: splitWordsFrom [] cs
    else splitWordsFrom (c :: word) cs

/-- The maximal runs of characters that are not white space. -/
def splitWords (cs : List Char) : List (List Char) := splitWordsFrom [] cs

/-- A reversed line without the carriage return at its end. -/
def dropReturn : List Char → List Char
  | '\r' :: cs => cs
  | cs => cs

/-- Consumes characters up to the next line end; `line` holds the current line reversed. -/
def linesFrom (line : List Char) : List Char → List (List Char)
  | [] => if line.isEmpty then [] else [line.reverse]
  | c :: cs =>
    if c = '\n' then (dropReturn line).reverse :: linesFrom [] cs else linesFrom (c :: line) cs

def lines (cs : List Char) : List (List Char) := linesFrom [] cs

def indent (margin : List Char) (cs : List Char) : List Char :=
  List.intercalate ('\n' :: margin) (lines cs)

/-- The number of bytes of a text in UTF-8. -/
def byteLength (cs : List Char) : Nat := (cs.map Char.utf8Size).foldr (· + ·) 0

/-- The longest beginning of at most `limit` bytes. -/
def takeBytes (limit : Nat) : List Char → List Char
  | [] => []
  | c :: cs => if c.utf8Size ≤ limit then c :: takeBytes (limit - c.utf8Size) cs else []

/-- What stands before the last space, or the whole text if there is none. -/
def beforeLastSpace (cs : List Char) : List Char :=
  match cs.reverse.dropWhile (· ≠ ' ') with
  | [] => cs
  | _ :: before => before.reverse

/-- The trimmed text, or its beginning with three dots when it has more than `limit` bytes. -/
def snippet (limit : Nat) (cs : List Char) : List Char :=
  let text := trim cs
  if byteLength text ≤ limit then text
  else beforeLastSpace (takeBytes limit text) ++ ['.', '.', '.']

/-- The code point between braces, in lower-case hexadecimal. -/
def codePointEscape (c : Char) : List Char :=
  "\\u\x7b".toList ++ Nat.toDigits 16 c.toNat ++ ['\x7d']

def quotedChar (c : Char) : List Char :=
  if c = '"' then ['\\', '"']
  else if c = '\\' then ['\\', '\\']
  else if c = '\n' then ['\\', 'n']
  else if c = '\t' then ['\\', 't']
  else if c = '\r' then ['\\', 'r']
  else if c.toNat = 0 then ['\\', '0']
  else if isExtending c || isInvisible c then codePointEscape c
  else [c]

def quoted (s : String) : String :=
  String.ofList ('"' :: s.toList.flatMap quotedChar ++ ['"'])

end HybridSearch.Text

import HybridSearch.Bytes

/-!
# Quoted texts in TOML

Text between double quotes has escapes, text between single quotes has none. Either may span lines when
the quotes are tripled; then a line end right after the opening quotes does not count, one or two
quotes may stand before the closing ones, and a backslash at the end of a line removes the white space
after it.
-/
namespace HybridSearch.Toml

def isBlank (c : Char) : Bool := c = ' ' || c = '\t'

def startsLine : List Char → Bool
  | '\n' :: _ => true
  | '\r' :: '\n' :: _ => true
  | _ => false

def singleQuote : Char := '\x27'

/-- Characters that may only be written as escapes. -/
def isControl (c : Char) : Bool := (c.toNat < 0x20 && c != '\t') || c.toNat == 0x7f

/-- Whether a character can stand for itself before `rest`. -/
def isPlain (multiline : Bool) (c : Char) (rest : List Char) : Bool :=
  if c = '\n' then multiline
  else if c = '\r' then multiline && startsLine rest
  else !isControl c

def charOfHex? (ds : List Char) : Option Char := do
  let code ← ds.foldlM (fun n c => (Bytes.hexValue? c).map (16 * n + ·)) 0
  if code.isValidChar then return Char.ofNat code else none

def shortEscape? (c : Char) : Option Char :=
  if c = '"' ∨ c = '\\' then some c
  else if c = 'b' then some '\x08'
  else if c = 'e' then some '\x1b'
  else if c = 'f' then some '\x0c'
  else if c = 'n' then some '\n'
  else if c = 'r' then some '\r'
  else if c = 't' then some '\t'
  else none

def before (c : Option Char) (more : Option (List Char × List Char)) :
    Option (List Char × List Char) := do
  let c ← c
  let (cs, rest) ← more
  return (c :: cs, rest)

/-- The end of a text with tripled quotes: up to two more quotes belong to the text. -/
def closing (quote : Char) (rest : List Char) : List Char × List Char :=
  let extra := (rest.take 2).takeWhile (· = quote)
  (extra, rest.drop extra.length)

/-- Reads up to the closing double quotes. While `skipping`, white space is left out. -/
def readBasic? (multiline skipping : Bool) : List Char → Option (List Char × List Char)
  | [] => none
  | c :: cs =>
    if skipping && (isBlank c || startsLine (c :: cs) || c = '\n') then readBasic? multiline true cs
    else if c = '"' then
      match multiline, cs with
      | true, '"' :: '"' :: rest => some (closing '"' rest)
      | true, cs => before (some c) (readBasic? multiline false cs)
      | false, cs => some ([], cs)
    else if c = '\\' then
      if multiline && startsLine (cs.dropWhile isBlank) then readBasic? multiline true cs
      else match cs with
        | 'x' :: a :: b :: rest => before (charOfHex? [a, b]) (readBasic? multiline false rest)
        | 'u' :: a :: b :: d :: e :: rest =>
          before (charOfHex? [a, b, d, e]) (readBasic? multiline false rest)
        | 'U' :: a :: b :: d :: e :: f :: g :: h :: i :: rest =>
          before (charOfHex? [a, b, d, e, f, g, h, i]) (readBasic? multiline false rest)
        | e :: rest => before (shortEscape? e) (readBasic? multiline false rest)
        | [] => none
    else if isPlain multiline c cs then before (some c) (readBasic? multiline false cs)
    else none

def readLiteral? (multiline : Bool) : List Char → Option (List Char × List Char)
  | [] => none
  | c :: cs =>
    if c = singleQuote then
      match multiline, cs with
      | true, d :: e :: rest =>
        if d = singleQuote ∧ e = singleQuote then some (closing singleQuote rest)
        else before (some c) (readLiteral? multiline (d :: e :: rest))
      | true, cs => before (some c) (readLiteral? multiline cs)
      | false, cs => some ([], cs)
    else if isPlain multiline c cs then before (some c) (readLiteral? multiline cs)
    else none

def dropLineEnd : List Char → List Char
  | '\n' :: cs => cs
  | '\r' :: '\n' :: cs => cs
  | cs => cs

def readLine? (quote : Char) (cs : List Char) : Option (List Char × List Char) :=
  if quote = '"' then readBasic? false false cs else readLiteral? false cs

/-- A quoted text with tripled quotes, after the opening ones. -/
def readLines? (quote : Char) (cs : List Char) : Option (List Char × List Char) :=
  if quote = '"' then readBasic? true false (dropLineEnd cs) else readLiteral? true (dropLineEnd cs)

def readQuoted? : List Char → Option (String × List Char)
  | [] => none
  | quote :: cs =>
    let text := match cs with
      | a :: b :: rest =>
        if a = quote ∧ b = quote then readLines? quote rest else readLine? quote cs
      | cs => readLine? quote cs
    text.map fun (cs, rest) => (String.ofList cs, rest)

def isQuote (c : Char) : Bool := c = '"' || c = singleQuote

end HybridSearch.Toml

import HybridSearch.Toml.Quoted
import HybridSearch.Toml.Table
import HybridSearch.Toml.Word

/-!
# Reading TOML

`read?` takes the whole text or nothing. Keys are bare words or quoted texts, with points between them in
a path. Arrays and inline tables may span lines, hold comments and end with a comma; they nest at most
`maxNesting` deep.
-/
namespace HybridSearch.Toml

def maxNesting : Nat := 80

def skipBlanks (cs : List Char) : List Char := cs.dropWhile isBlank

/-- Skips blanks, line ends and comments; a comment runs to the end of its line. -/
def skipGap? (inComment : Bool) : List Char → Option (List Char)
  | [] => some []
  | c :: cs =>
    if c = '\n' then skipGap? false cs
    else if c = '\r' then if startsLine (c :: cs) then skipGap? false cs else none
    else if inComment then if isControl c then none else skipGap? true cs
    else if isBlank c then skipGap? false cs
    else if c = '#' then skipGap? true cs
    else some (c :: cs)

/-- What follows a line that may only have blanks and a comment left. -/
def endLine? (cs : List Char) : Option (List Char) :=
  match skipBlanks cs with
  | [] => some []
  | c :: cs => if c = '#' ∨ startsLine (c :: cs) then skipGap? false (c :: cs) else none

def isBareKeyChar (c : Char) : Bool := c.isAlphanum || c == '_' || c == '-'

def readKey? (cs : List Char) : Option (String × List Char) :=
  match cs with
  | [] => none
  | c :: rest =>
    if isQuote c then (readLine? c rest).map fun (key, rest) => (String.ofList key, rest)
    else
      let key := cs.takeWhile isBareKeyChar
      if key.isEmpty then none else some (String.ofList key, cs.dropWhile isBareKeyChar)

/-- A path of keys; `fuel` bounds their number. The last key comes apart. -/
def readPath? : Nat → List Char → Option (List String × String × List Char)
  | 0, _ => none
  | fuel + 1, cs => do
    let (key, rest) ← readKey? (skipBlanks cs)
    match skipBlanks rest with
    | '.' :: rest =>
      let (path, last, rest) ← readPath? fuel rest
      return (key :: path, last, rest)
    | rest => return ([], key, rest)

def isWordChar (c : Char) : Bool :=
  !(isBlank c || isQuote c || "\n\r,=[]\x7b\x7d#".toList.contains c)

/-- An unquoted value. A time may follow its date after one space. -/
def readUnquoted? (cs : List Char) : Option (Datum × List Char) :=
  let word := cs.takeWhile isWordChar
  let rest := cs.dropWhile isWordChar
  let (word, rest) := match rest with
    | ' ' :: d :: more =>
      if d.isDigit ∧ readDate? word = some [] then
        (word ++ ' ' :: (d :: more).takeWhile isWordChar, (d :: more).dropWhile isWordChar)
      else (word, rest)
    | rest => (word, rest)
  (readWord? word).map fun d => (d, rest)

mutual

/-- A value; `fuel` bounds the characters read, `depth` the nesting. -/
def readValue? : Nat → Nat → List Char → Option (Datum × List Char)
  | 0, _, _ => none
  | fuel + 1, depth, cs =>
    match cs with
    | [] => none
    | '[' :: rest =>
      if depth = 0 then none
      else (readItems? fuel (depth - 1) rest).map fun (items, rest) => (.list items, rest)
    | '\x7b' :: rest =>
      if depth = 0 then none
      else (readEntries? fuel (depth - 1) [] rest).map fun (ms, rest) =>
        (.record (memberData ms), rest)
    | c :: rest =>
      if isQuote c then (readQuoted? (c :: rest)).map fun (s, rest) => (.text (some s), rest)
      else readUnquoted? (c :: rest)

def readItems? : Nat → Nat → List Char → Option (List Datum × List Char)
  | 0, _, _ => none
  | fuel + 1, depth, cs => do
    match ← skipGap? false cs with
    | ']' :: rest => return ([], rest)
    | cs =>
      let (item, rest) ← readValue? fuel depth cs
      match ← skipGap? false rest with
      | ']' :: rest => return ([item], rest)
      | ',' :: rest =>
        let (items, rest) ← readItems? fuel depth rest
        return (item :: items, rest)
      | _ => none

def readEntry? : Nat → Nat → List Char → Option (Entry × List Char)
  | 0, _, _ => none
  | fuel + 1, depth, cs => do
    let (path, key, rest) ← readPath? (fuel + 1) cs
    match skipBlanks rest with
    | '=' :: rest =>
      let (value, rest) ← readValue? fuel depth (skipBlanks rest)
      return (⟨path, key, value⟩, rest)
    | _ => none

/-- The rest of an inline table that has some members already. -/
def readEntries? : Nat → Nat → Members → List Char → Option (Members × List Char)
  | 0, _, _, _ => none
  | fuel + 1, depth, ms, cs => do
    match ← skipGap? false cs with
    | '\x7d' :: rest => return (ms, rest)
    | cs =>
      let (e, rest) ← readEntry? fuel depth cs
      let ms ← ms.addEntry e
      match ← skipGap? false rest with
      | '\x7d' :: rest => return (ms, rest)
      | ',' :: rest => readEntries? fuel depth ms rest
      | _ => none

end

def readHeader? (fuel : Nat) (cs : List Char) : Option (Header × List Char) :=
  match cs with
  | '[' :: cs => do
    let (path, key, rest) ← readPath? fuel cs
    match rest with
    | ']' :: ']' :: rest => return (.element path key, rest)
    | _ => none
  | cs => do
    let (path, key, rest) ← readPath? fuel cs
    match rest with
    | ']' :: rest => return (.table path key, rest)
    | _ => none

/-- The sections of a text; the entries of the current one are reversed. -/
def readSections? : Nat → Header → List Entry → List Char → Option (List Section)
  | 0, _, _, _ => none
  | fuel + 1, header, entries, cs => do
    match ← skipGap? false cs with
    | [] => return [⟨header, entries.reverse⟩]
    | '[' :: rest =>
      let (next, rest) ← readHeader? fuel rest
      let sections ← readSections? fuel next [] (← endLine? rest)
      return ⟨header, entries.reverse⟩ :: sections
    | cs =>
      let (e, rest) ← readEntry? fuel maxNesting cs
      readSections? fuel header (e :: entries) (← endLine? rest)

def dropByteOrderMark : List Char → List Char
  | '\ufeff' :: cs => cs
  | cs => cs

def read? (s : String) : Option Datum := do
  let cs := dropByteOrderMark s.toList
  documentOf? (← readSections? (2 * cs.length + 2) .top [] cs)

end HybridSearch.Toml

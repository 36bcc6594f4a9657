import HybridSearch.Text.Layout

/-!
# Words and phrases of a query

White space separates words, and a pair of double quotes encloses a phrase; a quote also ends the word
before it. When the quotes do not pair up, every one of them counts as a space.
-/
namespace HybridSearch.Query

inductive Token where
  | word (text : List Char)
  | phrase (text : List Char)
  deriving DecidableEq, Repr

def isWordChar (c : Char) : Bool := !Text.isWhitespace c && c != '"'

def isInsidePhrase (c : Char) : Bool := c != '"'

theorem length_dropWhile_le (p : Char → Bool) (cs : List Char) :
    (cs.dropWhile p).length ≤ cs.length :=
  (List.dropWhile_suffix p).length_le

def scan : List Char → List Token
  | [] => []
  | c :: cs =>
    if Text.isWhitespace c then scan cs
    else if c = '"' then
      .phrase (cs.takeWhile isInsidePhrase) :: scan ((cs.dropWhile isInsidePhrase).drop 1)
    else .word (c :: cs.takeWhile isWordChar) :: scan (cs.dropWhile isWordChar)
termination_by cs => cs.length
decreasing_by
  all_goals
    simp only [List.length_cons, List.length_drop]
    have h1 := length_dropWhile_le isInsidePhrase cs
    have h2 := length_dropWhile_le isWordChar cs
    omega

def quoteToSpace (c : Char) : Char := if c = '"' then ' ' else c

def tokenize (cs : List Char) : List Token :=
  if cs.count '"' % 2 = 0 then scan cs else scan (cs.map quoteToSpace)

end HybridSearch.Query

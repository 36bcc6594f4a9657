import HybridSearch.Query.Token

/-!
# Search terms

What is left of a token once everything but letters, digits, underscores and hyphens is taken away.
A word is searched for by its beginning, or excluded when a minus sign stands before it; a phrase is
searched for as it is. Statement keywords and overlong words are dropped.
-/
namespace HybridSearch.Query

inductive Term where
  | beginning (word : List Char)
  | phrase (words : List (List Char))
  | exclusion (word : List Char)
  deriving DecidableEq, Repr

def maxTermLength : Nat := 100

def isTermChar (c : Char) : Bool := Text.isAlphanumeric c || c == '_' || c == '-'

def sanitize (word : List Char) : List Char := word.filter isTermChar

def keywords : List (List Char) :=
  ["INSERT", "UPDATE", "DELETE", "DROP", "CREATE", "ALTER", "EXEC", "UNION", "SELECT",
    "FROM"].map String.toList

/-- A statement keyword in any ASCII case, or a word that begins like a stored procedure. -/
def isKeyword (word : List Char) : Bool :=
  let upper := word.map Char.toUpper
  keywords.contains upper || "XP_".toList.isPrefixOf upper || "SP_".toList.isPrefixOf upper

/-- The word without its minus sign, and whether it had one. -/
def splitMinus : List Char → Bool × List Char
  | '-' :: body => (true, body)
  | body => (false, body)

def Term.ofWord? (word : List Char) : Option Term :=
  let (negated, body) := splitMinus word
  if maxTermLength < word.length || isKeyword body || (sanitize body).isEmpty then none
  else some (if negated then .exclusion (sanitize body) else .beginning (sanitize body))

def phraseWords (phrase : List Char) : List (List Char) :=
  (((Text.splitWords phrase).filter fun w => w.length ≤ maxTermLength && !isKeyword w).map
    sanitize).filter (!·.isEmpty)

def Term.ofPhrase? (phrase : List Char) : Option Term :=
  if (phraseWords phrase).isEmpty then none else some (.phrase (phraseWords phrase))

def Term.ofToken? : Token → Option Term
  | .word text => Term.ofWord? text
  | .phrase text => Term.ofPhrase? text

end HybridSearch.Query

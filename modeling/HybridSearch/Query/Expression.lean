import HybridSearch.Query.Term

/-!
# Match expressions

The terms of a query, split into those that a document has to contain and those that it must not.
`ofText?` gives nothing when no required term is left, or when the query contains a sequence that
only appears in attempts to inject a statement. `text` writes the expression for the full-text engine:
every term is a quoted string, so no character of the query acts as an operator.
-/
namespace HybridSearch.Query

/-- A string that has to occur: the beginning of a word, or a whole phrase. -/
inductive Required where
  | beginning (word : List Char)
  | phrase (words : List (List Char))
  deriving DecidableEq, Repr

structure Expression where
  required : List Required
  excluded : List (List Char)
  deriving DecidableEq, Repr

/-- Longer queries are cut. -/
def maxQueryLength : Nat := 1000

def maxTerms : Nat := 20

def controlSequences : List (List Char) := ["--", ";", "/*", "*/"].map String.toList

/-- Whether `part` occurs in the text. -/
def occursIn (part : List Char) : List Char → Bool
  | [] => part.isEmpty
  | c :: cs => part.isPrefixOf (c :: cs) || occursIn part cs

def Term.required? : Term → Option Required
  | .beginning w => some (.beginning w)
  | .phrase ws => some (.phrase ws)
  | .exclusion _ => none

def Term.excluded? : Term → Option (List Char)
  | .exclusion w => some w
  | _ => none

def terms (query : List Char) : List Term := ((tokenize query).filterMap Term.ofToken?).take maxTerms

namespace Expression

def ofTerms? (ts : List Term) : Option Expression :=
  let required := ts.filterMap Term.required?
  if required.isEmpty then none else some ⟨required, ts.filterMap Term.excluded?⟩

def ofText? (query : String) : Option Expression :=
  let cut := query.toList.take maxQueryLength
  if controlSequences.any (occursIn · cut) then none else ofTerms? (terms cut)

/-- A quote inside a quoted string is written twice. -/
def doubledQuote (c : Char) : List Char := if c = '"' then ['"', '"'] else [c]

def quotedString (s : List Char) : List Char := '"' :: s.flatMap doubledQuote ++ ['"']

def joinWords : List (List Char) → List Char
  | [] => []
  | [w] => w
  | w :: ws => w ++ ' ' :: joinWords ws

def requiredText : Required → List Char
  | .beginning w => quotedString w ++ ['*']
  | .phrase ws => quotedString (joinWords ws)

def excludedText (w : List Char) : List Char := " NOT ".toList ++ quotedString w

def chars (e : Expression) : List Char :=
  "\x7btitle content\x7d : ((".toList ++ joinWords (e.required.map requiredText) ++
    [')'] ++ e.excluded.flatMap excludedText ++ [')']

def text (e : Expression) : String := String.ofList e.chars

def scopedText (e : Expression) (tenant : String) : String :=
  String.ofList (e.chars ++ " AND tenant_id : ".toList ++ quotedString (sanitize tenant.toList))

end Expression

end HybridSearch.Query

import HybridSearch.Query.Expression
import HybridSearch.TextIndex.Table

/-!
# Matching rows

A string of a match expression is tokenized like the rows and becomes a phrase: its tokens have to
follow each other within one column, the last one possibly being only a beginning. Required strings
without a token are left out; if none is left nothing matches. Excluded strings without a token exclude
nothing.
-/
namespace HybridSearch

structure RowTokens where
  tenant : List Analysis.Token
  kind : List Analysis.Token
  title : List Analysis.Token
  content : List Analysis.Token
  deriving DecidableEq, Repr

namespace RowTokens

def ofRow (t : Analysis.Tokenizer) (r : TextRow) : RowTokens :=
  ⟨t.tokens r.tenant, t.tokens r.kind, t.tokens r.title, t.tokens r.content⟩

def total (r : RowTokens) : Nat :=
  r.tenant.length + r.kind.length + r.title.length + r.content.length

end RowTokens

inductive PhraseScope where
  | body
  | tenant
  deriving DecidableEq, Repr

structure Phrase where
  tokens : List Analysis.Token
  openEnded : Bool
  scope : PhraseScope
  deriving DecidableEq, Repr

namespace Phrase

/-- Whether the tokens start with those of the phrase; an open end takes any token that starts with the
last one. -/
def startsAt (openEnded : Bool) : List Analysis.Token → List Analysis.Token → Bool
  | [], _ => true
  | _ :: _, [] => false
  | [last], token :: _ => if openEnded then token.startsWith last else token == last
  | first :: rest, token :: tokens => first == token && startsAt openEnded rest tokens

/-- How many positions of a column the phrase starts at. -/
def occurrencesIn (p : Phrase) : List Analysis.Token → Nat
  | [] => 0
  | token :: tokens =>
    (if startsAt p.openEnded p.tokens (token :: tokens) then 1 else 0) + occurrencesIn p tokens

def occurrences (p : Phrase) (r : RowTokens) : Nat :=
  match p.scope with
  | .body => p.occurrencesIn r.title + p.occurrencesIn r.content
  | .tenant => p.occurrencesIn r.tenant

def occursIn (p : Phrase) (r : RowTokens) : Bool := 0 < p.occurrences r

def isBlank (p : Phrase) : Bool := p.tokens.isEmpty

end Phrase

/-- What a row has to contain and must not contain. -/
structure RowFilter where
  required : List Phrase
  excluded : List Phrase
  tenant : Option Phrase
  deriving DecidableEq, Repr

namespace RowFilter

def requiredPhrase (t : Analysis.Tokenizer) : Query.Required → Phrase
  | .beginning w => ⟨t.tokens (String.ofList w), true, .body⟩
  | .phrase ws => ⟨t.tokens (String.ofList (Query.Expression.joinWords ws)), false, .body⟩

def excludedPhrase (t : Analysis.Tokenizer) (w : List Char) : Phrase :=
  ⟨t.tokens (String.ofList w), false, .body⟩

/-- The filter of an expression; a tenant that is not empty narrows it. -/
def ofExpression (t : Analysis.Tokenizer) (e : Query.Expression) (tenant : String) : RowFilter where
  required := (e.required.map (requiredPhrase t)).filter (!·.isBlank)
  excluded := (e.excluded.map (excludedPhrase t)).filter (!·.isBlank)
  tenant := if tenant.isEmpty then none else some ⟨t.tokens tenant, false, .tenant⟩

def matchesTenant (f : RowFilter) (r : RowTokens) : Bool :=
  match f.tenant with
  | none => true
  | some p => !p.isBlank && p.occursIn r

def accepts (f : RowFilter) (r : RowTokens) : Bool :=
  !f.required.isEmpty && f.required.all (·.occursIn r) && !f.excluded.any (·.occursIn r) &&
    f.matchesTenant r

/-- The phrases that count for the rank, in their order. -/
def rankedPhrases (f : RowFilter) : List Phrase := f.required ++ f.tenant.toList

end RowFilter

end HybridSearch

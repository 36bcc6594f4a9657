import HybridSearch.SearchRequest
import HybridSearch.Text.Layout

/-!
# Search options

What the command line says about a search. Where no mode is named, an embedding makes the search a
hybrid one, or a vector search when there is no text besides white space.
-/
namespace HybridSearch

structure SearchOptions where
  query : String := ""
  embedding : Option Embedding := none
  mode : Option SearchMode := none
  tenant : String := ""
  limit : Nat := 0
  offset : Nat := 0
  deriving DecidableEq, Repr, Inhabited

namespace SearchOptions

def impliedMode (o : SearchOptions) : SearchMode :=
  if o.embedding.isNone then .fullText
  else if (Text.trim o.query.toList).isEmpty then .vector
  else .hybrid

def toRequest (o : SearchOptions) : SearchRequest where
  text := o.query
  embedding := o.embedding
  mode := o.mode.getD o.impliedMode
  tenant := o.tenant
  limit := o.limit
  offset := o.offset

end SearchOptions

end HybridSearch

import HybridSearch.Metric

/-!
# Search requests

What to look for, by text, by embedding or by both, in one tenant or in all of them, and which page of
the ranking to return.
-/
namespace HybridSearch

inductive SearchMode where
  | fullText
  | vector
  | hybrid
  | structured
  deriving DecidableEq, Repr, Inhabited

namespace SearchMode

def name : SearchMode → String
  | fullText => "full_text"
  | vector => "vector"
  | hybrid => "hybrid"
  | structured => "structured"

def decode? : Decoder SearchMode :=
  Decoder.choice [("full_text", fullText), ("vector", vector), ("hybrid", hybrid),
    ("structured", structured)]

end SearchMode

/-- An empty tenant stands for all tenants, and a limit of zero for the default one. -/
structure SearchRequest where
  text : String := ""
  embedding : Option Embedding := none
  mode : SearchMode := .fullText
  tenant : String := ""
  limit : Nat := 0
  offset : Nat := 0
  deriving DecidableEq, Repr, Inhabited

namespace SearchRequest

def decode? : Decoder SearchRequest := fun depth d => do
  let f ← Fields.decode?
    ["text", "vector", "query_type", "tenant_id", "limit", "offset"] depth d
  return {
    text := ← f.orElse "text" "" Decoder.string
    embedding := ← f.orElse "vector" none (Decoder.optional (Decoder.list Decoder.real))
    mode := ← f.orElse "query_type" .fullText SearchMode.decode?
    tenant := ← f.orElse "tenant_id" "" Decoder.string
    limit := ← f.orElse "limit" 0 Decoder.natural
    offset := ← f.orElse "offset" 0 Decoder.natural }

end SearchRequest

end HybridSearch

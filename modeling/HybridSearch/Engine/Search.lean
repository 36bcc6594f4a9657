import HybridSearch.Engine.Fusion
import HybridSearch.Engine.Task
import HybridSearch.SearchRequest

/-!
# Searching both indexes

A search ranks documents by their text, by their embedding or by both, and answers a page of the
ranking. The documents always come from the text index, which also decides whether they belong to the
tenant. A hybrid search looks at a window twice as wide on either side, and only fails when both sides do.
-/
namespace HybridSearch

/-- A page of a ranking of `total` documents. -/
structure SearchPage where
  hits : List Scored
  total : Nat
  deriving Repr, Inhabited

namespace EngineConfig

def pageSize (c : EngineConfig) (limit : Nat) : Except EngineError Nat :=
  if limit = 0 then .ok c.defaultLimit
  else if maxSearchLimit < limit then .error (.invalidQuery (.limit limit))
  else .ok limit

end EngineConfig

namespace TextEntry

def document (e : TextEntry) : Except EngineError Document :=
  match e.toDocument? with
  | some d => .ok d
  | none => .error (.text (.unknownKind e.kind e.id))

end TextEntry

namespace TextIndex

def ranked (ix : TextIndex) (query tenant : String) (limit : Nat) :
    Except EngineError (List Scored) := do
  let hits ← (ix.search false query tenant limit).mapError .text
  hits.mapM fun h => do return ⟨← h.entry.document, h.score⟩

/-- The documents of the neighbors, in their order; those that the tenant does not have are dropped. -/
def hydrate (ix : TextIndex) (tenant : String) (metric : Metric) :
    List Neighbor → Except EngineError (List Scored)
  | [] => .ok []
  | n :: rest =>
    match ix.document n.id tenant with
    | .error (.notFound _) => ix.hydrate tenant metric rest
    | .error e => .error (.text e)
    | .ok entry => do
      let d ← entry.document
      return ⟨d, metric.similarity n.distance⟩ :: (← ix.hydrate tenant metric rest)

end TextIndex

namespace SearchRequest

/-- The embedding to look for, if there is one, in a tenant that can exist. -/
def soughtEmbedding (r : SearchRequest) : Except EngineError Embedding :=
  match r.embedding with
  | none | some [] => .error (.invalidQuery .noQueryVector)
  | some v =>
    if !r.tenant.isEmpty && !Tenant.isValid r.tenant then .error (.text (.invalidTenant r.tenant))
    else .ok v

end SearchRequest

namespace Indexes

def textRanked (ixs : Indexes) (r : SearchRequest) (limit : Nat) : Except EngineError (List Scored) :=
  ixs.text.ranked r.text r.tenant limit

/-- The nearest documents, nearest first; the vector index counts the search. -/
def vectorRanked (ixs : Indexes) (r : SearchRequest) (limit : Nat) :
    Except EngineError (List Scored) × Indexes :=
  match r.soughtEmbedding with
  | .error e => (.error e, ixs)
  | .ok v =>
    match ixs.vector.search ixs.store .never v (min limit VectorIndex.maxCount) with
    | (.error e, vector) => (.error (.vector e), { ixs with vector })
    | (.ok neighbors, vector) =>
      (ixs.text.hydrate r.tenant vector.config.metric neighbors, { ixs with vector })

/-- The fused ranking of two sides, one of which may have failed. -/
def combine (c : EngineConfig) :
    Except EngineError (List Scored) → Except EngineError (List Scored) →
      Except EngineError (List Scored)
  | .error onText, .error onVector => .error (.hybridFailed onText onVector)
  | text, vector =>
    .ok (Fusion.fuse (text.toOption.getD []) (vector.toOption.getD []) c.textWeight c.vectorWeight)

def hybridRanked (ixs : Indexes) (c : EngineConfig) (r : SearchRequest) (limit : Nat) :
    Except EngineError (List Scored) × Indexes :=
  let wide := min (2 * limit) maxSearchLimit
  let (vector, searched) := ixs.vectorRanked r wide
  (combine c (ixs.textRanked r wide) vector, searched)

/-- The first `limit` documents of the ranking that a request asks for. -/
def ranked (ixs : Indexes) (c : EngineConfig) (r : SearchRequest) (limit : Nat) :
    Except EngineError (List Scored) × Indexes :=
  match r.mode with
  | .fullText => (ixs.textRanked r limit, ixs)
  | .vector => ixs.vectorRanked r limit
  | .hybrid => ixs.hybridRanked c r limit
  | .structured => (.error .structuredQuery, ixs)

def pageOf (ranking : List Scored) (offset size : Nat) : SearchPage :=
  ⟨(ranking.drop offset).take size, ranking.length⟩

def search (ixs : Indexes) (c : EngineConfig) (cancelled : Bool) (r : SearchRequest) :
    Except EngineError SearchPage × Indexes :=
  match c.pageSize r.limit with
  | .error e => (.error e, ixs)
  | .ok size =>
    if cancelled then (.error .cancelled, ixs)
    else
      let (ranking, ixs) := ixs.ranked c r (min (size + r.offset) maxSearchLimit)
      (ranking.map (pageOf · r.offset size), ixs)

/-- One document with its embedding; an empty tenant stands for any. -/
def document (ixs : Indexes) (id tenant : String) : Except EngineError Document := do
  let entry ← (ixs.text.document id tenant).mapError .text
  let d ← entry.document
  match ixs.vector.get ixs.store id with
  | .ok v => return { d with embedding := some v }
  | .error (.notFound _) => return d
  | .error e => throw (.vector e)

/-- A page of a tenant's documents without their embeddings, the last written first. -/
def tenantDocuments (ixs : Indexes) (c : EngineConfig) (tenant : String) (limit offset : Nat) :
    Except EngineError (List Document) := do
  let size ← c.pageSize limit
  let entries ← (ixs.text.tenantDocuments tenant size offset).mapError .text
  entries.mapM (·.document)

end Indexes

end HybridSearch

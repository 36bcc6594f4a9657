import HybridSearch.VectorIndex.Draft

/-!
# Transactions

A transaction is a draft that remembers embeddings. An embedding is decoded when it is first read; one that the
transaction has put there itself is known without reading it, until its node is removed.
-/
namespace HybridSearch

/-- `decoded` holds the embeddings that are known, the last one that became known first. -/
structure Transaction where
  draft : Draft
  decoded : List (String × Embedding) := []

namespace Transaction

def start (config : VectorConfig) (store : StoreHandle) : Transaction where
  draft := Draft.start config store

def vector (t : Transaction) (id : String) : Except VectorError Embedding × Transaction :=
  match t.decoded.lookup id with
  | some v => (.ok v, t)
  | none =>
    match t.draft.vector id with
    | .ok v => (.ok v, { t with decoded := (id, v) :: t.decoded })
    | .error e => (.error e, t)

def distance (t : Transaction) (query : Embedding) (id : String) : Except VectorError Binary64 × Transaction :=
  let (v, t) := t.vector id
  (v.map (t.draft.metric.distance query), t)

def distanceBetween (t : Transaction) (a b : String) : Except VectorError Binary64 × Transaction :=
  match t.vector a with
  | (.ok v, t) => t.distance v b
  | (.error e, t) => (.error e, t)

/-- The transaction with its draft edited, when the edit succeeds. -/
def edit (t : Transaction) (next : Except VectorError Draft) : Except VectorError Transaction :=
  next.map fun draft => { t with draft }

def putNode (t : Transaction) (id : String) (v : Embedding) (level : Nat) : Except VectorError Transaction :=
  ({ t with decoded := (id, v) :: t.decoded } : Transaction).edit (t.draft.putNode id v level)

def removeNode (t : Transaction) (id : String) : Except VectorError Transaction :=
  ({ t with decoded := t.decoded.filter fun known => known.1 != id } : Transaction).edit
    (t.draft.removeNode id)

end Transaction

end HybridSearch

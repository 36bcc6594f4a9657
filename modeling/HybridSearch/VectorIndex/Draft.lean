import HybridSearch.Store.Handle
import HybridSearch.VectorIndex.Error
import HybridSearch.VectorIndex.Key
import HybridSearch.VectorIndex.Record

/-!
# Drafts of the graph

A draft shows a stored graph with changes that are not written yet. Reads see the pending changes over
the store; a batch made of them brings the store to what the draft shows. The draft also keeps by how
much the number of neighbour entries and the number of nodes have changed.
-/
namespace HybridSearch

structure Draft where
  store : StoreHandle
  keys : KeySpace
  dimension : Nat
  metric : Metric
  pending : ByteMap (Option Bytes) := ByteMap.empty
  adjacencyChange : Int := 0
  countChange : Int := 0

namespace Draft

/-- A draft of the graph under the settings of an index, without changes. -/
def start (config : VectorConfig) (store : StoreHandle) : Draft where
  store := store
  keys := KeySpace.ofPrefix config.keyPrefix
  dimension := config.dimension
  metric := config.metric

def ofStore {α : Type} : Except StoreFault α → Except VectorError α
  | .ok a => .ok a
  | .error fault => .error (.storage fault)

/-- A stored value that may be unreadable. -/
def readable {α : Type} (cause : Corruption) : Option α → Except VectorError α
  | some a => .ok a
  | none => .error (.corrupted cause)

def get (d : Draft) (key : Bytes) : Except VectorError (Option Bytes) :=
  match d.pending.find? key with
  | some value => .ok value
  | none => ofStore (d.store.get key)

def put (d : Draft) (key value : Bytes) : Draft :=
  { d with pending := d.pending.insert key (some value) }

def delete (d : Draft) (key : Bytes) : Draft :=
  { d with pending := d.pending.insert key none }

/-- Entries in key order with one pending change applied. -/
def overlay (entries : List (Bytes × Bytes)) (c : Change) : List (Bytes × Bytes) :=
  match c.2 with
  | some value => ByteMap.insertIn c.1 value entries
  | none => entries.filter fun e => decide (e.1 ≠ c.1)

/-- The entries whose keys start with `lead`, pending changes included. -/
def scan (d : Draft) (lead : Bytes) : Except VectorError (List (Bytes × Bytes)) := do
  let stored ← ofStore (d.store.scan lead)
  return (d.pending.scan lead).foldl overlay stored

/-- The level of a node, or nothing when there is no such node. -/
def level (d : Draft) (id : String) : Except VectorError (Option Nat) := do
  match ← d.get (d.keys.node id) with
  | none => return none
  | some bytes => return some (← readable (.unreadableMetadata id) (Record.level? bytes))

/-- The embedding of a node, which has to be there. -/
def vector (d : Draft) (id : String) : Except VectorError Embedding := do
  match ← d.get (d.keys.vector id) with
  | none => throw (.corrupted (.missingVector id))
  | some bytes =>
    match Embedding.decode bytes d.dimension with
    | .ok v => return v
    | .error e => throw (.corrupted (.undecodableVector id e))

def distance (d : Draft) (query : Embedding) (id : String) : Except VectorError Binary64 := do
  return d.metric.distance query (← d.vector id)

def distanceBetween (d : Draft) (a b : String) : Except VectorError Binary64 := do
  d.distance (← d.vector a) b

def count (d : Draft) : Except VectorError Nat := do
  match ← d.get d.keys.count with
  | none => return 0
  | some bytes => readable (.countLength bytes.length) (Record.count? bytes)

def signedWord (n : Int) : Int := Int.bmod n 0x10000000000000000

/-- Changes the number of nodes, which does not fall below zero. -/
def adjustCount (d : Draft) (change : Int) : Except VectorError Draft := do
  let next := signedWord (signedWord (← d.count) + change)
  return { d.put d.keys.count (Record.count next.toNat) with
    countChange := d.countChange + change }

def putNode (d : Draft) (id : String) (v : Embedding) (level : Nat) : Except VectorError Draft :=
  ((d.put (d.keys.vector id) (Embedding.encode v)).put (d.keys.node id)
    (Record.level level)).adjustCount 1

def removeNode (d : Draft) (id : String) : Except VectorError Draft :=
  ((d.delete (d.keys.vector id)).delete (d.keys.node id)).adjustCount (-1)

/-- The better entry point: the higher one, or the one found first. -/
def higher (best : Option EntryPoint) (e : EntryPoint) : Option EntryPoint :=
  match best with
  | none => some e
  | some b => if b.level < e.level then some e else some b

/-- The node of the highest level; of several, the one whose id comes first. -/
def highestNode (d : Draft) : Except VectorError (Option EntryPoint) := do
  (← d.scan d.keys.nodeLead).foldlM (fun best e =>
    match d.keys.idOfNode? e.1 with
    | none => pure best
    | some id => do
      let level ← readable (.unreadableMetadata id) (Record.level? e.2)
      return higher best ⟨id, level⟩) none

def neighbors (d : Draft) (layer : Nat) (id : String) : Except VectorError (List String) := do
  match ← d.get (d.keys.neighbors layer id) with
  | none => return []
  | some bytes => readable (.unreadableNeighbors id layer) (Record.neighbors? bytes)

/-- Replaces a list of neighbours; an empty list has no key. -/
def setNeighbors (d : Draft) (layer : Nat) (id : String) (ids : List String) :
    Except VectorError Draft := do
  let before ← d.neighbors layer id
  let key := d.keys.neighbors layer id
  let next := if ids.isEmpty then d.delete key else d.put key (Record.neighbors ids)
  return { next with
    adjacencyChange := d.adjacencyChange + ((ids.length : Int) - before.length) }

/-- Puts `b` into the list of `a` unless it is there. -/
def addNeighbor (d : Draft) (layer : Nat) (a b : String) : Except VectorError Draft := do
  let ids ← d.neighbors layer a
  if ids.contains b then return d else d.setNeighbors layer a (ids ++ [b])

/-- Takes `b` out of the list of `a`. -/
def dropNeighbor (d : Draft) (layer : Nat) (a b : String) : Except VectorError Draft := do
  let ids ← d.neighbors layer a
  let kept := ids.filter fun n => n != b
  if kept.length = ids.length then return d else d.setNeighbors layer a kept

def link (d : Draft) (layer : Nat) (a b : String) : Except VectorError Draft := do
  (← d.addNeighbor layer a b).addNeighbor layer b a

def unlink (d : Draft) (layer : Nat) (a b : String) : Except VectorError Draft := do
  (← d.dropNeighbor layer a b).dropNeighbor layer b a

def adjacencyEntries (d : Draft) : Except VectorError Nat := do
  (← d.scan d.keys.neighborsLead).foldlM (fun total e => do
    let ids ← readable (.unreadableNeighborsAt e.1) (Record.neighbors? e.2)
    return total + ids.length) 0

def entryPoint (d : Draft) : Except VectorError (Option EntryPoint) := do
  match ← d.get d.keys.entryPoint with
  | none => return none
  | some bytes => return some (← readable .unreadableEntryPoint (Record.entryPoint? bytes))

def setEntryPoint (d : Draft) (e : Option EntryPoint) : Draft :=
  match e with
  | some e => d.put d.keys.entryPoint (Record.entryPoint e)
  | none => d.delete d.keys.entryPoint

def batch (d : Draft) : List Change := d.pending.entries

end Draft

end HybridSearch

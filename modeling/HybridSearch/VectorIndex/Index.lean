import HybridSearch.VectorIndex.Linking

/-!
# The vector index

The index finds the nearest stored embeddings of a query. Every change of the graph is prepared as a
draft and committed as one batch; the gauges of the index follow the changes that were committed. The
level of a new node comes from a sequence of exponential samples, one for each insert that gets as far
as the graph.
-/
namespace HybridSearch

/-- The gauges are bounded by their sixty-four bits. The three counts of calls are not: counters of
sixty-four bits would start over after 2^64 calls. -/
structure VectorIndex where
  config : VectorConfig
  samples : List Binary64
  vectorCount : Nat := 0
  adjacencyEntries : Nat := 0
  entryLevel : Option Nat := none
  searches : Nat := 0
  inserts : Nat := 0
  deletes : Nat := 0
  deriving DecidableEq, Repr

/-- When the caller gives up: not at all, before the call, as an insert that has drawn its level waits for its
turn, or as soon as a search has read something. -/
inductive Cancellation where
  | never
  | before
  | duringInsert
  | duringSearch
  deriving DecidableEq, Repr, Inhabited

structure Neighbor where
  id : String
  distance : Binary64
  deriving DecidableEq, Repr

/-- A change of the graph that is ready to be written. -/
structure Commit where
  batch : List Change
  adjacencyChange : Int
  countChange : Int
  entryLevel : Option Nat
  deriving DecidableEq, Repr

namespace VectorIndex

def maxLevel : Nat := 32

def maxCount : Nat := 1000

/-- Opens the index that a store holds under the prefix of the settings. -/
def «open» (config : VectorConfig) (samples : List Binary64) (store : StoreHandle) :
    Except VectorError VectorIndex := do
  match config.validate with
  | .error fault => throw (.invalidConfig fault)
  | .ok () =>
    let d := Draft.start config store
    let vectorCount ← d.count
    let adjacencyEntries ← d.adjacencyEntries
    let entry ← d.entryPoint
    return { config, samples, vectorCount, adjacencyEntries, entryLevel := entry.map (·.level) }

def checkVector (config : VectorConfig) (v : Embedding) : Except VectorError Unit :=
  if v.length ≠ config.dimension then .error (.dimensionMismatch config.dimension v.length)
  else match v.findIdx? fun x => !x.isFinite with
    | some i => .error (.invalidVector i (v.getD i Binary64.zero))
    | none => .ok ()

/-- The checks of an insert before it touches the graph. -/
def validate (ix : VectorIndex) (id : String) (v : Embedding) : Except VectorError Unit :=
  match checkId id with
  | .error fault => .error (.invalidId fault)
  | .ok () => checkVector ix.config v

def levelOf (config : VectorConfig) (sample : Binary64) : Nat :=
  min (sample * (Binary64.one / (Binary64.one / config.levelScale))).toNatClamped maxLevel

def nextLevel (ix : VectorIndex) : Nat :=
  match ix.samples with
  | [] => 0
  | sample :: _ => levelOf ix.config sample

def dropSample (ix : VectorIndex) : VectorIndex := { ix with samples := ix.samples.drop 1 }

/-- What a draft would write; reading its entry point may fail. -/
def commitOf (d : Draft) : Except VectorError Commit := do
  let entry ← d.entryPoint
  return ⟨d.batch, d.adjacencyChange, d.countChange, entry.map (·.level)⟩

/-- The change that puts a node of a level into the graph, in place of one with the same id. -/
def prepareInsert (config : VectorConfig) (store : StoreHandle) (id : String) (v : Embedding)
    (level : Nat) : Except VectorError Commit := do
  let (d, _) ← (Draft.start config store).unlinkNode config id
  commitOf (← d.linkNode config id v level)

/-- The change that removes a node, if it is there. -/
def prepareDelete (config : VectorConfig) (store : StoreHandle) (id : String) :
    Except VectorError (Option Commit) := do
  let (d, removed) ← (Draft.start config store).unlinkNode config id
  if removed then return some (← commitOf d) else return none

/-- A sixty-four bit gauge moved by a change, within its bounds. -/
def moveGauge (gauge : Nat) (change : Int) : Nat := min (gauge + change).toNat 0xffffffffffffffff

def moveGauges (ix : VectorIndex) (c : Commit) : VectorIndex :=
  { ix with
    vectorCount := moveGauge ix.vectorCount c.countChange
    adjacencyEntries := moveGauge ix.adjacencyEntries c.adjacencyChange
    entryLevel := c.entryLevel }

/-- Writes a change; on success the gauges follow it. -/
def commit (ix : VectorIndex) (store : StoreHandle) (c : Commit) :
    Except VectorError (VectorIndex × StoreHandle) :=
  match store.write c.batch ix.config.syncWrites with
  | .error fault => .error (.storage fault)
  | .ok store => .ok (ix.moveGauges c, store)

/-- The outcome of a call, the index and the store after it. -/
structure Outcome (α : Type) where
  result : Except VectorError α
  index : VectorIndex
  store : StoreHandle

def commitInsert (ix : VectorIndex) (store : StoreHandle) (c : Commit) : Outcome Unit :=
  match ix.commit store c with
  | .error e => ⟨.error e, ix, store⟩
  | .ok (ix, store) => ⟨.ok (), { ix with inserts := ix.inserts + 1 }, store⟩

def commitDelete (ix : VectorIndex) (store : StoreHandle) (c : Commit) : Outcome Bool :=
  match ix.commit store c with
  | .error e => ⟨.error e, ix, store⟩
  | .ok (ix, store) => ⟨.ok true, { ix with deletes := ix.deletes + 1 }, store⟩

/-- Inserts an embedding, or replaces the one that the id has. -/
def insert (ix : VectorIndex) (store : StoreHandle) (cancel : Cancellation) (id : String)
    (v : Embedding) : Outcome Unit :=
  match ix.validate id v with
  | .error e => ⟨.error e, ix, store⟩
  | .ok () =>
    if cancel = .before then ⟨.error .cancelled, ix, store⟩
    else if cancel = .duringInsert then ⟨.error .cancelled, ix.dropSample, store⟩
    else match prepareInsert ix.config store id v ix.nextLevel with
      | .error e => ⟨.error e, ix.dropSample, store⟩
      | .ok c => ix.dropSample.commitInsert store c

/-- Removes an embedding; tells whether there was one. -/
def delete (ix : VectorIndex) (store : StoreHandle) (id : String) : Outcome Bool :=
  match checkId id with
  | .error fault => ⟨.error (.invalidId fault), ix, store⟩
  | .ok () =>
    match prepareDelete ix.config store id with
    | .error e => ⟨.error e, ix, store⟩
    | .ok none => ⟨.ok false, ix, store⟩
    | .ok (some c) => ix.commitDelete store c

/-- The nearest nodes of a graph with an entry point, nearest first. -/
def nearest (config : VectorConfig) (d : Draft) (query : Embedding) (k : Nat) (entry : EntryPoint)
    (distance : Binary64) : Except VectorError (List Neighbor) := do
  let closest ← d.descend query 0 entry.level [⟨distance, entry.id⟩]
  let found ← d.searchLayer query closest (max config.searchBreadth (2 * k)) 0
  return (found.take k).map fun c => ⟨c.id, c.distance⟩

def lookUp (config : VectorConfig) (store : StoreHandle) (cancel : Cancellation)
    (query : Embedding) (k : Nat) : Except VectorError (List Neighbor) := do
  checkVector config query
  if !(1 ≤ k && k ≤ maxCount) then throw (.invalidCount k)
  if cancel = .before then throw .cancelled
  let d := Draft.start config store
  match ← d.entryPoint with
  | none => throw .emptyIndex
  | some entry =>
    let distance ← d.distance query entry.id
    if cancel = .duringSearch then throw .cancelled
    nearest config d query k entry distance

/-- Up to `k` nearest embeddings, nearest first; ids that tie are ordered by their bytes. -/
def search (ix : VectorIndex) (store : StoreHandle) (cancel : Cancellation) (query : Embedding)
    (k : Nat) : Except VectorError (List Neighbor) × VectorIndex :=
  match lookUp ix.config store cancel query k with
  | .error e => (.error e, ix)
  | .ok hits => (.ok hits, { ix with searches := ix.searches + 1 })

def get (ix : VectorIndex) (store : StoreHandle) (id : String) : Except VectorError Embedding := do
  let d := Draft.start ix.config store
  match ← d.level id with
  | none => throw (.notFound id)
  | some _ => d.vector id

def contains (ix : VectorIndex) (store : StoreHandle) (id : String) : Except VectorError Bool := do
  return (← (Draft.start ix.config store).level id).isSome

def isEmpty (ix : VectorIndex) : Bool := ix.vectorCount == 0

/-- The number of layers, none of an empty graph; a sixty-four bit figure. -/
def layerCount (ix : VectorIndex) : Nat :=
  match ix.entryLevel with
  | none => 0
  | some level => (level + 1) % 0x10000000000000000

def edgeCount (ix : VectorIndex) : Nat := ix.adjacencyEntries / 2

def averageDegree (ix : VectorIndex) : Binary64 :=
  if ix.vectorCount = 0 then Binary64.zero
  else Binary64.ofNat ix.adjacencyEntries / Binary64.ofNat ix.vectorCount

end VectorIndex

end HybridSearch

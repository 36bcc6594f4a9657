import HybridSearch.VectorIndex.LayerSearch
import HybridSearch.VectorIndex.Transaction

/-!
# Wiring nodes into the graph and taking them out

A new node is linked on each of its layers to the nearest nodes found there; a neighbour whose list has
grown beyond its capacity drops its farthest neighbours, but none that would be left without a link.
When a node is removed, its former neighbours are linked among themselves where they have room.
-/
namespace HybridSearch

/-- The neighbours of a node with their distances to it. -/
def Transaction.neighborDistances (t : Transaction) (id : String) :
    List String → Except VectorError (List Candidate)
  | [] => .ok []
  | n :: rest =>
    match t.distanceBetween id n with
    | (.error e, _) => .error e
    | (.ok distance, t) => do return ⟨distance, n⟩ :: (← t.neighborDistances id rest)

namespace Draft

/-- The neighbours of a node with their distances to it; no embedding is decoded twice. -/
def neighborDistances (d : Draft) (id : String) (ids : List String) : Except VectorError (List Candidate) :=
  Transaction.neighborDistances { draft := d } id ids

/-- Unlinks up to `excess` of the victims in turn, sparing those that have no other neighbour. -/
def dropExcess (layer : Nat) (id : String) : Nat → List Candidate → Draft → Except VectorError Draft
  | 0, _, d => .ok d
  | _, [], d => .ok d
  | excess + 1, victim :: rest, d => do
    if 1 < (← d.neighbors layer victim.id).length then
      dropExcess layer id excess rest (← d.unlink layer id victim.id)
    else dropExcess layer id (excess + 1) rest d

/-- Brings the list of a node down to its capacity, the farthest neighbours first. -/
def shrink (d : Draft) (capacity layer : Nat) (id : String) : Except VectorError Draft := do
  let ids ← d.neighbors layer id
  if ids.length ≤ capacity then return d
  else
    let sorted := Candidate.sort (← d.neighborDistances id ids)
    dropExcess layer id (ids.length - capacity) sorted.reverse d

/-- Links a node to another one, which then keeps within its capacity. -/
def connect (capacity layer : Nat) (id : String) (d : Draft) (neighbor : String) :
    Except VectorError Draft := do
  (← d.link layer id neighbor).shrink capacity layer neighbor

/-- The nearest candidates other than the node itself, as many as a node is linked to. -/
def selectNeighbors (config : VectorConfig) (id : String) (candidates : List Candidate) :
    List String :=
  ((candidates.filter fun c => c.id != id).take config.width).map (·.id)

/-- Links a new node on one layer; gives what was found there too. -/
def linkLayer (config : VectorConfig) (id : String) (v : Embedding) (layer : Nat) (d : Draft)
    (nearest : List Candidate) : Except VectorError (Draft × List Candidate) := do
  let candidates ← d.searchLayer v nearest config.buildBreadth layer
  let linked ← (selectNeighbors config id candidates).foldlM
    (connect (config.capacity layer) layer id) d
  return (linked, candidates)

/-- Links a new node on the layers below `layers`, from the top down. -/
def linkLayers (config : VectorConfig) (id : String) (v : Embedding) :
    Nat → Draft → List Candidate → Except VectorError Draft
  | 0, d, _ => .ok d
  | layer + 1, d, nearest => do
    let (linked, candidates) ← linkLayer config id v layer d nearest
    linkLayers config id v layer linked candidates

def linkNode (config : VectorConfig) (d : Draft) (id : String) (v : Embedding) (level : Nat) :
    Except VectorError Draft := do
  let entry ← d.entryPoint
  let d ← d.putNode id v level
  match entry with
  | none => return d.setEntryPoint (some ⟨id, level⟩)
  | some entry =>
    let nearest ← d.descend v level entry.level [⟨← d.distance v entry.id, entry.id⟩]
    let d ← linkLayers config id v (min level entry.level + 1) d nearest
    return if entry.level < level then d.setEntryPoint (some ⟨id, level⟩) else d

/-- The nearer of two candidates; the one found first if they tie. -/
def nearer (best : Option Candidate) (c : Candidate) : Option Candidate :=
  match best with
  | none => some c
  | some b => if c.isBefore b then some c else some b

/-- The nearest former peer that has room and is no neighbour yet. -/
def nearestPeer (d : Draft) (capacity layer : Nat) (id : String) (current : List String) :
    List String → Option Candidate → Except VectorError (Option Candidate)
  | [], best => .ok best
  | peer :: rest, best =>
    if peer = id ∨ current.contains peer then nearestPeer d capacity layer id current rest best
    else do
      if capacity ≤ (← d.neighbors layer peer).length then
        nearestPeer d capacity layer id current rest best
      else
        let distance ← d.distanceBetween id peer
        nearestPeer d capacity layer id current rest (nearer best ⟨distance, peer⟩)

/-- Links a former neighbour of a removed node to the nearest of its former peers. -/
def reconnect (capacity layer : Nat) (former : List String) (d : Draft) (id : String) :
    Except VectorError Draft := do
  let current ← d.neighbors layer id
  if capacity ≤ current.length then return d
  else
    match ← d.nearestPeer capacity layer id current former none with
    | none => return d
    | some peer => d.link layer id peer.id

def repair (d : Draft) (capacity layer : Nat) (former : List String) : Except VectorError Draft :=
  former.foldlM (reconnect capacity layer former) d

def unlinkLayer (config : VectorConfig) (id : String) (d : Draft) (layer : Nat) :
    Except VectorError Draft := do
  let former ← d.neighbors layer id
  let d ← former.foldlM (fun d n => d.unlink layer id n) d
  d.repair (config.capacity layer) layer former

/-- Removes a node, if it is there; tells whether it was. -/
def unlinkNode (config : VectorConfig) (d : Draft) (id : String) :
    Except VectorError (Draft × Bool) := do
  match ← d.level id with
  | none => return (d, false)
  | some level =>
    let d ← (List.range (level + 1)).foldlM (unlinkLayer config id) d
    let d ← d.removeNode id
    match ← d.entryPoint with
    | none => return (d, true)
    | some entry =>
      if entry.id = id then return (d.setEntryPoint (← d.highestNode), true)
      else return (d, true)

end Draft

end HybridSearch

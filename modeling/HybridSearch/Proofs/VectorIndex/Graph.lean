import HybridSearch.Proofs.VectorIndex.Record
import HybridSearch.VectorIndex.Index

/-!
# The graph that a draft shows

A graph holds what a draft reads, decoded and without its failures: the nodes with their levels and
embeddings, the neighbour lists, the entry point and the stored count. Each operation on drafts has its
counterpart here under the same name.
-/
namespace HybridSearch

structure Graph where
  metric : Metric
  ids : List String
  level : String → Nat
  vector : String → Embedding
  neighbors : Nat → String → List String
  entry : Option EntryPoint
  count : Option Nat
  adjacencyChange : Int
  countChange : Int

namespace Graph

def empty (metric : Metric) : Graph where
  metric := metric
  ids := []
  level _ := 0
  vector _ := []
  neighbors _ _ := []
  entry := none
  count := none
  adjacencyChange := 0
  countChange := 0

def On (g : Graph) (layer : Nat) (id : String) : Prop := id ∈ g.ids ∧ layer ≤ g.level id

def distance (g : Graph) (query : Embedding) (id : String) : Binary64 :=
  g.metric.distance query (g.vector id)

def distanceBetween (g : Graph) (a b : String) : Binary64 := g.distance (g.vector a) b

/-- Puts an id at its place in byte order; it is there once. -/
def insertId (id : String) : List String → List String
  | [] => [id]
  | first :: rest =>
    match String.byteOrder id first with
    | .lt => id :: first :: rest
    | .eq => first :: rest
    | .gt => first :: insertId id rest

def adjustCount (g : Graph) (change : Int) : Graph :=
  let next := Draft.signedWord (Draft.signedWord (g.count.getD 0) + change)
  { g with count := some next.toNat, countChange := g.countChange + change }

def putNode (g : Graph) (id : String) (v : Embedding) (level : Nat) : Graph :=
  { g with
    ids := insertId id g.ids
    level := fun i => if i = id then level else g.level i
    vector := fun i => if i = id then v else g.vector i }.adjustCount 1

def removeNode (g : Graph) (id : String) : Graph :=
  { g with ids := g.ids.filter fun i => i != id }.adjustCount (-1)

def highestNode (g : Graph) : Option EntryPoint :=
  g.ids.foldl (fun best id => Draft.higher best ⟨id, g.level id⟩) none

def setEntryPoint (g : Graph) (e : Option EntryPoint) : Graph := { g with entry := e }

def setNeighbors (g : Graph) (layer : Nat) (id : String) (ids : List String) : Graph :=
  { g with
    neighbors := fun l i => if l = layer ∧ i = id then ids else g.neighbors l i
    adjacencyChange := g.adjacencyChange + ((ids.length : Int) - (g.neighbors layer id).length) }

def addNeighbor (g : Graph) (layer : Nat) (a b : String) : Graph :=
  if (g.neighbors layer a).contains b then g else g.setNeighbors layer a (g.neighbors layer a ++ [b])

def dropNeighbor (g : Graph) (layer : Nat) (a b : String) : Graph :=
  let kept := (g.neighbors layer a).filter fun n => n != b
  if kept.length = (g.neighbors layer a).length then g else g.setNeighbors layer a kept

def link (g : Graph) (layer : Nat) (a b : String) : Graph :=
  (g.addNeighbor layer a b).addNeighbor layer b a

def unlink (g : Graph) (layer : Nat) (a b : String) : Graph :=
  (g.dropNeighbor layer a b).dropNeighbor layer b a

def listsOf (g : Graph) (layer : Nat) (id : String) : Except VectorError (List String) :=
  .ok (g.neighbors layer id)

def distancesTo (g : Graph) (query : Embedding) (id : String) : Except VectorError Binary64 :=
  .ok (g.distance query id)

/-- What the rounds of a search find; a round per entry and per node is enough. -/
def searchLayer (g : Graph) (query : Embedding) (entries : List Candidate) (breadth layer : Nat) :
    List Candidate :=
  match Beam.run (g.listsOf layer) (g.distancesTo query) breadth
    (entries.length + g.ids.length + 1) (Beam.start entries breadth) with
  | .ok (some found) => found
  | _ => []

def descend (g : Graph) (query : Embedding) (bottom : Nat) :
    Nat → List Candidate → List Candidate
  | 0, nearest => nearest
  | top + 1, nearest =>
    if top + 1 ≤ bottom then nearest
    else g.descend query bottom top (g.searchLayer query nearest 1 (top + 1))

def neighborDistances (g : Graph) (id : String) (ids : List String) : List Candidate :=
  ids.map fun n => ⟨g.distanceBetween id n, n⟩

def dropExcess (layer : Nat) (id : String) : Nat → List Candidate → Graph → Graph
  | 0, _, g => g
  | _, [], g => g
  | excess + 1, victim :: rest, g =>
    if 1 < (g.neighbors layer victim.id).length then
      dropExcess layer id excess rest (g.unlink layer id victim.id)
    else dropExcess layer id (excess + 1) rest g

def shrink (g : Graph) (capacity layer : Nat) (id : String) : Graph :=
  let ids := g.neighbors layer id
  if ids.length ≤ capacity then g
  else
    dropExcess layer id (ids.length - capacity) (Candidate.sort (g.neighborDistances id ids)).reverse g

def connect (capacity layer : Nat) (id : String) (g : Graph) (neighbor : String) : Graph :=
  (g.link layer id neighbor).shrink capacity layer neighbor

def linkLayer (config : VectorConfig) (id : String) (v : Embedding) (layer : Nat) (g : Graph)
    (nearest : List Candidate) : Graph × List Candidate :=
  let candidates := g.searchLayer v nearest config.buildBreadth layer
  ((Draft.selectNeighbors config id candidates).foldl (connect (config.capacity layer) layer id) g,
    candidates)

def linkLayers (config : VectorConfig) (id : String) (v : Embedding) :
    Nat → Graph → List Candidate → Graph
  | 0, g, _ => g
  | layer + 1, g, nearest =>
    let linked := linkLayer config id v layer g nearest
    linkLayers config id v layer linked.1 linked.2

/-- The part of an insert that wires the new node to those that were there before it. -/
def linkBelow (config : VectorConfig) (g : Graph) (id : String) (v : Embedding) (level : Nat)
    (entry : EntryPoint) : Graph :=
  linkLayers config id v (min level entry.level + 1) g
    (g.descend v level entry.level [⟨g.distance v entry.id, entry.id⟩])

def linkNode (config : VectorConfig) (g : Graph) (id : String) (v : Embedding) (level : Nat) : Graph :=
  let put := g.putNode id v level
  match g.entry with
  | none => put.setEntryPoint (some ⟨id, level⟩)
  | some entry =>
    let linked := linkBelow config put id v level entry
    if entry.level < level then linked.setEntryPoint (some ⟨id, level⟩) else linked

def nearestPeer (g : Graph) (capacity layer : Nat) (id : String) (current : List String) :
    List String → Option Candidate → Option Candidate
  | [], best => best
  | peer :: rest, best =>
    if peer = id ∨ current.contains peer then g.nearestPeer capacity layer id current rest best
    else if capacity ≤ (g.neighbors layer peer).length then
      g.nearestPeer capacity layer id current rest best
    else
      g.nearestPeer capacity layer id current rest
        (Draft.nearer best ⟨g.distanceBetween id peer, peer⟩)

def reconnect (capacity layer : Nat) (former : List String) (g : Graph) (id : String) : Graph :=
  let current := g.neighbors layer id
  if capacity ≤ current.length then g
  else
    match g.nearestPeer capacity layer id current former none with
    | none => g
    | some peer => g.link layer id peer.id

def repair (g : Graph) (capacity layer : Nat) (former : List String) : Graph :=
  former.foldl (reconnect capacity layer former) g

def unlinkLayer (config : VectorConfig) (id : String) (g : Graph) (layer : Nat) : Graph :=
  let former := g.neighbors layer id
  (former.foldl (fun g n => g.unlink layer id n) g).repair (config.capacity layer) layer former

/-- Takes a node out of the lowest layers. -/
def unlinkLayers (config : VectorConfig) (g : Graph) (id : String) (layers : Nat) : Graph :=
  (List.range layers).foldl (unlinkLayer config id) g

/-- Takes a node out of all its layers and out of the graph. -/
def removeWired (config : VectorConfig) (g : Graph) (id : String) : Graph :=
  (unlinkLayers config g id (g.level id + 1)).removeNode id

def unlinkNode (config : VectorConfig) (g : Graph) (id : String) : Graph × Bool :=
  if id ∈ g.ids then
    let removed := removeWired config g id
    match removed.entry with
    | none => (removed, true)
    | some entry =>
      if entry.id = id then (removed.setEntryPoint removed.highestNode, true) else (removed, true)
  else (g, false)

end Graph

end HybridSearch

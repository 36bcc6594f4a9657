import HybridSearch.VectorIndex.Candidate
import HybridSearch.VectorIndex.Draft

/-!
# Best-first search of a layer

The search keeps the nearest candidates seen so far, at most `breadth` of them, and a frontier of those
whose neighbours have not been looked at. It always goes on from the nearest of the frontier and ends
when that one is farther than all that are kept.
-/
namespace HybridSearch

/-- The state of a search; both lists of candidates are sorted, nearest first. -/
structure Beam where
  visited : List String
  frontier : List Candidate
  best : List Candidate
  deriving Repr

namespace Beam

def isFull (b : Beam) (breadth : Nat) : Bool := breadth ≤ b.best.length

/-- Whether a candidate comes before the last one that is kept. -/
def beatsWorst (b : Beam) (c : Candidate) : Bool :=
  match b.best.getLast? with
  | some worst => c.isBefore worst
  | none => false

/-- Whether a candidate comes after the last one that is kept. -/
def losesToWorst (b : Beam) (c : Candidate) : Bool :=
  match b.best.getLast? with
  | some worst => worst.isBefore c
  | none => false

def start (entries : List Candidate) (breadth : Nat) : Beam :=
  let sorted := Candidate.sort entries
  ⟨entries.map (·.id), sorted, sorted.take breadth⟩

/-- Keeps a candidate, and goes on from it later, if there is room or it is near enough. -/
def offer (b : Beam) (breadth : Nat) (c : Candidate) : Beam :=
  if !b.isFull breadth || b.beatsWorst c then
    { b with
      frontier := c.insert b.frontier
      best := (c.insert b.best).take breadth }
  else b

variable (neighbors : String → Except VectorError (List String))
variable (distance : String → Except VectorError Binary64)

def visit (breadth : Nat) (b : Beam) (id : String) : Except VectorError Beam :=
  if b.visited.contains id then .ok b
  else do
    let c : Candidate := ⟨← distance id, id⟩
    return { b with visited := id :: b.visited }.offer breadth c

/-- Looks at the neighbours of a candidate taken off the frontier. -/
def expand (breadth : Nat) (b : Beam) (current : Candidate) : Except VectorError Beam := do
  (← neighbors current.id).foldlM (visit distance breadth) b

/-- Goes on for as many rounds as there is fuel; nothing when it runs out. -/
def run (breadth : Nat) : Nat → Beam → Except VectorError (Option (List Candidate))
  | 0, _ => .ok none
  | fuel + 1, b =>
    match b.frontier with
    | [] => .ok (some b.best)
    | current :: rest =>
      if b.isFull breadth && b.losesToWorst current then .ok (some b.best)
      else do
        let next ← expand neighbors distance breadth { b with frontier := rest } current
        run breadth fuel next

end Beam

namespace Draft

/-- How many ids the neighbour lists of a layer hold, pending and stored ones together. -/
def layerEntries (d : Draft) (layer : Nat) : Nat :=
  let lead := d.keys.layerLead layer
  let stored := (d.store.content.scan lead).map fun e => ((Record.neighbors? e.2).getD []).length
  let pending := (d.pending.scan lead).map fun e =>
    ((e.2.bind Record.neighbors?).getD []).length
  stored.foldr (· + ·) 0 + pending.foldr (· + ·) 0

/-- Up to `breadth` nearest nodes that can be reached from the entries, nearest first. A round per entry
and per id in the neighbour lists of the layer is enough. -/
def searchLayer (d : Draft) (query : Embedding) (entries : List Candidate) (breadth layer : Nat) :
    Except VectorError (List Candidate) := do
  let rounds := entries.length + d.layerEntries layer + 1
  let found ← Beam.run (d.neighbors layer) (d.distance query) breadth rounds
    (Beam.start entries breadth)
  return found.getD []

/-- Searches the layers from `top` down to `bottom + 1`, keeping one candidate on each. -/
def descend (d : Draft) (query : Embedding) (bottom : Nat) :
    Nat → List Candidate → Except VectorError (List Candidate)
  | 0, nearest => .ok nearest
  | top + 1, nearest =>
    if top + 1 ≤ bottom then .ok nearest
    else do
      let next ← d.searchLayer query nearest 1 (top + 1)
      descend d query bottom top next

end Draft

end HybridSearch

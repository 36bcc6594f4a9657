import HybridSearch.Bytes

/-!
# Keys of the stored graph

Every key starts with the prefix of its index, followed by what it is for: the embedding and the level
of a node, the neighbours of a node on a layer, the entry point and the number of nodes.
-/
namespace HybridSearch

structure KeySpace where
  lead : Bytes
  deriving DecidableEq, Repr

namespace KeySpace

def ofPrefix (keyPrefix : String) : KeySpace := ⟨Bytes.ofString keyPrefix⟩

def digits (n : Nat) : Bytes := (Nat.toDigits 10 n).map fun c => UInt8.ofNat c.toNat

def vector (k : KeySpace) (id : String) : Bytes :=
  k.lead ++ Bytes.ofString "vector:" ++ Bytes.ofString id

def nodeLead (k : KeySpace) : Bytes := k.lead ++ Bytes.ofString "meta:"

def node (k : KeySpace) (id : String) : Bytes := k.nodeLead ++ Bytes.ofString id

def neighborsLead (k : KeySpace) : Bytes := k.lead ++ Bytes.ofString "neighbors:"

def layerLead (k : KeySpace) (layer : Nat) : Bytes :=
  k.neighborsLead ++ digits layer ++ Bytes.ofString ":"

def neighbors (k : KeySpace) (layer : Nat) (id : String) : Bytes :=
  k.layerLead layer ++ Bytes.ofString id

def entryPoint (k : KeySpace) : Bytes := k.lead ++ Bytes.ofString "entrypoint"

def count (k : KeySpace) : Bytes := k.lead ++ Bytes.ofString "count"

/-- The id in a key of a level, unless it is not a text. -/
def idOfNode? (k : KeySpace) (key : Bytes) : Option String :=
  if key.startsWith k.nodeLead then Bytes.toString? (key.drop k.nodeLead.length) else none

end KeySpace

end HybridSearch

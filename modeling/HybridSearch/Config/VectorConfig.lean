import HybridSearch.Metric
import HybridSearch.Number.Decimal

/-!
# Settings of the vector index

`width` is the number of neighbours that a node may have on an upper layer; layer 0 allows twice as
many. `searchBreadth` and `buildBreadth` are the numbers of candidates kept while searching and while
inserting. `levelScale` is the mean of the distribution that levels are drawn from.
-/
namespace HybridSearch

structure VectorConfig where
  dimension : Nat := 768
  metric : Metric := .cosine
  width : Nat := 16
  searchBreadth : Nat := 200
  levelScale : Binary64 := ⟨0x3ff71547652b82fe⟩
  buildBreadth : Nat := 200
  keyPrefix : String := "vector:"
  seed : Option Nat := none
  syncWrites : Bool := false
  deriving DecidableEq, Repr, Inhabited

namespace VectorConfig

def maxDimension : Nat := 10000

def maxWidth : Nat := 100

def maxBreadth : Nat := 1000

def maxLevelScale : Binary64 := 10

inductive Fault where
  | dimension (given : Nat)
  | width (given : Nat)
  | searchBreadth (given : Nat)
  | buildBreadth (given : Nat)
  | levelScale (given : Binary64)
  | emptyKeyPrefix
  deriving DecidableEq, Repr

def outOfRange (name : String) (given bound : Nat) : String :=
  name ++ " " ++ toString given ++ " not in 1..=" ++ toString bound

def Fault.message : Fault → String
  | .dimension n => outOfRange "dimension" n maxDimension
  | .width n => outOfRange "m" n maxWidth
  | .searchBreadth n => outOfRange "ef" n maxBreadth
  | .buildBreadth n => outOfRange "eps" n maxBreadth
  | .levelScale x => "ml " ++ x.plain ++ " not in (0, " ++ maxLevelScale.plain ++ "]"
  | .emptyKeyPrefix => "prefix must not be empty"

def inRange (n bound : Nat) : Bool := 1 ≤ n && n ≤ bound

def validate (c : VectorConfig) : Except Fault Unit :=
  if !inRange c.dimension maxDimension then .error (.dimension c.dimension)
  else if !inRange c.width maxWidth then .error (.width c.width)
  else if !inRange c.searchBreadth maxBreadth then .error (.searchBreadth c.searchBreadth)
  else if !inRange c.buildBreadth maxBreadth then .error (.buildBreadth c.buildBreadth)
  else if !(Binary64.zero.lt c.levelScale && c.levelScale.le maxLevelScale) then
    .error (.levelScale c.levelScale)
  else if c.keyPrefix.isEmpty then .error .emptyKeyPrefix
  else .ok ()

/-- How many neighbours a node may have on a layer. -/
def capacity (c : VectorConfig) (layer : Nat) : Nat := if layer = 0 then c.width * 2 else c.width

def fieldNames : List String :=
  ["dimension", "distance", "m", "ef", "ml", "eps", "prefix", "seed", "sync_writes"]

/-- The settings that a document gives, over those of `base`. -/
def decodeOver? (base : VectorConfig) : Decoder VectorConfig := fun depth d => do
  let f ← Fields.decode? fieldNames depth d
  return {
    dimension := ← f.orElse "dimension" base.dimension Decoder.natural
    metric := ← f.orElse "distance" base.metric Metric.decode?
    width := ← f.orElse "m" base.width Decoder.natural
    searchBreadth := ← f.orElse "ef" base.searchBreadth Decoder.natural
    levelScale := ← f.orElse "ml" base.levelScale Decoder.real
    buildBreadth := ← f.orElse "eps" base.buildBreadth Decoder.natural
    keyPrefix := ← f.orElse "prefix" base.keyPrefix Decoder.string
    seed := ← f.orElse "seed" base.seed (Decoder.optional Decoder.natural)
    syncWrites := ← f.orElse "sync_writes" base.syncWrites Decoder.boolean }

def decode? : Decoder VectorConfig := decodeOver? {}

end VectorConfig

end HybridSearch

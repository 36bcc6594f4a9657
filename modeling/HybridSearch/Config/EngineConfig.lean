import HybridSearch.Datum.Decode
import HybridSearch.Number.Decimal

/-!
# Settings of the engine

The number of workers and the capacity of the queue they share, the weights of the two rankings in a
hybrid search, the page size of a query that names none, and how long indexing waits for room in
the queue.
-/
namespace HybridSearch

/-- The largest page, and the largest window of a ranking that a search looks at. -/
def maxSearchLimit : Nat := 10000

structure EngineConfig where
  workers : Nat := 4
  queueSize : Nat := 1000
  textWeight : Binary64 := Binary64.ofDecimal 6 (-1)
  vectorWeight : Binary64 := Binary64.ofDecimal 4 (-1)
  defaultLimit : Nat := 10
  enqueueTimeout : Nat := 5000
  deriving DecidableEq, Repr, Inhabited

namespace EngineConfig

inductive Fault where
  | noWorkers
  | noQueue
  | weights (text vector : Binary64)
  | defaultLimit (given : Nat)
  deriving DecidableEq, Repr

def Fault.message : Fault → String
  | .noWorkers => "workers must be at least 1"
  | .noQueue => "queue_size must be at least 1"
  | .weights text vector =>
    "fusion weights must be finite and non-negative (text " ++ text.plain ++ ", vector " ++
      vector.plain ++ ")"
  | .defaultLimit n =>
    "default_limit " ++ toString n ++ " not in 1..=" ++ toString maxSearchLimit

def isWeight (w : Binary64) : Bool := w.isFinite && Binary64.zero.le w

def validate (c : EngineConfig) : Except Fault Unit :=
  if c.workers = 0 then .error .noWorkers
  else if c.queueSize = 0 then .error .noQueue
  else if !(isWeight c.textWeight && isWeight c.vectorWeight) then
    .error (.weights c.textWeight c.vectorWeight)
  else if !(1 ≤ c.defaultLimit && c.defaultLimit ≤ maxSearchLimit) then
    .error (.defaultLimit c.defaultLimit)
  else .ok ()

def fieldNames : List String :=
  ["workers", "queue_size", "text_weight", "vector_weight", "default_limit", "enqueue_timeout_ms"]

def decode? : Decoder EngineConfig := fun depth d => do
  let f ← Fields.decode? fieldNames depth d
  let standard : EngineConfig := {}
  return {
    workers := ← f.orElse "workers" standard.workers Decoder.natural
    queueSize := ← f.orElse "queue_size" standard.queueSize Decoder.natural
    textWeight := ← f.orElse "text_weight" standard.textWeight Decoder.real
    vectorWeight := ← f.orElse "vector_weight" standard.vectorWeight Decoder.real
    defaultLimit := ← f.orElse "default_limit" standard.defaultLimit Decoder.natural
    enqueueTimeout := ← f.orElse "enqueue_timeout_ms" standard.enqueueTimeout Decoder.natural }

end EngineConfig

end HybridSearch

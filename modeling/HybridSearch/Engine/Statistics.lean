import HybridSearch.Number.Decimal

/-!
# Counters of the engine

Every write task that ran counts once, as indexed, deleted or failed; searches count when they were
answered. `queueDepth` is the number of waiting tasks when it was last looked at. The two flags say
whether a write and a search have succeeded so far. The counts have no bound: counters of sixty-four bits
agree with them modulo 2^64, and start over only after that many tasks or searches.
-/
namespace HybridSearch

structure Statistics where
  documentsIndexed : Nat := 0
  documentsDeleted : Nat := 0
  vectorInserts : Nat := 0
  tasksFailed : Nat := 0
  searchesPerformed : Nat := 0
  queueDepth : Nat := 0
  totalQueryNanos : Nat := 0
  hasIndexed : Bool := false
  hasSearched : Bool := false
  deriving DecidableEq, Repr, Inhabited

inductive WriteOutcome where
  | indexed (withVector : Bool)
  | deleted
  deriving DecidableEq, Repr

namespace Statistics

def recordWrite (s : Statistics) (outcome : WriteOutcome) (queueDepth : Nat) : Statistics :=
  match outcome with
  | .indexed withVector =>
    { s with
      documentsIndexed := s.documentsIndexed + 1
      vectorInserts := if withVector then s.vectorInserts + 1 else s.vectorInserts
      queueDepth := queueDepth
      hasIndexed := true }
  | .deleted =>
    { s with
      documentsDeleted := s.documentsDeleted + 1
      queueDepth := queueDepth
      hasIndexed := true }

def recordFailure (s : Statistics) (queueDepth : Nat) : Statistics :=
  { s with tasksFailed := s.tasksFailed + 1, queueDepth := queueDepth }

def recordSearch (s : Statistics) (nanos : Nat) : Statistics :=
  { s with
    searchesPerformed := s.searchesPerformed + 1
    totalQueryNanos := s.totalQueryNanos + nanos
    hasSearched := true }

def setQueueDepth (s : Statistics) (queueDepth : Nat) : Statistics :=
  { s with queueDepth := queueDepth }

def nanosPerSecond : Nat := 1000000000

def secondsOfNanos (nanos : Nat) : Binary64 :=
  Binary64.ofNat (nanos / nanosPerSecond) +
    Binary64.ofNat (nanos % nanosPerSecond) / Binary64.ofNat nanosPerSecond

/-- The whole nanoseconds nearest to a number of seconds, ties to even. -/
def nanosOfSeconds (x : Binary64) : Nat := x.rounded 9

/-- The mean time of a search, computed with doubles in seconds. -/
def averageQueryNanos (s : Statistics) : Nat :=
  if s.searchesPerformed = 0 then 0
  else nanosOfSeconds (secondsOfNanos s.totalQueryNanos / Binary64.ofNat s.searchesPerformed)

end Statistics

end HybridSearch

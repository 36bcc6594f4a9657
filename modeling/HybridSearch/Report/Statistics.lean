import HybridSearch.Engine.Statistics
import HybridSearch.TextIndex.Index
import HybridSearch.VectorIndex.Index

/-!
# Reports of statistics

The figures of the engine and of its two indexes together. The figures of the engine and of the vector
index name the times of the last successes, which the caller knows.
-/
namespace HybridSearch

/-- A time, counted from the beginning of 1970. -/
structure Moment where
  seconds : Nat
  nanos : Nat
  deriving DecidableEq, Repr

structure EngineFigures where
  documentsIndexed : Nat := 0
  documentsDeleted : Nat := 0
  vectorInserts : Nat := 0
  tasksFailed : Nat := 0
  searchesPerformed : Nat := 0
  queueDepth : Nat := 0
  averageQueryNanos : Nat := 0
  lastIndexed : Option Moment := none
  lastSearched : Option Moment := none
  workers : Nat := 0
  deriving DecidableEq, Repr, Inhabited

structure VectorFigures where
  vectors : Nat := 0
  layers : Nat := 0
  edges : Nat := 0
  averageDegree : Binary64 := Binary64.zero
  searches : Nat := 0
  inserts : Nat := 0
  deletes : Nat := 0
  lastInserted : Option Moment := none
  lastSearched : Option Moment := none
  deriving DecidableEq, Repr, Inhabited

structure StatisticsReport where
  engine : EngineFigures
  text : TextStatistics
  vector : VectorFigures
  deriving DecidableEq, Repr, Inhabited

def Moment.json (m : Moment) : Json :=
  .object [("secs_since_epoch", Json.ofNat m.seconds), ("nanos_since_epoch", Json.ofNat m.nanos)]

def Moment.optionalJson : Option Moment → Json
  | none => .null
  | some m => m.json

def EngineFigures.ofStatistics (workers : Nat) (s : Statistics) (lastIndexed lastSearched : Option Moment) :
    EngineFigures where
  documentsIndexed := s.documentsIndexed
  documentsDeleted := s.documentsDeleted
  vectorInserts := s.vectorInserts
  tasksFailed := s.tasksFailed
  searchesPerformed := s.searchesPerformed
  queueDepth := s.queueDepth
  averageQueryNanos := s.averageQueryNanos
  lastIndexed := lastIndexed
  lastSearched := lastSearched
  workers := workers

def EngineFigures.json (f : EngineFigures) : Json :=
  .object [("documents_indexed", Json.ofNat f.documentsIndexed),
    ("documents_deleted", Json.ofNat f.documentsDeleted),
    ("vector_inserts", Json.ofNat f.vectorInserts),
    ("tasks_failed", Json.ofNat f.tasksFailed),
    ("searches_performed", Json.ofNat f.searchesPerformed),
    ("queue_depth", Json.ofNat f.queueDepth),
    ("average_query_time", .object
      [("secs", Json.ofNat (f.averageQueryNanos / Statistics.nanosPerSecond)),
        ("nanos", Json.ofNat (f.averageQueryNanos % Statistics.nanosPerSecond))]),
    ("last_index_time", Moment.optionalJson f.lastIndexed),
    ("last_query_time", Moment.optionalJson f.lastSearched),
    ("workers", Json.ofNat f.workers)]

def TextStatistics.json (s : TextStatistics) : Json :=
  .object [("total_documents", Json.ofNat s.documents),
    ("total_content_length", Json.ofNat s.contentLength),
    ("documents_by_type", .object (s.byKind.map fun (kind, n) => (kind, Json.ofNat n)))]

def VectorFigures.ofIndex (ix : VectorIndex) (lastInserted lastSearched : Option Moment) :
    VectorFigures where
  vectors := ix.vectorCount
  layers := ix.layerCount
  edges := ix.edgeCount
  averageDegree := ix.averageDegree
  searches := ix.searches
  inserts := ix.inserts
  deletes := ix.deletes
  lastInserted := lastInserted
  lastSearched := lastSearched

def VectorFigures.json (f : VectorFigures) : Json :=
  .object [("vector_count", Json.ofNat f.vectors), ("level_count", Json.ofNat f.layers),
    ("total_edges", Json.ofNat f.edges), ("average_degree", Json.ofReal f.averageDegree),
    ("searches_performed", Json.ofNat f.searches), ("inserts_performed", Json.ofNat f.inserts),
    ("deletes_performed", Json.ofNat f.deletes),
    ("last_insert_time", Moment.optionalJson f.lastInserted),
    ("last_search_time", Moment.optionalJson f.lastSearched)]

namespace StatisticsReport

def json (r : StatisticsReport) : Json :=
  .object [("engine", r.engine.json), ("text", r.text.json), ("vector", r.vector.json)]

def padded (width : Nat) (s : String) : String :=
  s ++ String.ofList (List.replicate (width - s.length) ' ')

def line (name figure : String) : String := "  " ++ padded 16 (name ++ ":") ++ figure

def kindLine (kind : String) (count : Nat) : String := "    " ++ padded 12 kind ++ " " ++ toString count

def lines (r : StatisticsReport) : List String :=
  ["Text index",
    line "documents" (toString r.text.documents),
    line "content bytes" (toString r.text.contentLength)] ++
  (r.text.byKind.map fun (kind, count) => kindLine kind count) ++
  ["Vector index",
    line "vectors" (toString r.vector.vectors),
    line "levels" (toString r.vector.layers),
    line "edges" (toString r.vector.edges),
    line "average degree" (r.vector.averageDegree.fixed 2),
    "Engine",
    line "workers" (toString r.engine.workers),
    line "queue depth" (toString r.engine.queueDepth),
    line "indexed" (toString r.engine.documentsIndexed),
    line "failed" (toString r.engine.tasksFailed)]

def human (r : StatisticsReport) : String := "\n".intercalate r.lines

def report (r : StatisticsReport) (asJson : Bool) : String :=
  if asJson then r.json.pretty else r.human

end StatisticsReport

end HybridSearch

import HybridSearch.CommandLine.Failure
import HybridSearch.CommandLine.Host
import HybridSearch.CommandLine.Invocation
import HybridSearch.Config.Settings
import HybridSearch.Corpus
import HybridSearch.Database.Snapshot
import HybridSearch.Report.Document
import HybridSearch.Report.Search
import HybridSearch.Report.Statistics

/-!
# Sessions over a database

A session opens an engine over a database, runs one command and says what it came to.
-/
namespace HybridSearch

/-- The names of the files of a database, as failures show them. -/
structure DatabasePaths where
  text : String
  vectors : String

def DatabasePaths.ofDirectory (directory : String) : DatabasePaths :=
  ⟨pathIn directory "text.db", pathIn directory "vectors.redb"⟩

def Settings.Fault.message : Settings.Fault → String
  | .malformed => "TOML parse error"
  | .engine fault => (EngineError.invalidConfig fault).message
  | .text fault => (TextError.invalidConfig fault).message
  | .vector fault => (VectorError.invalidConfig fault).message

namespace Database

def textFailure (paths : DatabasePaths) (e : TextError) : Failure :=
  ⟨"Failed to open text index: " ++ paths.text, [e.message]⟩

def openEngine (db : Database) (s : Settings) (paths : DatabasePaths) : Except Failure Engine := do
  let text ← (db.openText s.text).mapError (textFailure paths)
  let store : StoreHandle := { content := db.store }
  let vector ← (VectorIndex.open s.vector [] store).mapError fun e =>
    ⟨"Failed to open vector index", [e.message]⟩
  (Engine.open s.engine ⟨text, vector, store⟩).mapError (Failure.ofEngine "Failed to start engine")

def ofSnapshots (paths : DatabasePaths) (text vectors : String) : Except Failure Database :=
  match ({} : Database).withTextSnapshot? text with
  | none => .error (textFailure paths (.database .unreadable))
  | some db =>
    match db.withVectorSnapshot? vectors with
    | none => .error ⟨"Failed to open vector store: " ++ paths.vectors,
        [(StoreFault.database "unreadable store").message]⟩
    | some db => .ok db

end Database

namespace Engine

def withSamples (e : Engine) (samples : List Binary64) : Engine :=
  { e with indexes := { e.indexes with vector := { e.indexes.vector with samples } } }

def reportSearch (e : Engine) (o : SearchOptions) (asJson : Bool) (nanos : Nat) :
    Except Failure String × Engine :=
  match e.search false o.toRequest nanos with
  | (.error cause, e) => (.error (Failure.ofEngine "Search failed" cause), e)
  | (.ok page, e) =>
    let report : SearchReport :=
      ⟨o.query, page.hits.map (·.document), page.hits.map (·.score), page.total, nanos⟩
    (.ok (report.report asJson), e)

/-- The figures of an engine that has answered nothing yet. -/
def reportStatistics (e : Engine) (asJson : Bool) : Except Failure String := do
  let text ← e.textStatistics.mapError (Failure.ofEngine "Failed to read text stats")
  let report : StatisticsReport := ⟨EngineFigures.ofStatistics e.config.workers e.currentStatistics none none,
    text, VectorFigures.ofIndex e.indexes.vector none none⟩
  return report.report asJson

/-- Answers a command that changes nothing. -/
def ask (e : Engine) (message : String) (answer : Except EngineError String) :
    Except Failure String × Engine :=
  (answer.mapError (Failure.ofEngine message), e)

/-- Carries out a change, if it succeeds, and says so. -/
def change (e : Engine) (message done : String) (next : Except EngineError Engine) :
    Except Failure String × Engine :=
  match next with
  | .ok e => (.ok done, e)
  | .error cause => (.error (Failure.ofEngine message cause), e)

/-- Runs a command; the text of a corpus is `corpus`. -/
def runCommand (e : Engine) (asJson : Bool) (corpus : String) : Command → Except Failure String × Engine
  | .index _ =>
    let (e, report) := e.load [] corpus
    (.ok (report.report asJson), e)
  | .search o => e.reportSearch o asJson 0
  | .get id tenant =>
    e.ask ("Failed to fetch " ++ id) ((e.document id tenant).map (·.report asJson))
  | .list tenant limit offset =>
    e.ask "Failed to list documents" ((e.tenantDocuments tenant limit offset).map fun ds =>
      (⟨tenant, ds⟩ : Listing).report asJson)
  | .delete id =>
    match e.perform (.delete id) with
    | (e, .ok ()) => (.ok ("Deleted " ++ id), e)
    | (e, .error cause) => (.error (Failure.ofEngine ("Failed to delete " ++ id) cause), e)
  | .stats => (e.reportStatistics asJson, e)
  | .optimize => e.change "Failed to optimize" "Optimized full-text index" e.optimize
  | .rebuild => e.change "Failed to rebuild full-text index"
      "Rebuilt full-text index; vectors are kept but return no documents until re-indexed" e.rebuildText

end Engine

end HybridSearch

import HybridSearch.Engine.Engine
import HybridSearch.Text.Layout

/-!
# Loading a corpus

A corpus has a document in JSON on each line that is not blank. Several tasks are in flight at a time, at
most two for each worker, and may complete in any order; a task takes effect when it completes. Every
line counts once, as indexed or as failed.
-/
namespace HybridSearch

structure LoadReport where
  indexed : Nat := 0
  failed : Nat := 0
  deriving DecidableEq, Repr, Inhabited

namespace LoadReport

def count (r : LoadReport) (answer : Except EngineError Unit) : LoadReport :=
  match answer with
  | .ok () => { r with indexed := r.indexed + 1 }
  | .error _ => { r with failed := r.failed + 1 }

def json (r : LoadReport) : Json :=
  .object [("failed", Json.ofNat r.failed), ("indexed", Json.ofNat r.indexed)]

def human (r : LoadReport) : String :=
  "Indexed " ++ toString r.indexed ++ " document" ++ (if r.indexed = 1 then "" else "s") ++ " (" ++
    toString r.failed ++ " failed)"

def report (r : LoadReport) (asJson : Bool) : String := if asJson then r.json.compact else r.human

end LoadReport

/-- `order` gives the places, among the tasks in flight, of those that complete next; when it ends, the
first task in flight completes first. -/
structure Load where
  engine : Engine
  order : List Nat := []
  report : LoadReport := {}
  inFlight : List Document := []

namespace Load

def window (l : Load) : Nat := 2 * l.engine.config.workers

def complete (l : Load) (place : Nat) : Load :=
  match l.inFlight[place]? with
  | none => l
  | some d =>
    let (engine, answer) := l.engine.perform (.index d)
    { l with
      engine
      report := l.report.count answer
      inFlight := l.inFlight.eraseIdx place }

def completeNext (l : Load) : Load :=
  { l with order := l.order.tail }.complete (l.order.headD 0 % l.inFlight.length)

def documentOf? (line : List Char) : Option Document :=
  (Json.read? (String.ofList line)).bind (Document.decode? documentDepth)

/-- Sends the document of a line, as soon as there is room for another task. -/
def addLine (l : Load) (line : List Char) : Load :=
  if Text.isBlank line then l
  else match documentOf? line with
    | none => { l with report := { l.report with failed := l.report.failed + 1 } }
    | some d =>
      let l := if l.window ≤ l.inFlight.length then l.completeNext else l
      { l with inFlight := l.inFlight ++ [d] }

def completeFor : Nat → Load → Load
  | 0, l => l
  | tasks + 1, l => completeFor tasks l.completeNext

def drain (l : Load) : Load := completeFor l.inFlight.length l

end Load

namespace Engine

def load (e : Engine) (order : List Nat) (corpus : String) : Engine × LoadReport :=
  let l := ((Text.lines corpus.toList).foldl Load.addLine { engine := e, order }).drain
  (l.engine, l.report)

end Engine

end HybridSearch

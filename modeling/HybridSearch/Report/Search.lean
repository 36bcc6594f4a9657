import HybridSearch.Engine.Fusion
import HybridSearch.Engine.Statistics
import HybridSearch.Json.Printer
import HybridSearch.Text.Layout

/-!
# Reports of searches

What a search found, as JSON or for a reader. A hit shows the title of its document, or the id of a
document without one, and a snippet of the content.
-/
namespace HybridSearch

/-- The documents of a page and their scores; a document without a score counts but is not shown. -/
structure SearchReport where
  query : String
  documents : List Document
  scores : List Binary64
  total : Nat
  nanos : Nat
  deriving Repr, Inhabited

namespace SearchReport

def snippetLength : Nat := 200

def snippetOf (d : Document) : List Char := Text.snippet snippetLength d.content.toList

def hits (r : SearchReport) : List Scored := (r.documents.zip r.scores).map fun (d, s) => ⟨d, s⟩

def milliseconds (r : SearchReport) : Binary64 := Statistics.secondsOfNanos r.nanos * 1000

def hitJson (h : Scored) : Json :=
  .object [("id", .text h.document.id), ("tenant_id", .text h.document.tenant),
    ("type", .text h.document.kind.name), ("title", .text h.document.title),
    ("score", Json.ofReal h.score), ("snippet", .text (String.ofList (snippetOf h.document)))]

def json (r : SearchReport) : Json :=
  .object [("query", .text r.query), ("total", Json.ofNat r.total),
    ("query_time_ms", Json.ofReal r.milliseconds), ("results", .list (r.hits.map hitJson))]

def margin : List Char := "   ".toList

def displayName (d : Document) : String := if d.title.isEmpty then d.id else d.title

def snippetLine (d : Document) : List Char :=
  match snippetOf d with
  | [] => []
  | cs => margin ++ Text.indent margin cs ++ ['\n']

/-- A hit at a place of the page, with an empty line after it. -/
def hitText (place : Nat) (h : Scored) : List Char :=
  let d := h.document
  (toString place ++ ". " ++ displayName d ++ " (score: " ++ h.score.fixed 4 ++ ")\n" ++
    "   [" ++ d.kind.name ++ " | tenant: " ++ d.tenant ++ " | id: " ++ d.id ++ "]\n").toList ++
    snippetLine d ++ ['\n']

def heading (r : SearchReport) : String :=
  let count := r.documents.length
  "Found " ++ toString count ++ " result" ++ (if count = 1 then "" else "s") ++ " for \"" ++ r.query ++
    "\" (" ++ r.milliseconds.fixed 1 ++ " ms):\n\n"

def human (r : SearchReport) : String :=
  if r.documents.isEmpty then "No results found for \"" ++ r.query ++ "\""
  else
    let shown := (r.hits.zipIdx 1).flatMap fun (h, place) => hitText place h
    String.ofList (Text.trimEnd (r.heading.toList ++ shown))

def report (r : SearchReport) (asJson : Bool) : String := if asJson then r.json.pretty else r.human

end SearchReport

end HybridSearch

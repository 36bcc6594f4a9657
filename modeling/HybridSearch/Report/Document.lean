import HybridSearch.Document
import HybridSearch.Json.Printer
import HybridSearch.Text.Layout

/-!
# Reports of documents

One document in full, or the documents of a tenant, a line each.
-/
namespace HybridSearch

namespace Document

/-- The lines of a document that says something in them. -/
def details (d : Document) : String :=
  (if d.title.isEmpty then "" else "Title: " ++ d.title ++ "\n") ++
    (if d.metadata.isEmpty then "" else "Metadata: " ++ (Json.object d.metadata).compact ++ "\n") ++
    match d.embedding with
    | none => ""
    | some v => "Vector: " ++ toString v.length ++ " dimensions\n"

def human (d : Document) : String :=
  d.id ++ " [" ++ d.kind.name ++ " | tenant: " ++ d.tenant ++ "]\n" ++ d.details ++ "\n" ++
    String.ofList (Text.trim d.content.toList)

def report (d : Document) (asJson : Bool) : String := if asJson then d.json.pretty else d.human

def listingLine (d : Document) : String := d.id ++ "\t" ++ d.kind.name ++ "\t" ++ d.title

end Document

/-- The documents of a tenant, in the order given. -/
structure Listing where
  tenant : String
  documents : List Document
  deriving Repr, Inhabited

namespace Listing

def human (l : Listing) : String :=
  if l.documents.isEmpty then "No documents for tenant \"" ++ l.tenant ++ "\""
  else "\n".intercalate (l.documents.map (·.listingLine))

def report (l : Listing) (asJson : Bool) : String :=
  if asJson then (Json.list (l.documents.map (·.json))).pretty else l.human

end Listing

end HybridSearch

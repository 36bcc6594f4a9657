import HybridSearch.Json.Value
import HybridSearch.Metric

/-!
# Documents

The unit of indexing. The id is the identity of a document: indexing the same id again replaces it. A
document without an embedding is only found by its text.
-/
namespace HybridSearch

inductive DocumentKind where
  | tableRow
  | file
  | record
  deriving DecidableEq, Repr, Inhabited

namespace DocumentKind

def name : DocumentKind → String
  | tableRow => "table"
  | file => "file"
  | record => "record"

def ofName? (s : String) : Option DocumentKind :=
  match s with
  | "table" => some tableRow
  | "file" => some file
  | "record" => some record
  | _ => none

def unknownNameMessage (s : String) : String := "unknown document type: " ++ s

def decode? : Decoder DocumentKind :=
  Decoder.choice [("table", tableRow), ("file", file), ("record", record)]

theorem ofName?_name (k : DocumentKind) : ofName? k.name = some k := by
  cases k <;> rfl

end DocumentKind

/-- Free-form members, in byte order of their names. -/
abbrev Metadata := List (String × Json)

def Metadata.decode? : Decoder Metadata := fun depth d =>
  match d with
  | .record _ =>
    match Json.ofDatum? depth d with
    | some (.object members) => some members
    | _ => none
  | _ => none

structure Document where
  id : String
  tenant : String
  kind : DocumentKind
  title : String := ""
  content : String := ""
  metadata : Metadata := []
  embedding : Option Embedding := none
  timestamp : Int := 0
  deriving Repr, Inhabited

namespace Document

def decode? : Decoder Document := fun depth d => do
  let f ← Fields.decode?
    ["id", "tenant_id", "type", "title", "content", "metadata", "vector", "timestamp"] depth d
  return {
    id := ← f.required "id" Decoder.string
    tenant := ← f.required "tenant_id" Decoder.string
    kind := ← f.required "type" DocumentKind.decode?
    title := ← f.orElse "title" "" Decoder.string
    content := ← f.orElse "content" "" Decoder.string
    metadata := ← f.orElse "metadata" [] Metadata.decode?
    embedding := ← f.orElse "vector" none (Decoder.optional (Decoder.list Decoder.real))
    timestamp := ← f.orElse "timestamp" 0 Decoder.integer }

def json (d : Document) : Json :=
  let vector := match d.embedding with
    | none => []
    | some v => [("vector", .list (v.map Json.ofReal))]
  .object ([("id", .text d.id), ("tenant_id", .text d.tenant), ("type", .text d.kind.name),
    ("title", .text d.title), ("content", .text d.content), ("metadata", .object d.metadata)] ++
    vector ++ [("timestamp", .number (.whole d.timestamp))])

end Document

end HybridSearch

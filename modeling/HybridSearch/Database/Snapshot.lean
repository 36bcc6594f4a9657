import HybridSearch.Database

/-!
# Databases as text

A database is written as two JSON texts, one with the tables of the text indexes and one with the entries
of the store in hexadecimal digits. An empty text stands for an empty database.
-/
namespace HybridSearch

namespace TextRow

def json (r : TextRow) : Json :=
  .list [.text r.id, .text r.tenant, .text r.kind, .text r.title, .text r.content, .text r.metadata]

def decode? : Decoder TextRow := fun depth d => do
  let f ← Fields.decode? ["id", "tenant", "kind", "title", "content", "metadata"] depth d
  return {
    id := ← f.required "id" Decoder.string
    tenant := ← f.required "tenant" Decoder.string
    kind := ← f.required "kind" Decoder.string
    title := ← f.required "title" Decoder.string
    content := ← f.required "content" Decoder.string
    metadata := ← f.required "metadata" Decoder.string }

end TextRow

namespace ListingRow

def json (r : ListingRow) : Json :=
  .list [.text r.id, .text r.tenant, .text r.kind, .text r.title, Json.ofNat r.contentLength,
    .number (.whole r.createdAt), .number (.whole r.updatedAt)]

def decode? : Decoder ListingRow := fun depth d => do
  let f ← Fields.decode?
    ["id", "tenant", "kind", "title", "contentLength", "createdAt", "updatedAt"] depth d
  return {
    id := ← f.required "id" Decoder.string
    tenant := ← f.required "tenant" Decoder.string
    kind := ← f.required "kind" Decoder.string
    title := ← f.required "title" Decoder.string
    contentLength := ← f.required "contentLength" Decoder.natural
    createdAt := ← f.required "createdAt" Decoder.integer
    updatedAt := ← f.required "updatedAt" Decoder.integer }

end ListingRow

namespace TextTables

def json (name : String) (t : TextTables) : Json :=
  .list [.text name, .text t.specification, .list (t.rows.map (·.json)),
    .list (t.listing.map (·.json))]

def decode? : Decoder (String × TextTables) := fun depth d => do
  let f ← Fields.decode? ["name", "tokenizer", "rows", "listing"] depth d
  let specification ← f.required "tokenizer" Decoder.string
  let tokenizer ← (Analysis.Tokenizer.ofSpec specification).toOption
  return (← f.required "name" Decoder.string, {
    specification
    tokenizer
    rows := ← f.required "rows" (Decoder.list TextRow.decode?)
    listing := ← f.required "listing" (Decoder.list ListingRow.decode?) })

end TextTables

namespace Database

def textSnapshot (db : Database) : String :=
  (Json.object [("clock", Json.ofNat db.clock),
    ("tables", .list (db.tables.map fun (name, t) => t.json name))]).compact

def vectorSnapshot (db : Database) : String :=
  (Json.list (db.store.entries.map fun (key, value) =>
    .list [.text key.hex, .text value.hex])).compact

/-- The document that a snapshot holds, with the value of an empty one. -/
def readSnapshot? (empty : Datum) (snapshot : String) : Option Datum :=
  if snapshot.isEmpty then some empty else Json.read? snapshot

def withTextSnapshot? (db : Database) (snapshot : String) : Option Database := do
  let d ← readSnapshot? (.record []) snapshot
  let f ← Fields.decode? ["clock", "tables"] documentDepth d
  return { db with
    clock := ← f.orElse "clock" 0 Decoder.natural
    tables := ← f.orElse "tables" [] (Decoder.list TextTables.decode?) }

def changeOf? (hex : List String) : Option Change :=
  match hex with
  | [key, value] => do return (← Bytes.ofHex? key, some (← Bytes.ofHex? value))
  | _ => none

def withVectorSnapshot? (db : Database) (snapshot : String) : Option Database := do
  let d ← readSnapshot? (.list []) snapshot
  let entries ← Decoder.list (Decoder.list Decoder.string) documentDepth d
  return { db with store := Store.write ByteMap.empty (← entries.mapM changeOf?) }

end Database

end HybridSearch

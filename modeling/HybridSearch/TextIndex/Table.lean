import HybridSearch.Json.Printer
import HybridSearch.Json.Reader
import HybridSearch.TextIndex.Entry
import HybridSearch.TextIndex.Error

/-!
# Tables of the text index

Two tables hold a row for each document: the text rows that searches look at, with the metadata as JSON
text, and the listing rows with the length of the content and the times of the first and the last write.
-/
namespace HybridSearch

structure TextRow where
  id : String
  tenant : String
  kind : String
  title : String
  content : String
  metadata : String
  deriving DecidableEq, Repr, Inhabited

/-- `contentLength` counts characters. -/
structure ListingRow where
  id : String
  tenant : String
  kind : String
  title : String
  contentLength : Nat
  createdAt : Int
  updatedAt : Int
  deriving DecidableEq, Repr, Inhabited

/-- `specification` is what the tokenizer was made from. -/
structure TextTables where
  specification : String
  tokenizer : Analysis.Tokenizer
  rows : List TextRow := []
  listing : List ListingRow := []
  deriving DecidableEq, Repr, Inhabited

namespace TextRow

def ofEntry (e : TextEntry) : TextRow :=
  ⟨e.id, e.tenant, e.kind, e.title, e.content, (Json.object e.metadata).compact⟩

def metadata? (r : TextRow) : Option Metadata :=
  (Json.read? r.metadata).bind (Metadata.decode? documentDepth)

end TextRow

namespace ListingRow

def ofEntry (e : TextEntry) (createdAt updatedAt : Int) : ListingRow :=
  ⟨e.id, e.tenant, e.kind, e.title, e.content.length, createdAt, updatedAt⟩

end ListingRow

namespace TextTables

/-- Replaces the listing row of the same id in its place, or adds one at the end; the time of the first
write stays. -/
def upsert (e : TextEntry) (now : Int) : List ListingRow → List ListingRow
  | [] => [ListingRow.ofEntry e now now]
  | row :: rest =>
    if row.id = e.id then ListingRow.ofEntry e row.createdAt now :: rest
    else row :: upsert e now rest

/-- Writes both rows of a document, in place of those that its id has. -/
def put (t : TextTables) (e : TextEntry) (now : Int) : TextTables :=
  { t with
    rows := (t.rows.filter fun r => decide (r.id ≠ e.id)) ++ [TextRow.ofEntry e]
    listing := upsert e now t.listing }

def holds (t : TextTables) (id : String) : Bool :=
  t.rows.any (fun r => r.id == id) || t.listing.any fun r => r.id == id

def remove (t : TextTables) (id : String) : TextTables :=
  { t with
    rows := t.rows.filter fun r => decide (r.id ≠ id)
    listing := t.listing.filter fun r => decide (r.id ≠ id) }

/-- The time of the last write of an id; zero when it has no listing row. -/
def updatedAt (t : TextTables) (id : String) : Int :=
  ((t.listing.find? fun r => r.id == id).map (·.updatedAt)).getD 0

/-- The entry of a row; `action` says what the caller is doing. -/
def entryOf (t : TextTables) (action : String) (r : TextRow) : Except TextError TextEntry :=
  match r.metadata? with
  | some metadata =>
    .ok ⟨r.id, r.tenant, r.kind, r.title, r.content, metadata, t.updatedAt r.id⟩
  | none => .error (.database (.unreadableMetadata action))

end TextTables

end HybridSearch

import HybridSearch.Document

/-!
# Text entries

A document as the text index keeps it: without its embedding, and with any name for its kind. The time
of the last write is set by the index.
-/
namespace HybridSearch

structure TextEntry where
  id : String
  tenant : String
  kind : String
  title : String
  content : String
  metadata : Metadata := []
  updatedAt : Int := 0
  deriving Repr, Inhabited

namespace TextEntry

def decode? : Decoder TextEntry := fun depth d => do
  let f ← Fields.decode?
    ["id", "tenant_id", "doc_type", "title", "content", "metadata", "updated_at"] depth d
  return {
    id := ← f.required "id" Decoder.string
    tenant := ← f.required "tenant_id" Decoder.string
    kind := ← f.required "doc_type" Decoder.string
    title := ← f.required "title" Decoder.string
    content := ← f.required "content" Decoder.string
    metadata := ← f.orElse "metadata" [] Metadata.decode?
    updatedAt := ← f.orElse "updated_at" 0 Decoder.integer }

/-- The document of an entry, when its kind is one that documents have. -/
def toDocument? (e : TextEntry) : Option Document :=
  (DocumentKind.ofName? e.kind).map fun kind =>
    ⟨e.id, e.tenant, kind, e.title, e.content, e.metadata, none, e.updatedAt⟩

end TextEntry

def Document.toEntry (d : Document) : TextEntry :=
  ⟨d.id, d.tenant, d.kind.name, d.title, d.content, d.metadata, 0⟩

end HybridSearch

import HybridSearch.Datum.Decode
import HybridSearch.Json.Printer
import HybridSearch.Json.Reader

/-!
# Stored records of the graph

Levels, the entry point and neighbour lists are stored as JSON, the number of nodes as eight bytes.
-/
namespace HybridSearch

/-- The node that every descent starts from, and its level. -/
structure EntryPoint where
  id : String
  level : Nat
  deriving DecidableEq, Repr

namespace Record

def encode (j : Json) : Bytes := Bytes.ofString j.compact

def decode? {α : Type} (decoder : Decoder α) (b : Bytes) : Option α :=
  (Json.readBytes? b).bind (decoder documentDepth)

def level (level : Nat) : Bytes := encode (.object [("level", Json.ofNat level)])

def levelDecoder : Decoder Nat := fun depth d => do
  (← Fields.decode? ["level"] depth d).required "level" Decoder.natural

def level? (b : Bytes) : Option Nat := decode? levelDecoder b

def entryPoint (e : EntryPoint) : Bytes :=
  encode (.object [("id", .text e.id), ("level", Json.ofNat e.level)])

def entryPointDecoder : Decoder EntryPoint := fun depth d => do
  let f ← Fields.decode? ["id", "level"] depth d
  return ⟨← f.required "id" Decoder.string, ← f.required "level" Decoder.natural⟩

def entryPoint? (b : Bytes) : Option EntryPoint := decode? entryPointDecoder b

def neighbors (ids : List String) : Bytes := encode (.list (ids.map .text))

def neighbors? (b : Bytes) : Option (List String) := decode? (Decoder.list Decoder.string) b

def count (n : Nat) : Bytes := Bytes.ofUInt64 (UInt64.ofNat n)

def count? (b : Bytes) : Option Nat := if b.length = 8 then some b.toNat else none

end Record

end HybridSearch

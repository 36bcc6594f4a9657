import HybridSearch.Bytes
import HybridSearch.Datum

/-!
# JSON values

The members of an object are kept in the order in which they are written out. An object that was read
from a document has its names once each and in byte order.
-/
namespace HybridSearch

inductive Json where
  | null
  | bool (b : Bool)
  | number (n : Number)
  | text (s : String)
  | list (items : List Json)
  | object (members : List (String × Json))
  deriving Repr, Inhabited

namespace Json

def ofNat (n : Nat) : Json := .number (.whole n)

def ofReal (x : Binary64) : Json := .number (.real x)

/-- Puts a member at its place in byte order of the names; a member of the same name is replaced. -/
def insertMember (name : String) (value : Json) : List (String × Json) → List (String × Json)
  | [] => [(name, value)]
  | (n, v) :: rest =>
    match String.byteOrder name n with
    | .lt => (name, value) :: (n, v) :: rest
    | .eq => (name, value) :: rest
    | .gt => (n, v) :: insertMember name value rest

def sortMembers (members : List (String × Json)) : List (String × Json) :=
  members.foldl (fun sorted m => insertMember m.1 m.2 sorted) []

mutual

/-- The value of a document, which may nest lists and records less than `depth` deep. -/
def ofDatum? : Nat → Datum → Option Json
  | _, .null => some .null
  | _, .bool b => some (.bool b)
  | _, .number n => n.map .number
  | _, .text s => s.map .text
  | depth, .list items => if depth < 2 then none else (ofItems? (depth - 1) items).map .list
  | depth, .record members =>
    if depth < 2 then none
    else (ofMembers? (depth - 1) members).map fun ms => .object (sortMembers ms)

def ofItems? : Nat → List Datum → Option (List Json)
  | _, [] => some []
  | depth, item :: rest => do
    let value ← ofDatum? depth item
    let values ← ofItems? depth rest
    return value :: values

def ofMembers? : Nat → List (Option String × Datum) → Option (List (String × Json))
  | _, [] => some []
  | depth, (name, item) :: rest => do
    let name ← name
    let value ← ofDatum? depth item
    let members ← ofMembers? depth rest
    return (name, value) :: members

end

end Json

end HybridSearch

import HybridSearch.Store.ByteMap

/-!
# The key-value store

A store maps keys to values and lists the entries whose keys start with given bytes. Changes arrive in
batches, which are written as a whole and in order. A handle reads and writes a store that may fail: a fault
in a field of `Faults` makes every call of that kind fail with it, and a failed write leaves the store as it
was.
-/
namespace HybridSearch

abbrev Store := ByteMap Bytes

/-- A key with its new value, or with none to delete it. -/
abbrev Change := Bytes × Option Bytes

namespace Store

def apply (s : Store) (c : Change) : Store :=
  match c.2 with
  | some value => s.insert c.1 value
  | none => s.erase c.1

def write (s : Store) (batch : List Change) : Store := batch.foldl apply s

end Store

/-- A failure of the medium, or of the database that keeps the store, with its own words. -/
inductive StoreFault where
  | io (reason : String)
  | database (reason : String)
  deriving DecidableEq, Repr

def StoreFault.message : StoreFault → String
  | .io reason => "I/O error: " ++ reason
  | .database reason => "Database error: " ++ reason

structure Faults where
  get : Option StoreFault := none
  write : Option StoreFault := none
  scan : Option StoreFault := none
  deriving DecidableEq, Repr, Inhabited

/-- `lastSync` tells whether the last batch asked to be flushed. -/
structure StoreHandle where
  content : Store
  faults : Faults := {}
  lastSync : Bool := false

namespace StoreHandle

instance : Inhabited StoreHandle := ⟨{ content := ByteMap.empty }⟩

def get (h : StoreHandle) (key : Bytes) : Except StoreFault (Option Bytes) :=
  match h.faults.get with
  | some fault => .error fault
  | none => .ok (h.content.find? key)

def scan (h : StoreHandle) (lead : Bytes) : Except StoreFault (List (Bytes × Bytes)) :=
  match h.faults.scan with
  | some fault => .error fault
  | none => .ok (h.content.scan lead)

def write (h : StoreHandle) (batch : List Change) (sync : Bool) : Except StoreFault StoreHandle :=
  match h.faults.write with
  | some fault => .error fault
  | none => .ok { h with content := h.content.write batch, lastSync := sync }

end StoreHandle

end HybridSearch

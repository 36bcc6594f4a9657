import HybridSearch.Bytes
import HybridSearch.Number.Binary64

/-!
# Candidates

A node with its distance to what is searched for. Nearer candidates come first, in the total order on
distances; ids that tie are ordered by their bytes.
-/
namespace HybridSearch

structure Candidate where
  distance : Binary64
  id : String
  deriving DecidableEq, Repr

namespace Candidate

def order (a b : Candidate) : Ordering :=
  match a.distance.totalCompare b.distance with
  | .eq => String.byteOrder a.id b.id
  | o => o

def isBefore (a b : Candidate) : Bool := a.order b == .lt

/-- Puts a candidate behind all those that are not after it. -/
def insert (c : Candidate) : List Candidate → List Candidate
  | [] => [c]
  | first :: rest => if c.isBefore first then c :: first :: rest else first :: insert c rest

def sort (cs : List Candidate) : List Candidate := cs.foldl (fun sorted c => insert c sorted) []

end Candidate

end HybridSearch

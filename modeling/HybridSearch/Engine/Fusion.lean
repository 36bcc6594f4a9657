import HybridSearch.Document

/-!
# Fusing two rankings

Each ranking is scaled by its weight, and the scores of one id are added, the text side first. The
document of an id is its first occurrence. The fused ranking is ordered by descending score in the
total order, ids that tie by their bytes.
-/
namespace HybridSearch

/-- A document with a score; higher is better. -/
structure Scored where
  document : Document
  score : Binary64
  deriving Repr, Inhabited

namespace Fusion

/-- `a` comes before `b`, or is its equal. -/
def precedes (a b : Scored) : Bool :=
  match b.score.totalCompare a.score with
  | .lt => true
  | .gt => false
  | .eq => String.byteOrder a.document.id b.document.id != .gt

def scaled (weight : Binary64) (ranking : List Scored) : List Scored :=
  ranking.map fun s => { s with score := s.score * weight }

/-- Adds the score to that of the same id, or puts the document at the end. -/
def merge (merged : List Scored) (s : Scored) : List Scored :=
  match merged with
  | [] => [s]
  | first :: rest =>
    if first.document.id = s.document.id then { first with score := first.score + s.score } :: rest
    else first :: merge rest s

def fuse (text vector : List Scored) (textWeight vectorWeight : Binary64) : List Scored :=
  ((scaled textWeight text ++ scaled vectorWeight vector).foldl merge []).mergeSort precedes

end Fusion

end HybridSearch

import HybridSearch.Datum.Decode

/-!
# Distances between embeddings

Smaller is nearer for all three metrics. Sums run over the components in order; components of the
longer embedding beyond the shorter one are ignored.
-/
namespace HybridSearch

abbrev Embedding := List Binary64

inductive Metric where
  | cosine
  | euclidean
  | innerProduct
  deriving DecidableEq, Repr, Inhabited

namespace Metric

def name : Metric → String
  | cosine => "cosine"
  | euclidean => "l2"
  | innerProduct => "inner_product"

/-- The metric of a name in any ASCII case; two of the metrics have other names as well. -/
def ofName? (s : String) : Option Metric :=
  match s.toLower with
  | "cosine" => some cosine
  | "l2" | "euclidean" => some euclidean
  | "inner_product" | "ip" | "dot" => some innerProduct
  | _ => none

def unknownNameMessage (s : String) : String := "unknown distance type: " ++ s.toLower

/-- A metric in a document goes by its own name only. -/
def decode? : Decoder Metric :=
  Decoder.choice [("cosine", cosine), ("l2", euclidean), ("inner_product", innerProduct)]

/-- A sum starts from minus zero, so the sum of nothing is minus zero. -/
def sum (xs : List Binary64) : Binary64 := xs.foldl (· + ·) Binary64.negativeZero

def dot (a b : Embedding) : Binary64 := sum (a.zipWith (· * ·) b)

/-- The dot product and the squared norms of two embeddings, each summed from zero. -/
structure Products where
  dot : Binary64
  left : Binary64
  right : Binary64

def products (a b : Embedding) : Products :=
  (a.zip b).foldl (fun s p => ⟨s.dot + p.1 * p.2, s.left + p.1 * p.1, s.right + p.2 * p.2⟩)
    ⟨Binary64.zero, Binary64.zero, Binary64.zero⟩

/-- One less the cosine of the angle; one when an embedding has no length. -/
def cosineDistance (a b : Embedding) : Binary64 :=
  let s := products a b
  if s.left.numEq Binary64.zero || s.right.numEq Binary64.zero then Binary64.one
  else Binary64.one - s.dot / (s.left.sqrt * s.right.sqrt)

def euclideanDistance (a b : Embedding) : Binary64 :=
  (sum (a.zipWith (fun x y => (x - y) * (x - y)) b)).sqrt

def distance : Metric → Embedding → Embedding → Binary64
  | cosine, a, b => cosineDistance a b
  | euclidean, a, b => euclideanDistance a b
  | innerProduct, a, b => -dot a b

/-- A score that is higher for smaller distances. -/
def similarity : Metric → Binary64 → Binary64
  | cosine, d => Binary64.one - d
  | euclidean, d => Binary64.one / (Binary64.one + d)
  | innerProduct, d => -d

end Metric

end HybridSearch

import HybridSearch.Bytes
import HybridSearch.Metric

/-!
# Stored form of embeddings

Eight bytes for each component, lowest byte first, and nothing else: the reader knows the dimension.
-/
namespace HybridSearch.Embedding

def encode (v : Embedding) : Bytes := v.flatMap fun x => Bytes.ofUInt64 x.bits

/-- Takes components off the front for as long as eight bytes are left. -/
def decodeWords : Bytes → Embedding
  | a :: b :: c :: d :: e :: f :: g :: h :: rest =>
    ⟨UInt64.ofNat (Bytes.toNat [a, b, c, d, e, f, g, h])⟩ :: decodeWords rest
  | _ => []

/-- The stored bytes are not as many as the dimension asks for. -/
structure LengthMismatch where
  expected : Nat
  actual : Nat
  deriving DecidableEq, Repr

def LengthMismatch.message (e : LengthMismatch) : String :=
  "Invalid vector byte length: expected " ++ toString e.expected ++ ", got " ++ toString e.actual

def decode (b : Bytes) (dimension : Nat) : Except LengthMismatch Embedding :=
  if b.length = dimension * 8 then .ok (decodeWords b)
  else .error ⟨dimension * 8, b.length⟩

end HybridSearch.Embedding

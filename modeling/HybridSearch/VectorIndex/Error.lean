import HybridSearch.Config.VectorConfig
import HybridSearch.Embedding
import HybridSearch.Store.Handle
import HybridSearch.Tenant

/-!
# Why a vector index refuses or fails
-/
namespace HybridSearch

inductive Corruption where
  | unreadableMetadata (id : String)
  | missingVector (id : String)
  | undecodableVector (id : String) (cause : Embedding.LengthMismatch)
  | unreadableNeighbors (id : String) (layer : Nat)
  | unreadableNeighborsAt (key : Bytes)
  | unreadableEntryPoint
  | countLength (bytes : Nat)
  deriving DecidableEq, Repr

def Corruption.message : Corruption → String
  | .unreadableMetadata id => "unreadable metadata for " ++ id
  | .missingVector id => "vector bytes missing for referenced node " ++ id
  | .undecodableVector id cause => "undecodable vector for " ++ id ++ ": " ++ cause.message
  | .unreadableNeighbors id layer =>
    "unreadable neighbor list for " ++ id ++ " at level " ++ toString layer
  | .unreadableNeighborsAt key => "unreadable neighbor list at " ++ key.displayText
  | .unreadableEntryPoint => "unreadable entry point"
  | .countLength n => "vector count has " ++ toString n ++ " bytes, expected 8"

inductive VectorError where
  | invalidConfig (fault : VectorConfig.Fault)
  | invalidId (fault : IdFault)
  | dimensionMismatch (expected actual : Nat)
  | invalidVector (position : Nat) (value : Binary64)
  | invalidCount (k : Nat)
  | emptyIndex
  | notFound (id : String)
  | corrupted (cause : Corruption)
  | cancelled
  | storage (fault : StoreFault)
  deriving DecidableEq, Repr

def VectorError.message : VectorError → String
  | .invalidConfig fault => "Invalid vector index configuration: " ++ fault.message
  | .invalidId fault => "Invalid vector id: " ++ fault.message "id"
  | .dimensionMismatch expected actual =>
    "Dimension mismatch: expected " ++ toString expected ++ ", got " ++ toString actual
  | .invalidVector position value =>
    "Invalid vector: component " ++ toString position ++ " is " ++ value.plain
  | .invalidCount k => "Invalid k " ++ toString k ++ ": must be between 1 and 1000"
  | .emptyIndex => "Vector index is empty"
  | .notFound id => "Vector not found: " ++ id
  | .corrupted cause => "Vector index corrupted: " ++ cause.message
  | .cancelled => "Vector operation cancelled"
  | .storage fault => fault.message

end HybridSearch

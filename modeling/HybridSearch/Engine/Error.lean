import HybridSearch.Config.EngineConfig
import HybridSearch.TextIndex.Error
import HybridSearch.VectorIndex.Error

/-!
# Why the engine refuses or fails
-/
namespace HybridSearch

/-- What is wrong with a document or a query before either index is asked. -/
inductive RequestFault where
  | documentId (fault : IdFault)
  | tenant (given : String)
  | limit (given : Nat)
  | noQueryVector
  deriving DecidableEq, Repr

def RequestFault.message : RequestFault → String
  | .documentId fault => fault.message "document id"
  | .tenant given => "invalid tenant id " ++ Text.quoted given
  | .limit given => "limit " ++ toString given ++ " exceeds " ++ toString maxSearchLimit
  | .noQueryVector => "vector search requires a query vector"

inductive EngineError where
  | queueFull
  | enqueueTimeout (milliseconds : Nat)
  | cancelled
  | shutDown
  | invalidQuery (fault : RequestFault)
  | invalidConfig (fault : EngineConfig.Fault)
  | structuredQuery
  | text (error : TextError)
  | vector (error : VectorError)
  | partialWrite (id : String) (compensated : Bool) (source : VectorError)
  | hybridFailed (onText onVector : EngineError)
  deriving DecidableEq, Repr

/-- A time in the largest unit that leaves no leading zero, without trailing zeros. -/
def durationText (milliseconds : Nat) : String :=
  if milliseconds = 0 then "0ns"
  else if milliseconds < 1000 then toString milliseconds ++ "ms"
  else
    let d := Decimal.dropZeros 3 ⟨milliseconds, -3⟩
    String.ofList d.positional ++ "s"

namespace EngineError

def message : EngineError → String
  | queueFull => "Index queue full"
  | enqueueTimeout t => "Timed out after " ++ durationText t ++ " waiting for room in the index queue"
  | cancelled => "Operation cancelled"
  | shutDown => "Engine is shut down"
  | invalidQuery fault => "Invalid query: " ++ fault.message
  | invalidConfig fault => "Invalid engine configuration: " ++ fault.message
  | structuredQuery => "Not implemented: structured queries"
  | text error => "Text index: " ++ error.message
  | vector error => "Vector index: " ++ error.message
  | partialWrite id compensated source =>
    "Vector write failed for " ++ id ++ " after text write (text entry compensated: " ++
      (if compensated then "true" else "false") ++ "): " ++ source.message
  | hybridFailed onText onVector =>
    "Hybrid search failed: text: " ++ onText.message ++ "; vector: " ++ onVector.message

/-- The errors underneath, outermost first. -/
def causes : EngineError → List String
  | text error => [error.message]
  | vector error => [error.message]
  | partialWrite _ _ source => [source.message]
  | _ => []

/-- Whether the caller is to blame, and nothing was written. -/
def isValidation : EngineError → Bool
  | invalidQuery _ => true
  | text (.invalidTenant _) => true
  | text (.invalidLimit _) => true
  | text .emptyQuery => true
  | vector (.dimensionMismatch _ _) => true
  | vector (.invalidVector _ _) => true
  | vector (.invalidId _) => true
  | vector (.invalidCount _) => true
  | _ => false

end EngineError

end HybridSearch

import HybridSearch.Analysis.Tokenizer
import HybridSearch.Config.TextConfig

/-!
# Why a text index refuses or fails
-/
namespace HybridSearch

/-- Why the tables of an index cannot be created. -/
inductive CreateFault where
  | malformedName (name statements : String)
  | reservedName (name : String)
  | tokenizer (fault : Analysis.TokenizerFault)
  deriving DecidableEq, Repr

def CreateFault.message : CreateFault → String
  | .malformedName name statements =>
    "unrecognized token: \"" ++ name ++ "\" in " ++ statements ++ " at offset 35"
  | .reservedName name => "object name reserved for internal use: " ++ name
  | .tokenizer fault => fault.message

/-- What the database that keeps the tables cannot do. -/
inductive TableFault where
  | unreadable
  | create (cause : CreateFault)
  | unreadableMetadata (action : String)
  deriving DecidableEq, Repr

def TableFault.message : TableFault → String
  | .unreadable => "Failed to configure pragmas: file is not a database"
  | .create cause => "Failed to create tables: " ++ cause.message
  | .unreadableMetadata action =>
    "Failed to " ++ action ++ ": Conversion error from type Text at index: 5, number out of range"

inductive TextError where
  | invalidConfig (fault : TextConfig.Fault)
  | invalidTenant (tenant : String)
  | invalidLimit (limit : Nat)
  | emptyQuery
  | emptyId
  | notFound (id : String)
  | database (fault : TableFault)
  | unknownKind (kind id : String)
  | closed
  | cancelled
  deriving DecidableEq, Repr

def TextError.message : TextError → String
  | .invalidConfig fault => "Invalid text index configuration: " ++ fault.message
  | .invalidTenant tenant => "Invalid tenant id: " ++ Text.quoted tenant
  | .invalidLimit limit =>
    "Invalid limit " ++ toString limit ++ ": must be between 1 and 10000"
  | .emptyQuery => "Empty query"
  | .emptyId => "Invalid document id: document id must not be empty"
  | .notFound id => "Document not found: " ++ id
  | .database fault => "Database error: " ++ fault.message
  | .unknownKind kind id =>
    "Serialization error: unknown document type: " ++ kind ++ " (" ++ id ++ ")"
  | .closed => "Text index is closed"
  | .cancelled => "Text search cancelled"

end HybridSearch

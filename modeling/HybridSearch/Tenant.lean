import HybridSearch.Bytes
import HybridSearch.Text.Characters

/-!
# Ids

An id of a document has up to 256 bytes, at least one. A tenant id has up to 64 ASCII letters, digits,
underscores and hyphens, at least one of them a letter or a digit: the filter on the tenant needs a token to
match.
-/
namespace HybridSearch

def maxIdLength : Nat := 256

/-- What is wrong with an id; its length is counted in bytes. -/
inductive IdFault where
  | empty
  | tooLong (length : Nat)
  deriving DecidableEq, Repr

/-- The fault in words; `subject` names what the id belongs to. -/
def IdFault.message (subject : String) : IdFault → String
  | .empty => subject ++ " must not be empty"
  | .tooLong n =>
    subject ++ " is " ++ toString n ++ " bytes, maximum is " ++ toString maxIdLength

def checkId (id : String) : Except IdFault Unit :=
  if id.isEmpty then .error .empty
  else if maxIdLength < id.utf8ByteSize then .error (.tooLong id.utf8ByteSize)
  else .ok ()

namespace Tenant

def maxLength : Nat := 64

def isIdChar (c : Char) : Bool := Text.isAsciiAlphanumeric c || c == '_' || c == '-'

def isValid (tenant : String) : Bool :=
  tenant.utf8ByteSize ≤ maxLength && tenant.toList.any Text.isAsciiAlphanumeric &&
    tenant.toList.all isIdChar

end Tenant

end HybridSearch

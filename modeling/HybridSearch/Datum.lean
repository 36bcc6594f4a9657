import HybridSearch.Number.Binary64

/-!
# Values as they are written in a document

A `Datum` is what a JSON or a TOML text says before anyone asks for a type. A number too large to
represent and a text with an unpaired surrogate have a form but no value; they only matter when
somebody asks for them, which is why they are kept as `none`.
-/
namespace HybridSearch

/-- A number in a document: a whole number written as one, or any other number. -/
inductive Number where
  | whole (n : Int)
  | real (x : Binary64)
  deriving DecidableEq, Repr

inductive Datum where
  | null
  | bool (b : Bool)
  | number (n : Option Number)
  | text (s : Option String)
  | list (items : List Datum)
  | record (members : List (Option String × Datum))
  deriving Repr, Inhabited

namespace Number

def toBinary64 : Number → Binary64
  | .whole n => Binary64.ofInt n
  | .real x => x

end Number

end HybridSearch

import HybridSearch.Datum

/-!
# Asking a document for a type

A decoder takes a datum to a value, or refuses it. Its first argument is the nesting that is still
allowed: entering a list or a record takes one level, and the last level cannot be entered. Records
have named fields, in any order and among others that are ignored; a list of the fields in their order
stands for the record, and fields at its end may be missing.
-/
namespace HybridSearch

abbrev Decoder (α : Type) := Nat → Datum → Option α

/-- How many levels a document may nest before it is refused. -/
def documentDepth : Nat := 128

namespace Decoder

def string : Decoder String
  | _, .text s => s
  | _, _ => none

def boolean : Decoder Bool
  | _, .bool b => some b
  | _, _ => none

/-- A whole number below `2 ^ 64`. -/
def natural : Decoder Nat
  | _, .number (some (.whole n)) => if 0 ≤ n ∧ n < 0x10000000000000000 then some n.toNat else none
  | _, _ => none

/-- A whole number from `-2 ^ 63` to `2 ^ 63 - 1`. -/
def integer : Decoder Int
  | _, .number (some (.whole n)) => if -0x8000000000000000 ≤ n ∧ n < 0x8000000000000000 then some n else none
  | _, _ => none

def real : Decoder Binary64
  | _, .number (some n) => some n.toBinary64
  | _, _ => none

def optional {α : Type} (decode : Decoder α) : Decoder (Option α)
  | _, .null => some none
  | depth, d => (decode depth d).map some

def list {α : Type} (decode : Decoder α) : Decoder (List α)
  | depth, .list items => if depth < 2 then none else items.mapM (decode (depth - 1))
  | _, _ => none

/-- One of a few named values: its name, or a record whose only member has that name and is null. -/
def choice {α : Type} (options : List (String × α)) : Decoder α
  | _, .text (some name) => options.lookup name
  | depth, .record [(some name, .null)] => if depth < 2 then none else options.lookup name
  | _, _ => none

end Decoder

/-- The fields of a record that were given, and the nesting allowed within them. -/
structure Fields where
  depth : Nat
  given : List (String × Datum)

namespace Fields

/-- The known members of a record; a known name may be given once. -/
def ofMembers? (names : List String) (depth : Nat) (members : List (Option String × Datum)) :
    Option Fields := do
  let named ← members.mapM fun m => m.1.map fun name => (name, m.2)
  let known := named.filter fun m => names.contains m.1
  if names.all fun name => known.countP (·.1 == name) ≤ 1 then return ⟨depth - 1, known⟩ else none

def decode? (names : List String) : Decoder Fields
  | depth, .record members => if depth < 2 then none else ofMembers? names depth members
  | depth, .list items =>
    if depth < 2 ∨ names.length < items.length then none
    else some ⟨depth - 1, names.zip items⟩
  | _, _ => none

variable {α : Type}

def required (f : Fields) (name : String) (decode : Decoder α) : Option α :=
  (f.given.lookup name).bind (decode f.depth)

def orElse (f : Fields) (name : String) (default : α) (decode : Decoder α) : Option α :=
  match f.given.lookup name with
  | none => some default
  | some d => decode f.depth d

end Fields

end HybridSearch

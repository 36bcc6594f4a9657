import HybridSearch.Datum.Decode
import HybridSearch.Text.Layout

/-!
# Settings of the text index

The two settings are spliced into the statement that creates the tables, so only names made of ASCII
letters, digits and underscores are accepted, and a tokenizer that is one of two known ones, possibly
below a stemmer, followed by plain words.
-/
namespace HybridSearch

structure TextConfig where
  tablePrefix : String := "search"
  tokenizer : String := "unicode61 remove_diacritics 1"
  deriving DecidableEq, Repr, Inhabited

namespace TextConfig

def maxTablePrefixLength : Nat := 64

/-- Why a configuration is refused. -/
inductive Fault where
  | prefixLength
  | prefixCharacters (given : String)
  | tokenizerName (given : String)
  | tokenizerArguments (given : String)
  deriving DecidableEq, Repr

def Fault.message : Fault → String
  | .prefixLength => "table prefix must be 1-" ++ toString maxTablePrefixLength ++ " characters"
  | .prefixCharacters given =>
    "table prefix " ++ Text.quoted given ++ " may only contain letters, digits and '_'"
  | .tokenizerName given => "unsupported tokenizer " ++ Text.quoted given
  | .tokenizerArguments given => "invalid tokenizer arguments in " ++ Text.quoted given

def isNameChar (c : Char) : Bool := Text.isAsciiAlphanumeric c || c == '_'

def stemmer : List Char := "porter".toList

/-- The tokenizers that find a token in every tenant id. -/
def baseTokenizers : List (List Char) := ["unicode61", "ascii"].map String.toList

/-- The base tokenizer that the words name, and its arguments. The stemmer stands before it, and has a
default base. -/
def baseAndArguments : List (List Char) → List Char × List (List Char)
  | [] => ([], [])
  | word :: rest =>
    if word = stemmer then
      match rest with
      | [] => ("unicode61".toList, [])
      | base :: arguments => (base, arguments)
    else (word, rest)

def validateTokenizer (tokenizer : String) : Except Fault Unit :=
  let (base, arguments) := baseAndArguments (Text.splitWords tokenizer.toList)
  if !baseTokenizers.contains base then .error (.tokenizerName tokenizer)
  else if !arguments.all (·.all isNameChar) then .error (.tokenizerArguments tokenizer)
  else .ok ()

def validate (c : TextConfig) : Except Fault Unit :=
  if c.tablePrefix.isEmpty || maxTablePrefixLength < c.tablePrefix.utf8ByteSize then
    .error .prefixLength
  else if !c.tablePrefix.toList.all isNameChar then .error (.prefixCharacters c.tablePrefix)
  else validateTokenizer c.tokenizer

def fieldNames : List String := ["table_prefix", "tokenizer"]

def decode? : Decoder TextConfig := fun depth d => do
  let f ← Fields.decode? fieldNames depth d
  let standard : TextConfig := {}
  return {
    tablePrefix := ← f.orElse "table_prefix" standard.tablePrefix Decoder.string
    tokenizer := ← f.orElse "tokenizer" standard.tokenizer Decoder.string }

end TextConfig

end HybridSearch

import HybridSearch.CommandLine.Arguments
import HybridSearch.CommandLine.SearchOptions
import HybridSearch.Number.Decimal

/-!
# Commands

The commands that the arguments can name, and the options that go with them. Some options can stand before
or after the name of the command; after it they count more.
-/
namespace HybridSearch

inductive Command where
  | index (path : String)
  | search (options : SearchOptions)
  | get (id : String) (tenant : String)
  | list (tenant : String) (limit offset : Nat)
  | delete (id : String)
  | stats
  | optimize
  | rebuild
  deriving DecidableEq, Repr

structure Invocation where
  command : Command
  asJson : Bool := false
  dataDirectory : Option String := none
  settings : Option String := none
  deriving DecidableEq, Repr

namespace Invocation

/-- A whole number below `2 ^ 64`, which may have a plus sign. -/
def natural? (s : String) : Option Nat :=
  let ds := match s.toList with
    | '+' :: cs => cs
    | cs => cs
  if ds.isEmpty || !ds.all Char.isDigit || 0x10000000000000000 ≤ digitsValue ds then none else some (digitsValue ds)

def embedding? (s : String) : Option Embedding := (s.splitOn ",").mapM Binary64.read?

def modeOf? (s : String) : Option SearchMode :=
  match s with
  | "text" => some .fullText
  | "vector" => some .vector
  | "hybrid" => some .hybrid
  | _ => none

def helpOption : OptionSpec := { name := "help", letter := some 'h' }

def globalOptions : List OptionSpec :=
  [{ name := "json" },
    { name := "data-dir", takesValue := true, accepts := fun s => !s.isEmpty },
    { name := "config", takesValue := true, accepts := fun s => !s.isEmpty },
    { name := "verbose", letter := some 'v', repeats := true },
    helpOption]

def tenantOption : OptionSpec := { name := "tenant", takesValue := true }

def pageOptions : List OptionSpec :=
  [{ name := "limit", letter := some 'n', takesValue := true, accepts := fun s => (natural? s).isSome },
    { name := "offset", takesValue := true, accepts := fun s => (natural? s).isSome }]

def searchOptions : List OptionSpec :=
  [{ name := "vector", takesValue := true, repeats := true, takesNegative := true,
      accepts := fun s => (embedding? s).isSome },
    { name := "mode", takesValue := true, accepts := fun s => (modeOf? s).isSome },
    tenantOption] ++ pageOptions

def leadingSpec : ArgumentSpec :=
  { options := globalOptions ++ [{ name := "version", letter := some 'V' }] }

def anyWord : String → Bool := fun _ => true

def specOf? (name : String) : Option ArgumentSpec :=
  match name with
  | "index" => some ⟨globalOptions, [fun s => !s.isEmpty], 1⟩
  | "search" => some ⟨globalOptions ++ searchOptions, [anyWord], 0⟩
  | "get" => some ⟨globalOptions ++ [tenantOption], [anyWord], 1⟩
  | "list" => some ⟨globalOptions ++ pageOptions, [anyWord], 1⟩
  | "delete" => some ⟨globalOptions, [anyWord], 1⟩
  | "stats" | "optimize" | "rebuild" => some ⟨globalOptions, [], 0⟩
  | _ => none

def defaultLimit : Nat := 10

def naturalOption (a : Arguments) (name : String) (default : Nat) : Nat :=
  ((a.value? name).bind natural?).getD default

def embeddingOption (a : Arguments) : Option Embedding :=
  match a.values "vector" with
  | [] => none
  | values => some (values.flatMap fun s => (embedding? s).getD [])

def searchOptionsOf (a : Arguments) : SearchOptions where
  query := a.words.headD ""
  embedding := embeddingOption a
  mode := (a.value? "mode").bind modeOf?
  tenant := (a.value? "tenant").getD ""
  limit := naturalOption a "limit" defaultLimit
  offset := naturalOption a "offset" 0

def commandOf? (name : String) (a : Arguments) : Option Command :=
  let word := a.words.headD ""
  match name with
  | "index" => some (.index word)
  | "search" => some (.search (searchOptionsOf a))
  | "get" => some (.get word ((a.value? "tenant").getD ""))
  | "list" => some (.list word (naturalOption a "limit" defaultLimit) (naturalOption a "offset" 0))
  | "delete" => some (.delete word)
  | "stats" => some .stats
  | "optimize" => some .optimize
  | "rebuild" => some .rebuild
  | _ => none

/-- The value of an option that can stand before or after the name of the command. -/
def globalValue? (leading own : Arguments) (name : String) : Option String :=
  own.value? name <|> leading.value? name

/-- Help on a command that exists, or on all of them. -/
def helpFor (names : List String) : ArgumentStop :=
  match names with
  | [] => .help
  | [name] => if (specOf? name).isSome || name == "help" then .help else .refused
  | _ => .refused

def read (arguments : List String) : Except ArgumentStop Invocation := do
  match ← Arguments.readLeading leadingSpec arguments with
  | (_, []) => throw .refused
  | (_, "help" :: names) => throw (helpFor names)
  | (leading, name :: rest) =>
    match specOf? name with
    | none => throw .refused
    | some spec =>
      let own ← Arguments.read spec rest
      match commandOf? name own with
      | none => throw .refused
      | some command => return {
          command
          asJson := leading.has "json" || own.has "json"
          dataDirectory := globalValue? leading own "data-dir"
          settings := globalValue? leading own "config" }

end Invocation

end HybridSearch

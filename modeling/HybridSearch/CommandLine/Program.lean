import HybridSearch.CommandLine.Session

/-!
# The program

Reads the arguments, the settings and the database, runs the command and writes the database back. What
was written before a command failed is kept.
-/
namespace HybridSearch

/-- The directory that the environment names for the data, and the one for a user that names none. -/
structure Environment where
  dataDirectory : Option String := none
  standardDirectory : Option String := none
  deriving DecidableEq, Repr, Inhabited

/-- What the program leaves behind; the code is 0 for success, 1 for a failure and 2 for arguments that
it does not take. -/
structure ProgramResult where
  code : Nat
  output : String := ""
  errors : String := ""
  deriving DecidableEq, Repr, Inhabited

namespace Program

def name : String := "tessera"

def version : String := "0.1.0"

def settingsName : String := name ++ ".toml"

def usage : String :=
  "Usage: " ++ name ++ " [OPTIONS] <COMMAND>\n\n" ++
  "Commands:\n" ++
  "  index <PATH>     Index a JSONL file of documents\n" ++
  "  search [QUERY]   Search indexed documents (--vector, --mode, --tenant, -n/--limit, --offset)\n" ++
  "  get <ID>         Show one document (--tenant)\n" ++
  "  list <TENANT>    List the documents of a tenant, newest first (-n/--limit, --offset)\n" ++
  "  delete <ID>      Delete a document from both indexes\n" ++
  "  stats            Show index and engine statistics\n" ++
  "  optimize         Merge full-text index segments\n" ++
  "  rebuild          Drop and recreate the full-text index (discards all text documents)\n\n" ++
  "Options:\n" ++
  "  --json             Output results as JSON\n" ++
  "  --data-dir <DIR>   Custom data directory\n" ++
  "  --config <FILE>    Config file (default: " ++ settingsName ++ " in the data directory)\n" ++
  "  -v, --verbose      Verbose logging\n" ++
  "  -h, --help         Print help\n" ++
  "  -V, --version      Print version\n"

variable {m : Type → Type} [Monad m]

/-- The result of a file operation, with a message for its failure. -/
def tried {α : Type} (message : String) (operation : m (Except FileFault α)) : ExceptT Failure m α := do
  match ← (operation : m _) with
  | .ok a => return a
  | .error fault => throw ⟨message, [fault.message]⟩

def dataDirectory (env : Environment) (i : Invocation) : Except Failure String :=
  match i.dataDirectory <|> env.dataDirectory <|> env.standardDirectory with
  | some directory => .ok directory
  | none => .error ⟨"Could not determine data directory", []⟩

/-- The settings in a file that was named, or in the data directory if it has any. -/
def loadSettings (host : Host m) (named : Option String) (directory : String) :
    ExceptT Failure m Settings := do
  let path := named.getD (pathIn directory settingsName)
  match ← (host.readText path : m _) with
  | .ok source =>
    match Settings.parse source with
    | .ok s => return s
    | .error fault => throw ⟨"Invalid config file: " ++ path, [fault.message]⟩
  | .error fault =>
    if named.isNone && fault.isAbsence then return {}
    else throw ⟨"Failed to read config file: " ++ path, [fault.message]⟩

def loadSnapshot (host : Host m) (message path : String) : ExceptT Failure m String := do
  match ← (host.readText path : m _) with
  | .ok snapshot => return snapshot
  | .error fault =>
    if fault.isAbsence then return "" else throw ⟨message ++ path, [fault.message]⟩

def loadDatabase (host : Host m) (directory : String) (paths : DatabasePaths) :
    ExceptT Failure m Database := do
  tried ("Failed to create data directory: " ++ directory) (host.makeDirectory directory)
  let text ← loadSnapshot host "Failed to open text index: " paths.text
  let vectors ← loadSnapshot host "Failed to open vector store: " paths.vectors
  let db ← Database.ofSnapshots paths text vectors
  return { db with clock := max db.clock (← (host.milliseconds : m _)) }

def saveDatabase (host : Host m) (paths : DatabasePaths) (db : Database) : ExceptT Failure m Unit := do
  tried ("Failed to write " ++ paths.text) (host.writeText paths.text db.textSnapshot)
  tried ("Failed to write " ++ paths.vectors) (host.writeText paths.vectors db.vectorSnapshot)

/-- The corpus that a command loads, and the engine with a sample for each of its lines. -/
def loadCorpus (host : Host m) (e : Engine) (c : Command) : ExceptT Failure m (Engine × String) := do
  match c with
  | .index path =>
    match ← (host.readText path : m _) with
    | .ok corpus =>
      let count := (Text.lines corpus.toList).length
      return (e.withSamples (← (host.samples e.indexes.vector.config.seed count : m _)), corpus)
    | .error fault =>
      let message := if fault = .isDirectory then "Failed to read " else "Failed to open "
      throw ⟨message ++ path, [fault.message]⟩
  | _ => return (e, "")

/-- The database after a command. Rebuilding drops the tables before it creates them anew: when it fails, none
are left. -/
def databaseAfter (db : Database) (s : Settings) (c : Command) (answer : Except Failure String)
    (e : Engine) : Database :=
  match c, answer with
  | .rebuild, .error _ => (db.keep e.indexes).dropTables s.text
  | _, _ => db.keep e.indexes

def execute (host : Host m) (env : Environment) (i : Invocation) : ExceptT Failure m String := do
  let directory ← dataDirectory env i
  let settings ← loadSettings host i.settings directory
  let paths := DatabasePaths.ofDirectory directory
  let db ← loadDatabase host directory paths
  let e ← db.openEngine settings paths
  saveDatabase host paths (db.keep e.indexes)
  let (e, corpus) ← loadCorpus host e i.command
  let (answer, e) := e.runCommand i.asJson corpus i.command
  saveDatabase host paths (databaseAfter db settings i.command answer e)
  answer

def run (host : Host m) (env : Environment) (arguments : List String) : m ProgramResult := do
  match Invocation.read arguments with
  | .error .help => return { code := 0, output := usage }
  | .error .version => return { code := 0, output := name ++ " " ++ version ++ "\n" }
  | .error .refused => return { code := 2, errors := "error: invalid arguments\n\n" ++ usage }
  | .ok i =>
    match ← (execute host env i).run with
    | .ok output => return { code := 0, output := output ++ "\n" }
    | .error failure => return { code := 1, errors := failure.report }

end Program

end HybridSearch

import HybridSearch.Config.EngineConfig
import HybridSearch.Tenant
import HybridSearch.TextIndex.Rank

/-!
# The text index

The index keeps the documents in two tables and finds them by their words, ranked, in one tenant or in
all. Every write is given a later time than the one before; a clock may give two writes the same time, and
then the listing has them in the order of their ids. A closed index refuses what needs its tables but goes on
refusing bad requests for their own reasons.
-/
namespace HybridSearch

/-- `clock` is the time of the last write. -/
structure TextIndex where
  config : TextConfig
  tables : TextTables
  clock : Nat := 0
  isOpen : Bool := true
  deriving DecidableEq, Repr

/-- An entry with its score; higher is better. -/
structure TextHit where
  entry : TextEntry
  score : Binary64
  deriving Repr, Inhabited

structure TextStatistics where
  documents : Nat
  contentLength : Nat
  byKind : List (String × Nat)
  deriving DecidableEq, Repr, Inhabited

namespace TextIndex

/-- The statements that create the tables under a prefix, with a tokenizer. -/
def createStatements (config : TextConfig) : String :=
  let text := config.tablePrefix ++ "_fts"
  let listing := config.tablePrefix ++ "_meta"
  let gap := "\n                "
  let next := "\n            "
  "CREATE VIRTUAL TABLE IF NOT EXISTS " ++ text ++ " USING fts5(" ++
    gap ++ "docid UNINDEXED," ++ gap ++ "tenant_id," ++ gap ++ "doc_type," ++ gap ++ "title," ++
    gap ++ "content," ++ gap ++ "metadata UNINDEXED," ++
    gap ++ "tokenize = '" ++ config.tokenizer ++ "'" ++ next ++ ");" ++
    next ++ "CREATE TABLE IF NOT EXISTS " ++ listing ++ " (" ++
    gap ++ "docid TEXT PRIMARY KEY," ++ gap ++ "tenant_id TEXT NOT NULL," ++
    gap ++ "doc_type TEXT NOT NULL," ++ gap ++ "title TEXT," ++
    gap ++ "content_length INTEGER NOT NULL DEFAULT 0," ++
    gap ++ "created_at INTEGER NOT NULL," ++ gap ++ "updated_at INTEGER NOT NULL" ++
    next ++ ");" ++
    next ++ "CREATE INDEX IF NOT EXISTS idx_" ++ listing ++ "_tenant ON " ++ listing ++
      "(tenant_id);" ++
    next ++ "CREATE INDEX IF NOT EXISTS idx_" ++ listing ++ "_type ON " ++ listing ++
      "(doc_type);" ++
    next ++ "CREATE INDEX IF NOT EXISTS idx_" ++ listing ++ "_created ON " ++ listing ++
      "(created_at);"

/-- A table name may not start with a digit, nor with what the database keeps for itself. -/
def checkName (config : TextConfig) : Except CreateFault Unit :=
  let name := config.tablePrefix ++ "_fts"
  if (config.tablePrefix.toList.take 1).any Char.isDigit then
    .error (.malformedName name (createStatements config))
  else if "sqlite_".toList.isPrefixOf name.toLower.toList then .error (.reservedName name)
  else .ok ()

def createTables (config : TextConfig) : Except TextError TextTables :=
  match checkName config with
  | .error cause => .error (.database (.create cause))
  | .ok () =>
    match Analysis.Tokenizer.ofSpec config.tokenizer with
    | .error fault => .error (.database (.create (.tokenizer fault)))
    | .ok tokenizer => .ok { specification := config.tokenizer, tokenizer }

/-- Opens an index over the tables that its prefix already has, or over new ones. -/
def «open» (config : TextConfig) (stored : Option TextTables) (clock : Nat) :
    Except TextError TextIndex := do
  match config.validate with
  | .error fault => throw (.invalidConfig fault)
  | .ok () =>
    match stored with
    | some tables => return { config, tables, clock }
    | none => return { config, tables := ← createTables config, clock }

def close (ix : TextIndex) : TextIndex := { ix with isOpen := false }

def ensureOpen (ix : TextIndex) : Except TextError Unit :=
  if ix.isOpen then .ok () else .error .closed

def checkLimit (limit : Nat) : Except TextError Unit :=
  if 1 ≤ limit ∧ limit ≤ maxSearchLimit then .ok () else .error (.invalidLimit limit)

def checkEntry (e : TextEntry) : Except TextError Unit :=
  if e.id.isEmpty then .error .emptyId
  else if !Tenant.isValid e.tenant then .error (.invalidTenant e.tenant)
  else .ok ()

/-- Writes an entry in place of the one that its id has. -/
def index (ix : TextIndex) (e : TextEntry) : Except TextError TextIndex := do
  checkEntry e
  ix.ensureOpen
  return { ix with tables := ix.tables.put e (ix.clock + 1 : Nat), clock := ix.clock + 1 }

/-- Removes an entry; tells whether there was one. -/
def delete (ix : TextIndex) (id : String) : Except TextError (TextIndex × Bool) := do
  ix.ensureOpen
  return ({ ix with tables := ix.tables.remove id }, ix.tables.holds id)

/-- Merges what the tables keep in several parts; no answer depends on it. -/
def optimize (ix : TextIndex) : Except TextError TextIndex := do
  ix.ensureOpen
  return ix

/-- Starts over with empty tables. -/
def rebuild (ix : TextIndex) : Except TextError TextIndex := do
  ix.ensureOpen
  return { ix with tables := ← createTables ix.config }

def belongsTo (tenant : String) (r : TextRow) : Bool := tenant.isEmpty || r.tenant == tenant

/-- Rows that come first: the higher score, then the smaller id. -/
def rowPrecedes (a b : TextRow × Binary64) : Bool :=
  match b.2.totalCompare a.2 with
  | .lt => true
  | .gt => false
  | .eq => String.byteOrder a.1.id b.1.id != .gt

/-- All rows that an expression finds in a tenant, ranked. -/
def rankedRows (t : TextTables) (e : Query.Expression) (tenant : String) :
    List (TextRow × Binary64) :=
  let wanted := RowFilter.ofExpression t.tokenizer e tenant
  let rows := t.rows.map fun r => (r, RowTokens.ofRow t.tokenizer r)
  let corpus := Rank.Corpus.ofRows wanted.rankedPhrases (rows.map (·.2))
  let found := rows.filter fun r => wanted.accepts r.2 && belongsTo tenant r.1
  (found.map fun r => (r.1, Rank.score corpus wanted.rankedPhrases r.2)).mergeSort rowPrecedes

/-- The entries that a query finds, best first; a query without a term finds nothing. An empty tenant
searches all tenants. -/
def search (ix : TextIndex) (cancelled : Bool) (query tenant : String) (limit : Nat) :
    Except TextError (List TextHit) := do
  if Text.isBlank query.toList then throw .emptyQuery
  checkLimit limit
  if !tenant.isEmpty && !Tenant.isValid tenant then throw (.invalidTenant tenant)
  match Query.Expression.ofText? query with
  | none => return []
  | some e =>
    if cancelled then throw .cancelled
    ix.ensureOpen
    ((rankedRows ix.tables e tenant).take limit).mapM fun r => do
      return ⟨← ix.tables.entryOf "read search row" r.1, r.2⟩

/-- The entry of an id, which may have to belong to a tenant; an empty tenant asks for none. -/
def document (ix : TextIndex) (id : String) (tenant : String) : Except TextError TextEntry := do
  ix.ensureOpen
  match ix.tables.rows.find? fun r => r.id == id && belongsTo tenant r with
  | none => throw (.notFound id)
  | some r => ix.tables.entryOf "get document" r

/-- Listing rows that come first: the later write, then the smaller id. -/
def listedBefore (a b : ListingRow) : Bool :=
  if b.updatedAt < a.updatedAt then true
  else if a.updatedAt < b.updatedAt then false
  else String.byteOrder a.id b.id != .gt

/-- The text rows of a tenant, the last written first. -/
def tenantRows (t : TextTables) (tenant : String) : List TextRow :=
  let listed := (t.listing.filter fun r => r.tenant == tenant).mergeSort listedBefore
  listed.flatMap fun l => t.rows.filter fun r => r.id == l.id

/-- How many rows an offset skips: it is a signed word, and a negative one skips none. -/
def skipped (offset : Nat) : Nat := if offset < 0x8000000000000000 then offset else 0

/-- A page of a tenant's documents, the last written first. -/
def tenantDocuments (ix : TextIndex) (tenant : String) (limit offset : Nat) :
    Except TextError (List TextEntry) := do
  if !Tenant.isValid tenant then throw (.invalidTenant tenant)
  checkLimit limit
  ix.ensureOpen
  (((tenantRows ix.tables tenant).drop (skipped offset)).take limit).mapM
    (ix.tables.entryOf "read tenant document")

/-- Adds one to the count of a kind; kinds are in byte order. -/
def countKind (counts : List (String × Nat)) (kind : String) : List (String × Nat) :=
  match counts with
  | [] => [(kind, 1)]
  | (k, n) :: rest =>
    match String.byteOrder kind k with
    | .lt => (kind, 1) :: (k, n) :: rest
    | .eq => (k, n + 1) :: rest
    | .gt => (k, n) :: countKind rest kind

def statistics (ix : TextIndex) : Except TextError TextStatistics := do
  ix.ensureOpen
  let listing := ix.tables.listing
  return ⟨listing.length, (listing.map (·.contentLength)).foldr (· + ·) 0,
    (listing.map (·.kind)).foldl countKind []⟩

end TextIndex

end HybridSearch

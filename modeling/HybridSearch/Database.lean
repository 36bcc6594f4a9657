import HybridSearch.Engine.Engine

/-!
# Databases

What a data directory keeps between two uses of an engine: the tables of text indexes, under their table
prefixes in lower case, the time of the last write to them, and the store of the vector indexes.
-/
namespace HybridSearch

structure Database where
  tables : List (String × TextTables) := []
  clock : Nat := 0
  store : Store := ByteMap.empty

namespace Database

def tableName (c : TextConfig) : String := c.tablePrefix.toLower

def openText (db : Database) (c : TextConfig) : Except TextError TextIndex :=
  TextIndex.open c (db.tables.lookup (tableName c)) db.clock

def putTables (name : String) (t : TextTables) : List (String × TextTables) → List (String × TextTables)
  | [] => [(name, t)]
  | (n, u) :: rest => if n = name then (name, t) :: rest else (n, u) :: putTables name t rest

/-- The database after the indexes over it have changed. -/
def keep (db : Database) (ixs : Indexes) : Database where
  tables := putTables (tableName ixs.text.config) ixs.text.tables db.tables
  clock := ixs.text.clock
  store := ixs.store.content

def dropTables (db : Database) (c : TextConfig) : Database :=
  { db with tables := db.tables.filter fun t => t.1 != tableName c }

end Database

end HybridSearch

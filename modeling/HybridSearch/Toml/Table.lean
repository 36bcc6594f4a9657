import HybridSearch.Datum

/-!
# Tables of a TOML document

A document is a sequence of sections. A section starts with a header, which names a table or adds a
table to an array, and has entries for that table; an entry may name tables in its own path. Every table
is defined once: a header can complete a table that only earlier headers have implied, and entries can
only go on with tables that entries have begun.
-/
namespace HybridSearch.Toml

/-- Who defined a table: a header, a header of a table inside it, or the path of an entry. -/
inductive Origin where
  | header
  | implied
  | entry
  deriving DecidableEq, Repr

/-- What a key stands for: a value that is complete, a table, or an array that headers add to. -/
inductive Node where
  | value (d : Datum)
  | table (origin : Origin) (members : List (String × Node))
  | tables (elements : List (List (String × Node)))

abbrev Members := List (String × Node)

structure Entry where
  path : List String
  key : String
  value : Datum

inductive Header where
  | top
  | table (path : List String) (key : String)
  | element (path : List String) (key : String)

structure Section where
  header : Header
  entries : List Entry

namespace Members

/-- Replaces the value of a key, or adds the key at the end. -/
def set (ms : Members) (key : String) (node : Node) : Members :=
  match ms with
  | [] => [(key, node)]
  | (k, n) :: rest => if k = key then (key, node) :: rest else (k, n) :: set rest key node

/-- Changes the table that a path leads to. The way leads through tables and through the last table of
an array; a missing table gets the origin `by`, and an entry does not enter a table of a header. -/
def changeAt («by» : Origin) (change : Origin → Members → Option Members) :
    List String → Origin → Members → Option Members
  | [], origin, ms => change origin ms
  | key :: path, _, ms =>
    match ms.lookup key with
    | none => do
      let inner ← changeAt «by» change path «by» []
      return set ms key (.table «by» inner)
    | some (.table origin inner) =>
      if «by» = .entry ∧ origin = .header then none
      else do
        let inner ← changeAt «by» change path origin inner
        return set ms key (.table origin inner)
    | some (.tables elements) =>
      match elements.getLast? with
      | none => none
      | some last => do
        let inner ← changeAt «by» change path .header last
        return set ms key (.tables (elements.dropLast ++ [inner]))
    | some (.value _) => none

/-- Adds an entry; its key must be new, and a table in its path must be one of entries. -/
def addEntry (ms : Members) (e : Entry) : Option Members :=
  let put (origin : Origin) (ms : Members) : Option Members :=
    if (!e.path.isEmpty && origin ≠ .entry) || (ms.lookup e.key).isSome then none
    else some (set ms e.key (.value e.value))
  changeAt .entry put e.path .header ms

def addEntries (ms : Members) (es : List Entry) : Option Members := es.foldlM addEntry ms

def addSection (ms : Members) (s : Section) : Option Members :=
  match s.header with
  | .top => ms.addEntries s.entries
  | .table path key =>
    let define (_ : Origin) (ms : Members) : Option Members :=
      match ms.lookup key with
      | none => do return set ms key (.table .header (← addEntries [] s.entries))
      | some (.table .implied inner) => do
        return set ms key (.table .header (← addEntries inner s.entries))
      | _ => none
    changeAt .implied define path .header ms
  | .element path key =>
    let append (_ : Origin) (ms : Members) : Option Members :=
      match ms.lookup key with
      | none => do return set ms key (.tables [← addEntries [] s.entries])
      | some (.tables elements) => do
        return set ms key (.tables (elements ++ [← addEntries [] s.entries]))
      | _ => none
    changeAt .implied append path .header ms

end Members

mutual

def Node.datum : Node → Datum
  | .value d => d
  | .table _ members => .record (memberData members)
  | .tables elements => .list (elementData elements)

def memberData : List (String × Node) → List (Option String × Datum)
  | [] => []
  | (key, node) :: rest => (some key, node.datum) :: memberData rest

def elementData : List (List (String × Node)) → List Datum
  | [] => []
  | element :: rest => .record (memberData element) :: elementData rest

end

def documentOf? (sections : List Section) : Option Datum :=
  (sections.foldlM Members.addSection []).map fun ms => .record (memberData ms)

end HybridSearch.Toml

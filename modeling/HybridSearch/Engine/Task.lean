import HybridSearch.Engine.Error
import HybridSearch.Engine.Statistics
import HybridSearch.TextIndex.Index
import HybridSearch.VectorIndex.Index

/-!
# Write tasks

A task changes the text index first and the vector index after it. When the vector index refuses the
embedding of an entry that was just written, the entry is removed again, so that no document is found by
its text alone. An update removes the document and then indexes it anew; both it and indexing check the
document before they touch anything.

A task is cut into stages at its changes of the vector index, where it may have to wait. `execute` runs
it without a pause.
-/
namespace HybridSearch

inductive Task where
  | index (document : Document)
  | update (document : Document)
  | delete (id : String)
  deriving Repr

/-- The two indexes, and the store under the vector index. -/
structure Indexes where
  text : TextIndex
  vector : VectorIndex
  store : StoreHandle

inductive VectorChange where
  | insert (id : String) (v : Embedding)
  | delete (id : String)
  deriving DecidableEq, Repr

/-- Where a task stands when the vector index is next to change. -/
inductive Stage where
  | entryWritten (document : Document)
  | entryRemoved (id : String) (replacement : Option Document)
  deriving Repr

abbrev TaskResult := Except EngineError WriteOutcome

inductive Progress where
  | reached (stage : Stage)
  | finished (result : TaskResult)

namespace VectorChange

/-- Works out what a change writes; a change without effect writes nothing. -/
def prepare (c : VectorChange) (ix : VectorIndex) (store : StoreHandle) :
    VectorIndex × Except VectorError (Option Commit) :=
  match c with
  | insert id v =>
    match ix.validate id v with
    | .error e => (ix, .error e)
    | .ok () =>
      (ix.dropSample, (VectorIndex.prepareInsert ix.config store id v ix.nextLevel).map some)
  | delete id =>
    match checkId id with
    | .error fault => (ix, .error (.invalidId fault))
    | .ok () => (ix, VectorIndex.prepareDelete ix.config store id)

def write (c : VectorChange) (ix : VectorIndex) (store : StoreHandle) (commit : Commit) :
    VectorIndex.Outcome Unit :=
  match c with
  | insert _ _ => ix.commitInsert store commit
  | delete _ =>
    let o := ix.commitDelete store commit
    ⟨o.result.map fun _ => (), o.index, o.store⟩

def run (c : VectorChange) (ix : VectorIndex) (store : StoreHandle) : VectorIndex.Outcome Unit :=
  match c.prepare ix store with
  | (ix, .error e) => ⟨.error e, ix, store⟩
  | (ix, .ok none) => ⟨.ok (), ix, store⟩
  | (ix, .ok (some commit)) => c.write ix store commit

theorem run_insert (id : String) (v : Embedding) (ix : VectorIndex) (store : StoreHandle) :
    (insert id v).run ix store = ix.insert store .never id v := by
  simp only [run, prepare, VectorIndex.insert]
  cases ix.validate id v with
  | error e => rfl
  | ok u =>
    cases h : VectorIndex.prepareInsert ix.config store id v ix.nextLevel with
    | error e => simp [Except.map]
    | ok commit => simp [Except.map, write]

theorem run_delete (id : String) (ix : VectorIndex) (store : StoreHandle) :
    (delete id).run ix store =
      let o := ix.delete store id
      ⟨o.result.map fun _ => (), o.index, o.store⟩ := by
  simp only [run, prepare, VectorIndex.delete]
  cases checkId id with
  | error e => rfl
  | ok u =>
    cases h : VectorIndex.prepareDelete ix.config store id with
    | error e => rfl
    | ok commit => cases commit <;> rfl

end VectorChange

/-- What the vector index has to hold for a document: its embedding, or nothing. -/
def Document.vectorChange (d : Document) : VectorChange :=
  match d.embedding with
  | some v => .insert d.id v
  | none => .delete d.id

def Stage.change : Stage → VectorChange
  | entryWritten d => d.vectorChange
  | entryRemoved id _ => .delete id

namespace Indexes

def checkDocument (ixs : Indexes) (d : Document) : Except EngineError Unit :=
  match checkId d.id with
  | .error fault => .error (.invalidQuery (.documentId fault))
  | .ok () =>
    if !Tenant.isValid d.tenant then .error (.invalidQuery (.tenant d.tenant))
    else match d.embedding with
      | none => .ok ()
      | some v => (ixs.vector.validate d.id v).mapError .vector

def writeEntry (ixs : Indexes) (d : Document) : Except EngineError Indexes := do
  ixs.checkDocument d
  let text ← (ixs.text.index d.toEntry).mapError .text
  return { ixs with text }

def removeEntry (ixs : Indexes) (id : String) : Except EngineError Indexes := do
  match checkId id with
  | .error fault => throw (.invalidQuery (.documentId fault))
  | .ok () =>
    let (text, _) ← (ixs.text.delete id).mapError .text
    return { ixs with text }

/-- Reaches a stage, unless the way to it failed; then nothing has changed. -/
def reach (ixs : Indexes) (next : Except EngineError Indexes) (stage : Stage) : Indexes × Progress :=
  match next with
  | .ok ixs => (ixs, .reached stage)
  | .error e => (ixs, .finished (.error e))

/-- The part of a task before its first change of the vector index. -/
def start (ixs : Indexes) : Task → Indexes × Progress
  | .index d => ixs.reach (ixs.writeEntry d) (.entryWritten d)
  | .update d =>
    ixs.reach (do ixs.checkDocument d; ixs.removeEntry d.id) (.entryRemoved d.id (some d))
  | .delete id => ixs.reach (ixs.removeEntry id) (.entryRemoved id none)

/-- Removes the entry of a document that the vector index has refused. -/
def compensate (ixs : Indexes) (id : String) (source : VectorError) : Indexes × EngineError :=
  match ixs.text.delete id with
  | .ok (text, _) => ({ ixs with text }, .partialWrite id true source)
  | .error _ => (ixs, .partialWrite id false source)

/-- The end of indexing, after the change of the vector index. -/
def finishEntry (ixs : Indexes) (d : Document) (changed : Except VectorError Unit) :
    Indexes × TaskResult :=
  match changed with
  | .ok () => (ixs, .ok (.indexed d.embedding.isSome))
  | .error source =>
    let (ixs, e) := ixs.compensate d.id source
    (ixs, .error e)

/-- The part of a task that follows a stage, once the vector index has changed or refused. -/
def proceed (ixs : Indexes) (stage : Stage) (changed : Except VectorError Unit) :
    Indexes × Progress :=
  match stage, changed with
  | .entryWritten d, changed =>
    let (ixs, result) := ixs.finishEntry d changed
    (ixs, .finished result)
  | .entryRemoved _ _, .error e => (ixs, .finished (.error (.vector e)))
  | .entryRemoved _ none, .ok () => (ixs, .finished (.ok .deleted))
  | .entryRemoved _ (some d), .ok () => ixs.start (.index d)

def change (ixs : Indexes) (c : VectorChange) : Indexes × Except VectorError Unit :=
  let o := c.run ixs.vector ixs.store
  ({ ixs with vector := o.index, store := o.store }, o.result)

def indexDocument (ixs : Indexes) (d : Document) : Indexes × TaskResult :=
  match ixs.writeEntry d with
  | .error e => (ixs, .error e)
  | .ok ixs =>
    let (ixs, changed) := ixs.change d.vectorChange
    ixs.finishEntry d changed

def deleteDocument (ixs : Indexes) (id : String) : Indexes × TaskResult :=
  match ixs.removeEntry id with
  | .error e => (ixs, .error e)
  | .ok ixs =>
    match ixs.change (.delete id) with
    | (ixs, .error e) => (ixs, .error (.vector e))
    | (ixs, .ok ()) => (ixs, .ok .deleted)

def updateDocument (ixs : Indexes) (d : Document) : Indexes × TaskResult :=
  match ixs.checkDocument d with
  | .error e => (ixs, .error e)
  | .ok () =>
    match ixs.deleteDocument d.id with
    | (ixs, .error e) => (ixs, .error e)
    | (ixs, .ok _) => ixs.indexDocument d

def execute (ixs : Indexes) : Task → Indexes × TaskResult
  | .index d => ixs.indexDocument d
  | .update d => ixs.updateDocument d
  | .delete id => ixs.deleteDocument id

end Indexes

end HybridSearch

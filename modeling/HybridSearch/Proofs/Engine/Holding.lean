import HybridSearch.Engine.Task
import HybridSearch.Proofs.TextIndex.Tables
import HybridSearch.Proofs.VectorIndex.Index

/-!
# What the two indexes hold

The text index holds documents and the vector index holds embeddings, each under an id. Every part of a
write changes one of the two at one id. A change of the vector index is prepared first; when its batch
cannot be written, both indexes hold what they held before.
-/
namespace HybridSearch

/-- The documents of the text index and the embeddings of the vector index. -/
structure Holding where
  documents : String → Option Document
  embeddings : String → Option Embedding

namespace Holding

def nothing : Holding := ⟨fun _ => none, fun _ => none⟩

def setDocument (s : Holding) (id : String) (d : Option Document) : Holding :=
  { s with documents := Function.update s.documents id d }

def setEmbedding (s : Holding) (id : String) (v : Option Embedding) : Holding :=
  { s with embeddings := Function.update s.embeddings id v }

/-- A document with its embedding takes the place of what is held under its id. -/
def put (s : Holding) (d : Document) : Holding :=
  (s.setDocument d.id (some d)).setEmbedding d.id d.embedding

def drop (s : Holding) (id : String) : Holding := (s.setDocument id none).setEmbedding id none

theorem setDocument_setDocument (s : Holding) (id : String) (d d' : Option Document) :
    (s.setDocument id d).setDocument id d' = s.setDocument id d' := by
  simp [setDocument]

theorem setEmbedding_setEmbedding (s : Holding) (id : String) (v v' : Option Embedding) :
    (s.setEmbedding id v).setEmbedding id v' = s.setEmbedding id v' := by
  simp [setEmbedding]

theorem setDocument_setEmbedding (s : Holding) (id id' : String) (d : Option Document)
    (v : Option Embedding) :
    (s.setEmbedding id' v).setDocument id d = (s.setDocument id d).setEmbedding id' v := rfl

theorem put_of_drop (s : Holding) (d : Document) : (s.drop d.id).put d = s.put d := by
  rw [put, put, drop, setDocument_setEmbedding, setDocument_setDocument, setEmbedding_setEmbedding]

end Holding

def VectorChange.apply (c : VectorChange) (s : Holding) : Holding :=
  match c with
  | insert id v => s.setEmbedding id (some v)
  | delete id => s.setEmbedding id none

theorem Document.apply_vectorChange (d : Document) (s : Holding) :
    d.vectorChange.apply s = s.setEmbedding d.id d.embedding := by
  rw [Document.vectorChange]
  cases d.embedding <;> rfl

namespace Graph

variable {config : VectorConfig} {g : Graph}

/-- The embedding of a node, if there is one. -/
def embedding? (g : Graph) (id : String) : Option Embedding :=
  if id ∈ g.ids then some (g.vector id) else none

theorem embedding?_insert (hs : g.Sound config) {id : String} {v : Embedding} {level : Nat}
    (hbreadth : 0 < config.buildBreadth) :
    (g.insert config id v level).embedding? = Function.update g.embedding? id (some v) := by
  funext i
  rw [embedding?, vector_insert hs hbreadth]
  by_cases hi : i = id
  · rw [if_pos ((mem_ids_insert hs hbreadth).mpr (.inl hi)), if_pos hi, hi, Function.update_self]
  · rw [Function.update_of_ne hi, if_neg hi, embedding?]
    simp only [mem_ids_insert hs hbreadth, hi, false_or]

theorem embedding?_delete (hs : g.Sound config) (id : String) :
    (g.delete config id).embedding? = Function.update g.embedding? id none := by
  funext i
  rw [embedding?, vector_delete hs]
  by_cases hi : i = id
  · rw [if_neg fun hmem => ((mem_ids_delete hs).mp hmem).2 hi, hi, Function.update_self]
  · rw [Function.update_of_ne hi, embedding?]
    simp only [mem_ids_delete hs, ne_eq, hi, not_false_eq_true, and_true]

end Graph

namespace Indexes

/-- The text index is open and lists the documents; the vector index stores the embeddings. -/
structure Holds (ixs : Indexes) (s : Holding) : Prop where
  isOpen : ixs.text.isOpen = true
  lists : ixs.text.tables.Lists s.documents
  stores : ∃ g, ixs.vector.Ready ixs.store g ∧ g.embedding? = s.embeddings

def written (ixs : Indexes) (batch : List Change) (sync : Bool) : Indexes :=
  { ixs with store := { ixs.store with content := ixs.store.content.write batch, lastSync := sync } }

variable {ixs : Indexes} {s : Holding}

theorem Holds.withVector (h : ixs.Holds s) {vector : VectorIndex}
    (hconfig : vector.config = ixs.vector.config) : { ixs with vector }.Holds s := by
  obtain ⟨g, hready, hg⟩ := h.stores
  exact ⟨h.isOpen, h.lists, g, hready.of_config hconfig, hg⟩

theorem Holds.withWriteFault (h : ixs.Holds s) (fault : Option StoreFault) :
    { ixs with store := { ixs.store with faults := { write := fault } } }.Holds s := by
  obtain ⟨g, hready, hg⟩ := h.stores
  exact ⟨h.isOpen, h.lists, g, hready.withWriteFault fault, hg⟩

end Indexes

/-- A change that the checks of the vector index let through. -/
def VectorChange.Allowed (config : VectorConfig) : VectorChange → Prop
  | insert id v => checkId id = .ok () ∧ VectorIndex.checkVector config v = .ok ()
  | delete id => checkId id = .ok ()

namespace Indexes

variable {ixs : Indexes} {s : Holding}

theorem Holds.written (h : ixs.Holds s) {g : Graph} {batch : List Change} (sync : Bool)
    (hg : VectorIndex.Holds ixs.vector.config (ixs.store.content.write batch) g) :
    (ixs.written batch sync).Holds { s with embeddings := g.embedding? } := by
  obtain ⟨g', hready, -⟩ := h.stores
  exact ⟨h.isOpen, h.lists, g, hready.written hg, rfl⟩

theorem Holds.prepare_insert (h : ixs.Holds s) {id : String} {v : Embedding}
    (hid : checkId id = .ok ()) (hv : VectorIndex.checkVector ixs.vector.config v = .ok ()) :
    ∃ commit, (VectorChange.insert id v).prepare ixs.vector ixs.store =
        (ixs.vector.dropSample, .ok (some commit)) ∧
      ∀ sync, (ixs.written commit.batch sync).Holds (s.setEmbedding id (some v)) := by
  obtain ⟨g, hready, hg⟩ := h.stores
  have hbreadth := hready.accepted.buildBreadth.1
  obtain ⟨batch, hprepare, hholds⟩ := VectorIndex.prepareInsert_ok hready.holds hready.gettable
    hready.scannable id hbreadth ixs.vector.nextLevel_le hv
  have hembeddings : (g.insert ixs.vector.config id v ixs.vector.nextLevel).embedding? =
      Function.update g.embedding? id (some v) := Graph.embedding?_insert hready.holds.sound hbreadth
  refine ⟨VectorIndex.commitTo (g.insert ixs.vector.config id v ixs.vector.nextLevel) batch, ?_,
    fun sync => ?_⟩
  · simp only [VectorChange.prepare, VectorIndex.validate, hid, hv, hprepare]
    rfl
  · have hnext := h.written sync hholds
    rw [hembeddings, hg] at hnext
    exact hnext

theorem Holds.prepare_delete (h : ixs.Holds s) {id : String} (hid : checkId id = .ok ()) :
    ((VectorChange.delete id).prepare ixs.vector ixs.store = (ixs.vector, .ok none) ∧
      s.setEmbedding id none = s) ∨
    ∃ commit, (VectorChange.delete id).prepare ixs.vector ixs.store =
        (ixs.vector, .ok (some commit)) ∧
      ∀ sync, (ixs.written commit.batch sync).Holds (s.setEmbedding id none) := by
  obtain ⟨g, hready, hg⟩ := h.stores
  rcases VectorIndex.prepareDelete_ok hready.holds hready.gettable hready.scannable id with
    ⟨hmem, hprepare⟩ | ⟨-, batch, hprepare, hholds⟩
  · have hnone : s.embeddings id = none := by
      rw [← hg, Graph.embedding?, if_neg hmem]
    refine .inl ⟨?_, ?_⟩
    · simp only [VectorChange.prepare, hid, hprepare]
    · rw [Holding.setEmbedding, ← hnone, Function.update_eq_self]
  · refine .inr ⟨VectorIndex.commitTo (g.delete ixs.vector.config id) batch, ?_, fun sync => ?_⟩
    · simp only [VectorChange.prepare, hid, hprepare]
    · have hnext := h.written sync hholds
      rw [Graph.embedding?_delete hready.holds.sound, hg] at hnext
      exact hnext

theorem Holds.prepare (h : ixs.Holds s) {c : VectorChange} (hc : c.Allowed ixs.vector.config) :
    ∃ vector, vector.config = ixs.vector.config ∧
      ((c.prepare ixs.vector ixs.store = (vector, .ok none) ∧ c.apply s = s) ∨
      ∃ commit, c.prepare ixs.vector ixs.store = (vector, .ok (some commit)) ∧
        ∀ sync, (ixs.written commit.batch sync).Holds (c.apply s)) := by
  cases c with
  | insert id v => exact ⟨ixs.vector.dropSample, rfl, .inr (h.prepare_insert hc.1 hc.2)⟩
  | delete id => exact ⟨ixs.vector, rfl, h.prepare_delete hc⟩

/-- Writing a batch fails and changes nothing, or brings about what the batch was prepared for. -/
theorem Holds.write (h : ixs.Holds s) {c : VectorChange} {commit : Commit} {s' : Holding}
    (hwritten : ∀ sync, (ixs.written commit.batch sync).Holds s') :
    ∃ o, c.write ixs.vector ixs.store commit = o ∧ o.index.config = ixs.vector.config ∧
      o.store.faults = ixs.store.faults ∧
      ((∃ fault, ixs.store.faults.write = some fault ∧ o.result = .error (.storage fault) ∧
        { ixs with vector := o.index, store := o.store }.Holds s) ∨
      (o.result = .ok () ∧ { ixs with vector := o.index, store := o.store }.Holds s')) := by
  refine ⟨_, rfl, ?_⟩
  rcases VectorIndex.commit_cases ixs.store ixs.vector commit with
    ⟨fault, hfault, hcommit⟩ | ⟨hfault, hcommit⟩
  · cases c with
    | insert id v =>
      rw [VectorChange.write, VectorIndex.commitInsert, hcommit]
      exact ⟨rfl, rfl, .inl ⟨fault, hfault, rfl, h⟩⟩
    | delete id =>
      rw [VectorChange.write, VectorIndex.commitDelete, hcommit]
      exact ⟨rfl, rfl, .inl ⟨fault, hfault, rfl, h⟩⟩
  · cases c with
    | insert id v =>
      rw [VectorChange.write, VectorIndex.commitInsert, hcommit]
      exact ⟨rfl, rfl, .inr ⟨rfl, (hwritten _).withVector rfl⟩⟩
    | delete id =>
      rw [VectorChange.write, VectorIndex.commitDelete, hcommit]
      exact ⟨rfl, rfl, .inr ⟨rfl, (hwritten _).withVector rfl⟩⟩

end Indexes

end HybridSearch

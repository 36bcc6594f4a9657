import HybridSearch.Proofs.Engine.Turns

/-!
# What is kept under an id

Indexing a document changes what the two indexes keep under its id, and nothing else. What is kept there in the
end, the times of the writes apart, depends on what was kept before, on the document and on whether the store
takes writes, and not on what other workers do meanwhile.
-/
namespace HybridSearch

def ListingRow.untimed (l : ListingRow) : ListingRow := { l with createdAt := 0, updatedAt := 0 }

/-- What the two indexes have under an id, whenever it was written. -/
structure Kept where
  rows : List TextRow
  listing : List ListingRow
  embedding : Option Bytes
  deriving DecidableEq

namespace Kept

/-- With the entry of a document in place of the one that was there. -/
def write (k : Kept) (d : Document) : Kept :=
  { k with
    rows := [TextRow.ofEntry d.toEntry]
    listing := ListingRow.ofEntry d.toEntry 0 0 :: k.listing.tail }

def erase (k : Kept) : Kept := { k with rows := [], listing := [] }

/-- Whether indexing a document changes the vector index. -/
def changes (k : Kept) (d : Document) : Bool := d.embedding.isSome || k.embedding.isSome

/-- Once the entry of a document has been written, the vector index changes too, or the entry is removed. -/
def finish (k : Kept) (d : Document) : Option StoreFault → Kept
  | none => { k with embedding := d.embedding.map Embedding.encode }
  | some _ => if k.changes d then k.erase else k

theorem finish_of_unchanged {k : Kept} {d : Document} (h : k.changes d = false) (fault : Option StoreFault) :
    k.finish d fault = k := by
  cases fault with
  | some fault => rw [finish, h, if_neg Bool.false_ne_true]
  | none =>
    obtain ⟨hnew, hold⟩ := Bool.or_eq_false_iff.mp h
    rw [Option.isSome_eq_false_iff, Option.isNone_iff_eq_none] at hnew hold
    rw [finish, hnew, Option.map_none, ← hold]

end Kept

namespace Indexes

variable {ixs ixs' : Indexes} {d : Document}

def kept (ixs : Indexes) (id : String) : Kept where
  rows := ixs.text.tables.rowsOf id
  listing := (ixs.text.tables.listingOf id).map ListingRow.untimed
  embedding := ixs.store.content.find? ((KeySpace.ofPrefix ixs.vector.config.keyPrefix).vector id)

/-- Whether the entry of a document is written when the document is indexed. -/
def admits (ixs : Indexes) (d : Document) : Bool := (ixs.writeEntry d).isOk

/-- What is kept under the id of a document once it has been indexed. -/
def keptAfter (ixs : Indexes) (d : Document) : Kept :=
  if ixs.admits d then ((ixs.kept d.id).write d).finish d ixs.store.faults.write
  else ixs.kept d.id

/-- What decides, apart from what is kept, how a document is indexed. -/
structure SameRules (ixs ixs' : Indexes) : Prop where
  isOpen : ixs'.text.isOpen = ixs.text.isOpen
  config : ixs'.vector.config = ixs.vector.config
  faults : ixs'.store.faults = ixs.store.faults

theorem SameRules.refl (ixs : Indexes) : ixs.SameRules ixs := ⟨rfl, rfl, rfl⟩

theorem SameRules.trans {ixs'' : Indexes} (h : ixs.SameRules ixs') (h' : ixs'.SameRules ixs'') :
    ixs.SameRules ixs'' :=
  ⟨h'.isOpen.trans h.isOpen, h'.config.trans h.config, h'.faults.trans h.faults⟩

theorem kept_put (ixs : Indexes) (d : Document) (now : Int) (clock : Nat) (id : String) :
    ({ ixs with text := { ixs.text with tables := ixs.text.tables.put d.toEntry now, clock } } : Indexes).kept id =
      if id = d.id then (ixs.kept id).write d else ixs.kept id := by
  rw [kept, kept]
  dsimp only
  rw [TextTables.rowsOf_put, Document.id_toEntry]
  by_cases hid : id = d.id
  · obtain ⟨created, hlisting⟩ := ixs.text.tables.listingOf_put_self d.toEntry now
    rw [Document.id_toEntry] at hlisting
    rw [hid, if_pos rfl, if_pos rfl, hlisting, List.map_cons, List.map_tail]
    rfl
  · rw [if_neg hid, if_neg hid, TextTables.listingOf_put_of_ne _ _ hid]

theorem kept_remove (ixs : Indexes) (removed id : String) :
    ({ ixs with text := { ixs.text with tables := ixs.text.tables.remove removed } } : Indexes).kept id =
      if id = removed then (ixs.kept id).erase else ixs.kept id := by
  rw [kept, kept]
  dsimp only
  rw [TextTables.rowsOf_remove, TextTables.listingOf_remove]
  by_cases hid : id = removed
  · rw [if_pos hid, if_pos hid, if_pos hid]
    rfl
  · rw [if_neg hid, if_neg hid, if_neg hid]

theorem kept_embedding {g : Graph} (h : VectorIndex.Holds ixs.vector.config ixs.store.content g) (id : String) :
    (ixs.kept id).embedding = (g.embedding? id).map Embedding.encode := by
  refine (h.found (.vector id)).trans ?_
  rw [Graph.stored, Graph.embedding?]
  split <;> rfl

/-- An open index writes the entry of a document that the checks let through, and no other. -/
theorem writeEntry_cases (ixs : Indexes) (d : Document) :
    (∃ e, ixs.writeEntry d = .error e ∧ ¬(ixs.text.isOpen = true ∧ d.Allowed ixs.vector.config)) ∨
      ixs.text.isOpen = true ∧ d.Allowed ixs.vector.config ∧
        ixs.writeEntry d = .ok { ixs with text := { ixs.text with
          tables := ixs.text.tables.put d.toEntry (ixs.text.clock + 1 : Nat)
          clock := ixs.text.clock + 1 } } := by
  by_cases hadmitted : ixs.text.isOpen = true ∧ d.Allowed ixs.vector.config
  · exact .inr ⟨hadmitted.1, hadmitted.2, writeEntry_of_allowed hadmitted.1 hadmitted.2⟩
  · refine .inl ?_
    cases hwrite : ixs.writeEntry d with
    | error e => exact ⟨e, rfl, hadmitted⟩
    | ok written =>
      obtain ⟨u, hcheck, hwrite⟩ := exists_of_bind_ok hwrite
      obtain ⟨text, hindex, -⟩ := exists_of_bind_ok hwrite
      have hindexed := ok_of_mapError hindex
      rw [TextIndex.index] at hindexed
      obtain ⟨-, -, hindexed⟩ := exists_of_bind_ok hindexed
      obtain ⟨u, hensure, -⟩ := exists_of_bind_ok hindexed
      rw [TextIndex.ensureOpen] at hensure
      split at hensure
      · next hopen => exact absurd ⟨hopen, allowed_of_checkDocument hcheck⟩ hadmitted
      · cases hensure

theorem admits_iff : ixs.admits d = true ↔ ixs.text.isOpen = true ∧ d.Allowed ixs.vector.config := by
  rw [admits]
  rcases ixs.writeEntry_cases d with ⟨e, hwrite, hrefused⟩ | ⟨hopen, hallowed, hwrite⟩
  · rw [hwrite]
    exact ⟨fun h => (by cases h), fun h => absurd h hrefused⟩
  · rw [hwrite]
    exact ⟨fun _ => ⟨hopen, hallowed⟩, fun _ => rfl⟩

theorem SameRules.admits (h : ixs.SameRules ixs') (d : Document) : ixs'.admits d = ixs.admits d := by
  rw [Bool.eq_iff_iff, admits_iff, admits_iff, h.isOpen, h.config]

end Indexes

namespace VectorChange

variable {ix : VectorIndex} {store : StoreHandle} {g : Graph} {d : Document}

/-- What a document asks of the vector index is worked out, unless there is nothing to do. -/
theorem prepare_document (h : ix.Ready store g) (hd : d.Allowed ix.config) : ∃ vector, vector.config = ix.config ∧
    ((d.vectorChange.prepare ix store = (vector, .ok none) ∧ d.embedding = none ∧ d.id ∉ g.ids) ∨
      ∃ commit, d.vectorChange.prepare ix store = (vector, .ok (some commit)) ∧
        (d.embedding.isSome = true ∨ d.id ∈ g.ids)) := by
  rw [Document.vectorChange]
  cases hv : d.embedding with
  | some v =>
    have hvalid := hd.embedding v hv
    obtain ⟨batch, hprepare, -⟩ := VectorIndex.prepareInsert_ok h.holds h.gettable h.scannable d.id
      h.accepted.buildBreadth.1 ix.nextLevel_le hvalid
    refine ⟨ix.dropSample, rfl, .inr
      ⟨VectorIndex.commitTo (g.insert ix.config d.id v ix.nextLevel) batch, ?_, .inl rfl⟩⟩
    simp only [prepare, VectorIndex.validate, hd.id, hvalid, hprepare]
    rfl
  | none =>
    refine ⟨ix, rfl, ?_⟩
    rcases VectorIndex.prepareDelete_ok h.holds h.gettable h.scannable d.id with
      ⟨hmem, hprepare⟩ | ⟨hmem, batch, hprepare, -⟩
    · refine .inl ⟨?_, rfl, hmem⟩
      simp only [prepare, hd.id, hprepare]
    · refine .inr ⟨VectorIndex.commitTo (g.delete ix.config d.id) batch, ?_, .inr hmem⟩
      simp only [prepare, hd.id, hprepare]

theorem Makes.embedding?_document {config : VectorConfig} {g' : Graph} (h : d.vectorChange.Makes config g g')
    (hs : g.Sound config) (hbreadth : 0 < config.buildBreadth) :
    g'.embedding? = Function.update g.embedding? d.id d.embedding := by
  rw [Document.vectorChange] at h
  cases hv : d.embedding with
  | some v =>
    rw [hv] at h
    cases h
    exact Graph.embedding?_insert hs hbreadth
  | none =>
    rw [hv] at h
    cases h
    exact Graph.embedding?_delete hs d.id

/-- A write fails without a trace, or the batch is in the store. -/
theorem write_cases (c : VectorChange) (ix : VectorIndex) (store : StoreHandle) (commit : Commit) :
    (∃ fault, store.faults.write = some fault ∧ (c.write ix store commit).result = .error (.storage fault) ∧
      (c.write ix store commit).store = store) ∨
    (store.faults.write = none ∧ (c.write ix store commit).result = .ok () ∧
      (c.write ix store commit).store =
        { store with content := store.content.write commit.batch, lastSync := ix.config.syncWrites }) := by
  rcases VectorIndex.commit_cases store ix commit with ⟨fault, hfault, hcommit⟩ | ⟨hfault, hcommit⟩
  · refine .inl ⟨fault, hfault, ?_⟩
    cases c with
    | insert id v => simp only [write, VectorIndex.commitInsert, hcommit, and_self]
    | delete id => simp only [write, VectorIndex.commitDelete, hcommit, Except.map, and_self]
  · refine .inr ⟨hfault, ?_⟩
    cases c with
    | insert id v => simp only [write, VectorIndex.commitInsert, hcommit, and_self]
    | delete id => simp only [write, VectorIndex.commitDelete, hcommit, Except.map, and_self]

end VectorChange

namespace Indexes

variable {ixs ixs' : Indexes} {d : Document}

/-- A document whose entry had been written has been indexed: nothing has changed but what is kept under its
id. -/
structure Finishes (ixs : Indexes) (d : Document) (ixs' : Indexes) : Prop extends ixs.SameRules ixs' where
  kept : ∀ id, ixs'.kept id =
    if id = d.id then (ixs.kept id).finish d ixs.store.faults.write else ixs.kept id

theorem finishes_unchanged (hchanges : (ixs.kept d.id).changes d = false) {vector : VectorIndex}
    (hconfig : vector.config = ixs.vector.config) : ixs.Finishes d { ixs with vector } := by
  refine ⟨⟨rfl, hconfig, rfl⟩, fun id => ?_⟩
  have hkept : ({ ixs with vector } : Indexes).kept id = ixs.kept id := by
    rw [Indexes.kept, Indexes.kept, hconfig]
  rw [hkept]
  split
  · next hid => rw [hid, Kept.finish_of_unchanged hchanges]
  · rfl

theorem finishes_compensated (hchanges : (ixs.kept d.id).changes d = true) {fault : StoreFault}
    (hfault : ixs.store.faults.write = some fault) {vector : VectorIndex}
    (hconfig : vector.config = ixs.vector.config) : ixs.Finishes d { ixs with
      text := { ixs.text with tables := ixs.text.tables.remove d.id }
      vector } := by
  refine ⟨⟨rfl, hconfig, rfl⟩, fun id => ?_⟩
  have hkept : ({ ixs with
      text := { ixs.text with tables := ixs.text.tables.remove d.id }
      vector } : Indexes).kept id = if id = d.id then (ixs.kept id).erase else ixs.kept id := by
    rw [← ixs.kept_remove, Indexes.kept, Indexes.kept, hconfig]
  rw [hkept]
  split
  · next hid => rw [hid, hfault, Kept.finish, hchanges, if_pos rfl]
  · rfl

theorem finishes_written (hfault : ixs.store.faults.write = none) {g g' : Graph}
    (h : ixs.vector.Ready ixs.store g) (hmakes : d.vectorChange.Makes ixs.vector.config g g') {content : Store}
    (hholds : VectorIndex.Holds ixs.vector.config content g') (sync : Bool) {vector : VectorIndex}
    (hconfig : vector.config = ixs.vector.config) : ixs.Finishes d { ixs with
      vector
      store := { ixs.store with content, lastSync := sync } } := by
  refine ⟨⟨rfl, hconfig, rfl⟩, fun id => ?_⟩
  have hembedding := hmakes.embedding?_document h.holds.sound h.accepted.buildBreadth.1
  have hnew : (({ ixs with
      vector
      store := { ixs.store with content, lastSync := sync } } : Indexes).kept id).embedding =
        (g'.embedding? id).map Embedding.encode := kept_embedding (hconfig ▸ hholds) id
  rw [hembedding] at hnew
  split
  · next hid =>
    rw [hid, Function.update_self] at hnew
    rw [hid, hfault, Kept.finish, ← hnew]
    rfl
  · next hid =>
    rw [Function.update_of_ne hid, ← kept_embedding h.holds id] at hnew
    exact congrArg (Kept.mk _ _) hnew

end Indexes

namespace Engine

variable {e : Engine} {g : Graph} {a : Assignment} {d : Document}

theorem takeTask_document {job : Job} {rest : List Job} (hidle : e.begun.length < e.config.workers)
    (hqueue : e.queue = job :: rest) (hjob : job.task = .index d) :
    (∃ cause, e.indexes.admits d = false ∧
      e.takeTask = ({ e with queue := rest } : Engine).finish job.number rest.length (.error cause)) ∨
    ∃ now clock, e.indexes.admits d = true ∧ e.takeTask = { e with
      queue := rest
      indexes := { e.indexes with text := { e.indexes.text with
        tables := e.indexes.text.tables.put d.toEntry now
        clock } }
      begun := e.begun ++ [⟨job.number, rest.length, .entryWritten d, none⟩] } := by
  rw [takeTask_eq hidle hqueue, hjob, Indexes.start, Indexes.admits]
  rcases e.indexes.writeEntry_cases d with ⟨cause, hwrite, -⟩ | ⟨-, -, hwrite⟩
  · rw [hwrite]
    exact .inl ⟨cause, rfl, rfl⟩
  · rw [hwrite]
    exact .inr ⟨_, _, rfl, rfl⟩

/-- What comes of a document whose entry had been written when its worker goes on: the write of the vector index
has been worked out, or the document has been indexed. -/
inductive Advanced (e : Engine) (a : Assignment) (d : Document) (before after : List Assignment) : Engine → Prop
  | prepared {vector : VectorIndex} {commit : Commit} (hchanges : (e.indexes.kept d.id).changes d = true)
      (hconfig : vector.config = e.indexes.vector.config) : Advanced e a d before after { e with
        indexes := { e.indexes with vector }
        begun := before ++ { a with commit := some commit } :: after }
  | finished {ixs : Indexes} {result : TaskResult} (h : e.indexes.Finishes d ixs) :
      Advanced e a d before after
        (({ e with indexes := ixs, begun := before ++ after } : Engine).finish a.number a.depth result)

theorem Backs.prepareWrite_document (h : e.Backs g) (hstage : a.stage = .entryWritten d)
    (hallowed : d.Allowed e.indexes.vector.config) (before after : List Assignment) :
    e.Advanced a d before after (e.prepareWrite a before after) := by
  obtain ⟨number, depth, stage, begun⟩ := a
  subst hstage
  obtain ⟨vector, hconfig, ⟨hprepare, hnew, hold⟩ | ⟨commit, hprepare, hneeded⟩⟩ :=
    VectorChange.prepare_document h.ready hallowed
  · have hchanges : (e.indexes.kept d.id).changes d = false := by
      rw [Kept.changes, Indexes.kept_embedding h.ready.holds, Graph.embedding?, if_neg hold, hnew]
      rfl
    rw [prepareWrite, Stage.change, hprepare]
    exact .finished (Indexes.finishes_unchanged hchanges hconfig)
  · have hchanges : (e.indexes.kept d.id).changes d = true := by
      rw [Kept.changes, Indexes.kept_embedding h.ready.holds, Graph.embedding?]
      rcases hneeded with hnew | hold
      · rw [hnew, Bool.true_or]
      · rw [if_pos hold, Option.map_some, Option.isSome_some, Bool.or_true]
    rw [prepareWrite, Stage.change, hprepare]
    exact .prepared hchanges hconfig

theorem Backs.performWrite_document (h : e.Backs g) {before after : List Assignment} {commit : Commit}
    (hbegun : e.begun = before ++ a :: after) (hcommit : a.commit = some commit)
    (hstage : a.stage = .entryWritten d) (hopen : e.indexes.text.isOpen = true)
    (hchanges : (e.indexes.kept d.id).changes d = true) :
    e.Advanced a d before after (e.performWrite a commit (before ++ after)) := by
  obtain ⟨-, g', hmakes, hholds⟩ := h.of_writing hbegun hcommit
  rw [hstage, Stage.change] at hmakes
  have hconfig := d.vectorChange.write_config e.indexes.vector e.indexes.store commit
  rw [Engine.performWrite, hstage, Stage.change]
  rcases d.vectorChange.write_cases e.indexes.vector e.indexes.store commit with
    ⟨fault, hfault, hresult, hstore⟩ | ⟨hfault, hresult, hstore⟩
  · dsimp only
    rw [hresult, hstore, Indexes.proceed, Indexes.finishEntry, Indexes.compensate,
      TextIndex.delete_of_isOpen hopen]
    exact .finished (Indexes.finishes_compensated hchanges hfault hconfig)
  · dsimp only
    rw [hresult, hstore, Indexes.proceed, Indexes.finishEntry]
    exact .finished (Indexes.finishes_written hfault h.ready hmakes hholds _ hconfig)

theorem Backs.moveWorker_document (h : e.Backs g) {position : Nat} (hposition : e.begun[position]? = some a)
    (hmove : e.canMove a = true) (hstage : a.stage = .entryWritten d) (hopen : e.indexes.text.isOpen = true)
    (hallowed : d.Allowed e.indexes.vector.config)
    (hchanges : a.commit.isSome = true → (e.indexes.kept d.id).changes d = true) :
    ∃ before after, e.begun = before ++ a :: after ∧ e.Advanced a d before after (e.moveWorker position) := by
  have hbegun := eq_take_cons_drop hposition
  refine ⟨e.begun.take position, e.begun.drop (position + 1), hbegun, ?_⟩
  rw [Engine.moveWorker, hposition]
  simp only [hmove, ↓reduceIte]
  cases hcommit : a.commit with
  | some commit =>
    rw [hcommit] at hchanges
    exact h.performWrite_document hbegun hcommit hstage hopen (hchanges rfl)
  | none => exact h.prepareWrite_document hstage hallowed _ _

end Engine

end HybridSearch

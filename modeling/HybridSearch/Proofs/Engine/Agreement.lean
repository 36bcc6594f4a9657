import HybridSearch.Proofs.Engine.Reachable
import HybridSearch.Proofs.TextIndex.Agreement

/-!
# Engines that cannot be told apart

Two engines may differ in the times of first writes and in what their vector indexes have counted. No search, no
look-up and no listing shows this, and nothing that is done to both of them brings it to light.
-/
namespace HybridSearch

/-- Vector indexes that differ in their counters and gauges only. -/
structure VectorIndex.Agrees (ix ix' : VectorIndex) : Prop where
  config : ix'.config = ix.config
  samples : ix'.samples = ix.samples

namespace VectorIndex.Agrees

variable {ix ix' : VectorIndex}

theorem nextLevel (h : ix.Agrees ix') : ix'.nextLevel = ix.nextLevel := by
  rw [VectorIndex.nextLevel, VectorIndex.nextLevel, h.samples, h.config]

theorem prepare (h : ix.Agrees ix') (c : VectorChange) (store : StoreHandle) :
    (c.prepare ix store).1.Agrees (c.prepare ix' store).1 ∧
      (c.prepare ix' store).2 = (c.prepare ix store).2 := by
  cases c with
  | insert id v =>
    rw [VectorChange.prepare, VectorChange.prepare, validate, validate, h.config, h.nextLevel]
    split
    · exact ⟨h, rfl⟩
    · exact ⟨⟨h.config, congrArg (List.drop 1) h.samples⟩, rfl⟩
  | delete id =>
    rw [VectorChange.prepare, VectorChange.prepare, h.config]
    split
    · exact ⟨h, rfl⟩
    · exact ⟨h, rfl⟩

theorem write (h : ix.Agrees ix') (c : VectorChange) (store : StoreHandle) (commit : Commit) :
    (c.write ix store commit).index.Agrees (c.write ix' store commit).index ∧
      (c.write ix' store commit).result = (c.write ix store commit).result ∧
      (c.write ix' store commit).store = (c.write ix store commit).store := by
  have hcommit : (∃ e, ix.commit store commit = .error e ∧ ix'.commit store commit = .error e) ∨
      ∃ after, ix.commit store commit = .ok (ix.moveGauges commit, after) ∧
        ix'.commit store commit = .ok (ix'.moveGauges commit, after) := by
    rw [VectorIndex.commit, VectorIndex.commit, h.config]
    cases store.write commit.batch ix.config.syncWrites with
    | error fault => exact .inl ⟨_, rfl, rfl⟩
    | ok after => exact .inr ⟨after, rfl, rfl⟩
  cases c with
  | insert id v =>
    rw [VectorChange.write, VectorChange.write, commitInsert, commitInsert]
    rcases hcommit with ⟨e, hcommit, hcommit'⟩ | ⟨after, hcommit, hcommit'⟩
    · rw [hcommit, hcommit']
      exact ⟨h, rfl, rfl⟩
    · rw [hcommit, hcommit']
      exact ⟨⟨h.config, h.samples⟩, rfl, rfl⟩
  | delete id =>
    rw [VectorChange.write, VectorChange.write, commitDelete, commitDelete]
    rcases hcommit with ⟨e, hcommit, hcommit'⟩ | ⟨after, hcommit, hcommit'⟩
    · rw [hcommit, hcommit']
      exact ⟨h, rfl, rfl⟩
    · rw [hcommit, hcommit']
      exact ⟨⟨h.config, h.samples⟩, rfl, rfl⟩

theorem search (h : ix.Agrees ix') (store : StoreHandle) (cancel : Cancellation) (query : Embedding) (k : Nat) :
    (ix.search store cancel query k).2.Agrees (ix'.search store cancel query k).2 ∧
      (ix'.search store cancel query k).1 = (ix.search store cancel query k).1 := by
  have hanswer : lookUp ix'.config store cancel query k = lookUp ix.config store cancel query k := by
    rw [h.config]
  rw [VectorIndex.search, VectorIndex.search, hanswer]
  split
  · exact ⟨h, rfl⟩
  · exact ⟨⟨h.config, h.samples⟩, rfl⟩

theorem get (h : ix.Agrees ix') (store : StoreHandle) (id : String) : ix'.get store id = ix.get store id := by
  rw [VectorIndex.get, VectorIndex.get, h.config]

end VectorIndex.Agrees

/-- Indexes over one store that differ in the times of first writes and in what the vector index counts. -/
structure Indexes.Agrees (ixs ixs' : Indexes) : Prop where
  text : ixs.text.Agrees ixs'.text
  vector : ixs.vector.Agrees ixs'.vector
  store : ixs'.store = ixs.store

/-- What is made of indexes that agree, with one answer. -/
def Indexes.AnswersAlike {α : Type} (x y : Indexes × α) : Prop := x.1.Agrees y.1 ∧ y.2 = x.2

namespace Indexes.Agrees

variable {ixs ixs' : Indexes}

theorem writeEntry (h : ixs.Agrees ixs') (d : Document) : Paired Agrees (ixs.writeEntry d) (ixs'.writeEntry d) := by
  have hcheck : ixs'.checkDocument d = ixs.checkDocument d := by
    simp only [checkDocument, VectorIndex.validate, h.vector.config]
  rw [Indexes.writeEntry, Indexes.writeEntry, hcheck]
  refine .bind_same fun _ => ((h.text.index _).mapError _).bind fun text text' htext => ?_
  exact .ok ⟨htext, h.vector, h.store⟩

theorem removeEntry (h : ixs.Agrees ixs') (id : String) :
    Paired Agrees (ixs.removeEntry id) (ixs'.removeEntry id) := by
  rw [Indexes.removeEntry, Indexes.removeEntry]
  split
  · exact .error _
  · refine ((h.text.delete id).mapError _).bind fun removed removed' htext => ?_
    exact .ok ⟨htext, h.vector, h.store⟩

theorem reach (h : ixs.Agrees ixs') {next next' : Except EngineError Indexes} (hnext : Paired Agrees next next')
    (stage : Stage) : AnswersAlike (ixs.reach next stage) (ixs'.reach next' stage) := by
  cases hnext with
  | ok hixs => exact ⟨hixs, rfl⟩
  | error e => exact ⟨h, rfl⟩

theorem start (h : ixs.Agrees ixs') (t : Task) : AnswersAlike (ixs.start t) (ixs'.start t) := by
  cases t with
  | index d => exact h.reach (h.writeEntry d) _
  | update d =>
    have hcheck : ixs'.checkDocument d = ixs.checkDocument d := by
      simp only [checkDocument, VectorIndex.validate, h.vector.config]
    rw [Indexes.start, Indexes.start, hcheck]
    exact h.reach (.bind_same fun _ => h.removeEntry d.id) _
  | delete id => exact h.reach (h.removeEntry id) _

theorem compensate (h : ixs.Agrees ixs') (id : String) (source : VectorError) :
    AnswersAlike (ixs.compensate id source) (ixs'.compensate id source) := by
  have hdelete := h.text.delete id
  rw [Indexes.compensate, Indexes.compensate]
  generalize ixs.text.delete id = removed at hdelete
  generalize ixs'.text.delete id = removed' at hdelete
  cases hdelete with
  | ok htext => exact ⟨⟨htext, h.vector, h.store⟩, rfl⟩
  | error e => exact ⟨h, rfl⟩

theorem proceed (h : ixs.Agrees ixs') (stage : Stage) (changed : Except VectorError Unit) :
    AnswersAlike (ixs.proceed stage changed) (ixs'.proceed stage changed) := by
  cases stage with
  | entryWritten d =>
    cases changed with
    | ok u => exact ⟨h, rfl⟩
    | error source =>
      obtain ⟨hixs, he⟩ := h.compensate d.id source
      exact ⟨hixs, congrArg (fun e => Progress.finished (.error e)) he⟩
  | entryRemoved id replacement =>
    cases changed with
    | error e => exact ⟨h, rfl⟩
    | ok u =>
      cases replacement with
      | none => exact ⟨h, rfl⟩
      | some d => exact h.start (.index d)

theorem vectorRanked (h : ixs.Agrees ixs') (r : SearchRequest) (limit : Nat) :
    (ixs.vectorRanked r limit).2.Agrees (ixs'.vectorRanked r limit).2 ∧
      (ixs'.vectorRanked r limit).1 = (ixs.vectorRanked r limit).1 := by
  obtain ⟨text', vector', store⟩ := ixs'
  obtain rfl : store = ixs.store := h.store
  rw [Indexes.vectorRanked, Indexes.vectorRanked]
  cases r.soughtEmbedding with
  | error e => exact ⟨h, rfl⟩
  | ok v =>
    obtain ⟨hvector, hanswer⟩ := h.vector.search ixs.store .never v (min limit VectorIndex.maxCount)
    dsimp only at hvector hanswer ⊢
    generalize ixs.vector.search ixs.store .never v (min limit VectorIndex.maxCount) = found at hvector hanswer ⊢
    generalize vector'.search ixs.store .never v (min limit VectorIndex.maxCount) = found' at hvector hanswer ⊢
    obtain ⟨answer, vector⟩ := found
    obtain ⟨answer', vector'⟩ := found'
    obtain rfl : answer' = answer := hanswer
    have hconfig : vector'.config = vector.config := hvector.config
    have htext : text'.hydrate = ixs.text.hydrate := by
      funext tenant metric neighbors
      exact h.text.hydrate tenant metric neighbors
    cases answer' with
    | error e => exact ⟨⟨h.text, hvector, rfl⟩, rfl⟩
    | ok neighbors =>
      refine ⟨⟨h.text, hvector, rfl⟩, ?_⟩
      dsimp only
      rw [htext, hconfig]

theorem hybridRanked (h : ixs.Agrees ixs') (config : EngineConfig) (r : SearchRequest) (limit : Nat) :
    (ixs.hybridRanked config r limit).2.Agrees (ixs'.hybridRanked config r limit).2 ∧
      (ixs'.hybridRanked config r limit).1 = (ixs.hybridRanked config r limit).1 := by
  rw [Indexes.hybridRanked, Indexes.hybridRanked]
  generalize min (2 * limit) maxSearchLimit = wide
  obtain ⟨hixs, hvector⟩ := h.vectorRanked r wide
  have htext : ixs'.textRanked r wide = ixs.textRanked r wide := h.text.ranked _ _ _
  dsimp only
  rw [htext, hvector]
  exact ⟨hixs, rfl⟩

theorem ranked (h : ixs.Agrees ixs') (config : EngineConfig) (r : SearchRequest) (limit : Nat) :
    (ixs.ranked config r limit).2.Agrees (ixs'.ranked config r limit).2 ∧
      (ixs'.ranked config r limit).1 = (ixs.ranked config r limit).1 := by
  rw [Indexes.ranked, Indexes.ranked]
  cases r.mode with
  | fullText => exact ⟨h, h.text.ranked _ _ _⟩
  | vector => exact h.vectorRanked r limit
  | hybrid => exact h.hybridRanked config r limit
  | structured => exact ⟨h, rfl⟩

theorem search (h : ixs.Agrees ixs') (config : EngineConfig) (cancelled : Bool) (r : SearchRequest) :
    (ixs.search config cancelled r).2.Agrees (ixs'.search config cancelled r).2 ∧
      (ixs'.search config cancelled r).1 = (ixs.search config cancelled r).1 := by
  rw [Indexes.search, Indexes.search]
  cases config.pageSize r.limit with
  | error e => exact ⟨h, rfl⟩
  | ok size =>
    dsimp only
    generalize min (size + r.offset) maxSearchLimit = window
    obtain ⟨hixs, hanswer⟩ := h.ranked config r window
    split
    · exact ⟨h, rfl⟩
    · rw [hanswer]
      exact ⟨hixs, rfl⟩

theorem document (h : ixs.Agrees ixs') (id tenant : String) : ixs'.document id tenant = ixs.document id tenant := by
  rw [Indexes.document, Indexes.document, h.text.document, h.vector.get, h.store]

theorem tenantDocuments (h : ixs.Agrees ixs') (config : EngineConfig) (tenant : String) (limit offset : Nat) :
    ixs'.tenantDocuments config tenant limit offset = ixs.tenantDocuments config tenant limit offset := by
  rw [Indexes.tenantDocuments, Indexes.tenantDocuments]
  simp only [h.text.tenantDocuments]

end Indexes.Agrees

/-- Engines that are the same but for their indexes, which agree. -/
inductive Engine.Agrees (e : Engine) : Engine → Prop
  | intro {ixs : Indexes} (h : e.indexes.Agrees ixs) : Agrees e { e with indexes := ixs }

namespace Engine.Agrees

variable {e e' : Engine}

theorem indexes (h : e.Agrees e') : e.indexes.Agrees e'.indexes := by
  cases h with
  | intro h => exact h

theorem eq (h : e.Agrees e') : e' = { e with indexes := e'.indexes } := by
  cases h with
  | intro _ => rfl

theorem resume (h : e.Agrees e') (number depth : Nat) {part part' : Indexes × Progress}
    (hpart : Indexes.AnswersAlike part part') :
    (e.resume number depth part).Agrees (e'.resume number depth part') := by
  obtain ⟨ixs, progress⟩ := part
  obtain ⟨ixs', progress'⟩ := part'
  obtain ⟨hixs, hprogress⟩ := hpart
  obtain rfl : progress' = progress := hprogress
  cases h with
  | intro _ =>
    cases progress' with
    | reached stage => exact .intro hixs
    | finished result => exact .intro hixs

theorem takeTask (h : e.Agrees e') : e.takeTask.Agrees e'.takeTask := by
  cases h with
  | @intro ixs h =>
    rw [Engine.takeTask, Engine.takeTask]
    dsimp only
    split
    · split
      · exact .intro h
      · next job queue _ =>
        have hrest : ({ e with queue } : Engine).Agrees { e with queue, indexes := ixs } := .intro h
        exact hrest.resume _ _ (h.start job.task)
    · exact .intro h

theorem prepareWrite (h : e.Agrees e') (a : Assignment) (before after : List Assignment) :
    (e.prepareWrite a before after).Agrees (e'.prepareWrite a before after) := by
  cases h with
  | @intro ixs h =>
    obtain ⟨text, vector, store⟩ := ixs
    obtain rfl : store = e.indexes.store := h.store
    have hothers : ({ e with begun := before ++ after } : Engine).Agrees
        { e with begun := before ++ after, indexes := ⟨text, vector, e.indexes.store⟩ } := .intro h
    obtain ⟨hvector, hprepared⟩ := h.vector.prepare a.stage.change e.indexes.store
    rw [Engine.prepareWrite, Engine.prepareWrite]
    dsimp only at hvector hprepared ⊢
    generalize a.stage.change.prepare e.indexes.vector e.indexes.store = planned at hvector hprepared ⊢
    generalize a.stage.change.prepare vector e.indexes.store = planned' at hvector hprepared ⊢
    obtain ⟨moved, prepared⟩ := planned
    obtain ⟨moved', prepared'⟩ := planned'
    obtain rfl : prepared' = prepared := hprepared
    have hixs : (⟨e.indexes.text, moved, e.indexes.store⟩ : Indexes).Agrees ⟨text, moved', e.indexes.store⟩ :=
      ⟨h.text, hvector, rfl⟩
    rcases prepared' with cause | _ | commit
    · exact hothers.resume _ _ (hixs.proceed _ _)
    · exact hothers.resume _ _ (hixs.proceed _ _)
    · exact .intro hixs

theorem performWrite (h : e.Agrees e') (a : Assignment) (commit : Commit) (others : List Assignment) :
    (e.performWrite a commit others).Agrees (e'.performWrite a commit others) := by
  cases h with
  | @intro ixs h =>
    obtain ⟨text, vector, store⟩ := ixs
    obtain rfl : store = e.indexes.store := h.store
    have hothers : ({ e with begun := others } : Engine).Agrees
        { e with begun := others, indexes := ⟨text, vector, e.indexes.store⟩ } := .intro h
    obtain ⟨hvector, hresult, hstore⟩ := h.vector.write a.stage.change e.indexes.store commit
    rw [Engine.performWrite, Engine.performWrite]
    dsimp only at hvector hresult hstore ⊢
    rw [hresult]
    refine hothers.resume _ _ (Indexes.Agrees.proceed ?_ _ _)
    exact ⟨h.text, hvector, hstore⟩

theorem moveWorker (h : e.Agrees e') (position : Nat) : (e.moveWorker position).Agrees (e'.moveWorker position) := by
  have hbegun : e'.begun = e.begun := by rw [h.eq]
  have hmove : e'.canMove = e.canMove := by
    rw [h.eq]
    rfl
  rw [Engine.moveWorker, Engine.moveWorker, hbegun, hmove]
  split
  · exact h
  · split
    · split
      · exact h.performWrite _ _ _
      · exact h.prepareWrite _ _ _
    · exact h

theorem work (h : e.Agrees e') : e.work.Agrees e'.work := by
  have hbegun : e'.begun = e.begun := by rw [h.eq]
  have hmove : e'.canMove = e.canMove := by
    rw [h.eq]
    rfl
  rw [Engine.work, Engine.work, hbegun, hmove]
  split
  · exact h.moveWorker _
  · exact h.takeTask

theorem workFor (h : e.Agrees e') (steps : Nat) : (workFor steps e).Agrees (workFor steps e') := by
  induction steps generalizing e e' with
  | zero => exact h
  | succ steps ih => exact ih h.work

theorem settle (h : e.Agrees e') : e.settle.Agrees e'.settle := by
  have hsteps : e'.queue.length + e'.begun.length = e.queue.length + e.begun.length := by rw [h.eq]
  rw [Engine.settle, Engine.settle, hsteps]
  exact h.workFor _

theorem withWriteFault (h : e.Agrees e') (fault : Option StoreFault) :
    (e.withWriteFault fault).Agrees (e'.withWriteFault fault) := by
  cases h with
  | @intro ixs h =>
    obtain ⟨text, vector, store⟩ := ixs
    obtain rfl : store = e.indexes.store := h.store
    exact .intro ⟨h.text, h.vector, rfl⟩

theorem workUnder (h : e.Agrees e') (faults : List (Option StoreFault)) :
    (workUnder faults e).Agrees (workUnder faults e') := by
  induction faults generalizing e e' with
  | nil => exact h
  | cons fault faults ih => exact ih (h.withWriteFault fault).work

theorem submit_withIndexes (e : Engine) (ixs : Indexes) (task : Task) :
    ({ e with indexes := ixs } : Engine).submit task =
      (e.submit task).map fun a => ({ a.1 with indexes := ixs }, a.2) := by
  rw [Engine.submit, Engine.submit, Engine.send, Engine.send, apply_ite (Except.map _),
    apply_ite (Except.map _), apply_ite (Except.map _)]
  rfl

theorem submit (h : e.Agrees e') (task : Task) :
    Paired (fun a b => a.1.Agrees b.1 ∧ b.2 = a.2) (e.submit task) (e'.submit task) := by
  cases h with
  | @intro ixs h =>
    rw [submit_withIndexes e ixs]
    cases hsubmit : e.submit task with
    | error cause => exact .error cause
    | ok queued =>
      have hkept : queued.1.indexes = e.indexes := indexes_submit hsubmit
      exact .ok ⟨.intro (hkept ▸ h), rfl⟩

theorem performUnder (h : e.Agrees e') (task : Task) (faults : List (Option StoreFault)) :
    (e.performUnder task faults).1.Agrees (e'.performUnder task faults).1 ∧
      (e'.performUnder task faults).2 = (e.performUnder task faults).2 := by
  have hsubmit := h.submit task
  rw [Engine.performUnder, Engine.performUnder]
  generalize e.submit task = submitted at hsubmit
  generalize e'.submit task = submitted' at hsubmit
  cases hsubmit with
  | error cause => exact ⟨h, rfl⟩
  | @ok queued queued' hqueued =>
    obtain ⟨queued, number⟩ := queued
    obtain ⟨queued', number'⟩ := queued'
    obtain ⟨hqueued, hnumber⟩ := hqueued
    obtain rfl : number' = number := hnumber
    have hsettled := (hqueued.workUnder faults).settle
    refine ⟨hsettled, ?_⟩
    dsimp only
    rw [hsettled.eq]
    rfl

theorem search (h : e.Agrees e') (cancelled : Bool) (r : SearchRequest) (nanos : Nat) :
    (e.search cancelled r nanos).2.Agrees (e'.search cancelled r nanos).2 ∧
      (e'.search cancelled r nanos).1 = (e.search cancelled r nanos).1 := by
  cases h with
  | @intro ixs h =>
    rw [Engine.search, Engine.search]
    dsimp only
    split
    · exact ⟨.intro h, rfl⟩
    · obtain ⟨hixs, hanswer⟩ := h.search e.config cancelled r
      generalize e.indexes.search e.config cancelled r = found at hixs hanswer ⊢
      generalize ixs.search e.config cancelled r = found' at hixs hanswer ⊢
      obtain ⟨answer, searched⟩ := found
      obtain ⟨answer', searched'⟩ := found'
      obtain rfl : answer' = answer := hanswer
      cases answer' with
      | error cause => exact ⟨.intro hixs, rfl⟩
      | ok page => exact ⟨.intro hixs, rfl⟩

theorem withText (h : e.Agrees e') {next next' : Except TextError TextIndex}
    (hnext : Paired TextIndex.Agrees next next') : Paired Agrees (e.withText next) (e'.withText next') := by
  cases h with
  | intro h =>
    cases hnext with
    | ok htext => exact .ok (.intro ⟨htext, h.vector, h.store⟩)
    | error cause => exact .error _

end Engine.Agrees

theorem Paired.toOption_getD {α ε : Type} {r : α → α → Prop} {x y : Except ε α} (h : Paired r x y) {a b : α}
    (hab : r a b) : r (x.toOption.getD a) (y.toOption.getD b) := by
  cases h with
  | ok hxy => exact hxy
  | error _ => exact hab

namespace Run

/-- Runs of engines that agree, in which every task was answered alike. -/
structure Agrees (r r' : Run) : Prop where
  engine : r.engine.Agrees r'.engine
  history : r'.history = r.history

variable {r r' : Run}

theorem Agrees.call (h : r.Agrees r') (c : Call) : (r.call c).Agrees (r'.call c) := by
  cases c with
  | write task faults =>
    obtain ⟨hengine, hresult⟩ := h.engine.performUnder task faults
    refine ⟨hengine, ?_⟩
    show (⟨task, (r'.engine.performUnder task faults).2⟩ : Written) :: r'.history = _
    rw [hresult, h.history]
    rfl
  | rebuildText =>
    exact ⟨(h.engine.withText h.engine.indexes.text.rebuild).toOption_getD h.engine, h.history⟩
  | optimize =>
    exact ⟨(h.engine.withText h.engine.indexes.text.optimize).toOption_getD h.engine, h.history⟩
  | search cancelled request nanos => exact ⟨(h.engine.search cancelled request nanos).1, h.history⟩

/-- Two runs have answered every task alike, and answer alike whatever is searched, looked up or listed. -/
structure AnswersAlike (r r' : Run) : Prop where
  history : r'.history = r.history
  search : ∀ cancelled request nanos,
    (r'.engine.search cancelled request nanos).1 = (r.engine.search cancelled request nanos).1
  document : ∀ id tenant, r'.engine.document id tenant = r.engine.document id tenant
  tenantDocuments : ∀ tenant limit offset,
    r'.engine.tenantDocuments tenant limit offset = r.engine.tenantDocuments tenant limit offset

theorem Agrees.answersAlike (h : r.Agrees r') : r.AnswersAlike r' where
  history := h.history
  search cancelled request nanos := (h.engine.search cancelled request nanos).2
  document := h.engine.indexes.document
  tenantDocuments tenant limit offset := by
    have hconfig : r'.engine.config = r.engine.config := by rw [h.engine.eq]
    rw [Engine.tenantDocuments, Engine.tenantDocuments, hconfig]
    exact h.engine.indexes.tenantDocuments _ _ _ _

end Run

theorem Engine.Agrees.run {e e' : Engine} (h : e.Agrees e') (calls : List Call) :
    (e.run calls).AnswersAlike (e'.run calls) := by
  have hcalls : ∀ r r' : Run, r.Agrees r' → (calls.foldl Run.call r).Agrees (calls.foldl Run.call r') := by
    induction calls with
    | nil => exact fun r r' hr => hr
    | cons c calls ih => exact fun r r' hr => ih (r.call c) (r'.call c) (hr.call c)
  exact (hcalls ⟨e, []⟩ ⟨e', []⟩ ⟨h, rfl⟩).answersAlike

end HybridSearch

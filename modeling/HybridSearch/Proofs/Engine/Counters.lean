import HybridSearch.Proofs.Engine.Protocol
import Mathlib.Algebra.Ring.Int.Defs

/-!
# Counters

Each counter of an engine is the number of executed tasks that came to what it counts, or of answered searches;
what is turned away is not counted anywhere. The vector index counts its own inserts: apart from those that are
made elsewhere, one for each document with an embedding that was indexed.
-/
namespace HybridSearch

/-- What the execution of a task for a document, or of one that only deletes, comes to when it succeeds. -/
def outcomeOf : Option Document → WriteOutcome
  | some d => .indexed d.embedding.isSome
  | none => .deleted

/-- Where the execution of a task for a document, or of one that only deletes, can stand. -/
def Progress.IsFor (document : Option Document) : Progress → Prop
  | .reached (.entryWritten d) => document = some d
  | .reached (.entryRemoved _ replacement) => document = replacement
  | .finished result => ∀ outcome, result = .ok outcome → outcome = outcomeOf document

/-- The inserts that the vector index counts for a change of it. -/
def VectorChange.inserts : VectorChange → Except VectorError Unit → ℕ
  | insert _ _, .ok () => 1
  | _, _ => 0

/-- The inserts that the engine counts when a task has come so far. -/
def Progress.inserts : Progress → ℕ
  | .finished (.ok (.indexed true)) => 1
  | _ => 0

variable {document : Option Document} {t : Task}

namespace Indexes

theorem reach_isFor (ixs : Indexes) (next : Except EngineError Indexes) {stage : Stage}
    (h : (Progress.reached stage).IsFor document) : (ixs.reach next stage).2.IsFor document := by
  cases next with
  | ok _ => exact h
  | error e => exact fun outcome houtcome => by cases houtcome

theorem start_isFor (ixs : Indexes) (t : Task) : (ixs.start t).2.IsFor t.document? := by
  cases t with
  | index d => exact ixs.reach_isFor _ rfl
  | update d => exact ixs.reach_isFor _ rfl
  | delete id => exact ixs.reach_isFor _ rfl

theorem proceed_isFor (ixs : Indexes) {stage : Stage} (h : (Progress.reached stage).IsFor document)
    (changed : Except VectorError Unit) : (ixs.proceed stage changed).2.IsFor document := by
  cases stage with
  | entryWritten d =>
    obtain rfl : document = some d := h
    intro outcome houtcome
    cases changed with
    | ok u => exact (Except.ok.inj houtcome).symm
    | error source => cases houtcome
  | entryRemoved id replacement =>
    obtain rfl : document = replacement := h
    cases changed with
    | error source => exact fun outcome houtcome => by cases houtcome
    | ok u =>
      cases document with
      | none => exact fun outcome houtcome => (Except.ok.inj houtcome).symm
      | some d => exact ixs.start_isFor (.index d)

theorem reach_inserts (ixs : Indexes) {next : Except EngineError Indexes} (stage : Stage)
    (h : ∀ ixs', next = .ok ixs' → ixs'.vector = ixs.vector) :
    (ixs.reach next stage).1.vector = ixs.vector ∧ (ixs.reach next stage).2.inserts = 0 := by
  cases next with
  | ok ixs' => exact ⟨h ixs' rfl, rfl⟩
  | error e => exact ⟨rfl, rfl⟩

theorem vector_writeEntry {ixs ixs' : Indexes} {d : Document} (h : ixs.writeEntry d = .ok ixs') :
    ixs'.vector = ixs.vector := by
  obtain ⟨u, -, h⟩ := exists_of_bind_ok h
  obtain ⟨text, -, h⟩ := exists_of_bind_ok h
  rw [← Except.ok.inj h]

theorem vector_removeEntry {ixs ixs' : Indexes} {id : String} (h : ixs.removeEntry id = .ok ixs') :
    ixs'.vector = ixs.vector := by
  rw [removeEntry] at h
  split at h
  · cases h
  · obtain ⟨removed, -, h⟩ := exists_of_bind_ok h
    rw [← Except.ok.inj h]

theorem start_inserts (ixs : Indexes) (t : Task) :
    (ixs.start t).1.vector = ixs.vector ∧ (ixs.start t).2.inserts = 0 := by
  cases t with
  | index d => exact ixs.reach_inserts _ fun _ => vector_writeEntry
  | update d =>
    refine ixs.reach_inserts _ fun ixs' h => ?_
    obtain ⟨u, -, h⟩ := exists_of_bind_ok h
    exact vector_removeEntry h
  | delete id => exact ixs.reach_inserts _ fun _ => vector_removeEntry

theorem proceed_inserts (ixs : Indexes) (stage : Stage) (changed : Except VectorError Unit) :
    (ixs.proceed stage changed).1.vector = ixs.vector ∧
      (ixs.proceed stage changed).2.inserts = stage.change.inserts changed := by
  cases stage with
  | entryWritten d =>
    rw [Stage.change, Document.vectorChange]
    cases changed with
    | ok u =>
      cases hembedding : d.embedding with
      | none => exact ⟨rfl, by rw [proceed, finishEntry, hembedding]; rfl⟩
      | some v => exact ⟨rfl, by rw [proceed, finishEntry, hembedding]; rfl⟩
    | error source =>
      rw [proceed, finishEntry, compensate]
      refine ⟨?_, ?_⟩
      · cases ixs.text.delete d.id <;> rfl
      · cases d.embedding <;> rfl
  | entryRemoved id replacement =>
    cases changed with
    | error source => exact ⟨rfl, rfl⟩
    | ok u =>
      cases replacement with
      | none => exact ⟨rfl, rfl⟩
      | some d => exact ixs.start_inserts (.index d)

end Indexes

namespace VectorChange

theorem prepare_inserts (c : VectorChange) (ix : VectorIndex) (store : StoreHandle) :
    (c.prepare ix store).1.inserts = ix.inserts := by
  cases c with
  | insert id v =>
    rw [prepare]
    split <;> rfl
  | delete id =>
    rw [prepare]
    split <;> rfl

theorem inserts_of_prepare {c : VectorChange} {ix : VectorIndex} {store : StoreHandle}
    (h : (c.prepare ix store).2 = .ok none) : c.inserts (.ok ()) = 0 := by
  cases c with
  | delete id => rfl
  | insert id v =>
    rw [prepare] at h
    split at h
    · cases h
    · obtain ⟨commit, -, hsome⟩ := exists_of_map_ok h
      cases hsome

theorem inserts_error (c : VectorChange) (cause : VectorError) : c.inserts (.error cause) = 0 := by
  cases c <;> rfl

theorem write_inserts (c : VectorChange) (ix : VectorIndex) (store : StoreHandle) (commit : Commit) :
    (c.write ix store commit).index.inserts =
      ix.inserts + c.inserts (c.write ix store commit).result := by
  cases c with
  | insert id v =>
    rw [write, VectorIndex.commitInsert, VectorIndex.commit]
    cases store.write commit.batch ix.config.syncWrites <;> rfl
  | delete id =>
    rw [write, VectorIndex.commitDelete, VectorIndex.commit]
    cases store.write commit.batch ix.config.syncWrites <;> rfl

end VectorChange

theorem Indexes.vectorRanked_inserts (ixs : Indexes) (request : SearchRequest) (limit : ℕ) :
    (ixs.vectorRanked request limit).2.vector.inserts = ixs.vector.inserts := by
  rw [vectorRanked]
  split
  · rfl
  · next v hv =>
    rw [VectorIndex.search]
    cases VectorIndex.lookUp ixs.vector.config ixs.store .never v (min limit VectorIndex.maxCount) <;> rfl

theorem Indexes.search_inserts (ixs : Indexes) (config : EngineConfig) (cancelled : Bool)
    (request : SearchRequest) :
    (ixs.search config cancelled request).2.vector.inserts = ixs.vector.inserts := by
  rw [Indexes.search]
  split
  · rfl
  · split
    · rfl
    · rw [Indexes.ranked]
      cases request.mode with
      | fullText => rfl
      | vector => exact ixs.vectorRanked_inserts request _
      | hybrid => exact ixs.vectorRanked_inserts request _
      | structured => rfl

theorem Engine.search_counters (e : Engine) (cancelled : Bool) (request : SearchRequest) (nanos : ℕ) :
    ((e.search cancelled request nanos).2.answers = e.answers ∧
      (e.search cancelled request nanos).2.indexes.vector.inserts = e.indexes.vector.inserts) ∧
    ((e.search cancelled request nanos).1.isOk = false ∧
        (e.search cancelled request nanos).2.statistics = e.statistics ∨
      (e.search cancelled request nanos).1.isOk = true ∧
        (e.search cancelled request nanos).2.statistics = e.statistics.recordSearch nanos) := by
  have hinserts := e.indexes.search_inserts e.config cancelled request
  rw [Engine.search]
  split
  · exact ⟨⟨rfl, rfl⟩, .inl ⟨rfl, rfl⟩⟩
  · dsimp only
    split
    · exact ⟨⟨rfl, hinserts⟩, .inl ⟨rfl, rfl⟩⟩
    · exact ⟨⟨rfl, hinserts⟩, .inr ⟨rfl, rfl⟩⟩

theorem Task.Comes.isFor {config : VectorConfig} {progress : Progress} (h : t.Comes config progress) :
    progress.IsFor t.document? := by
  induction h with
  | @starts ixs _ => exact ixs.start_isFor t
  | @proceeds ixs stage changed _ _ _ ih => exact ixs.proceed_isFor ih changed

theorem Statistics.vectorInserts_recordWrite (s : Statistics) (document : Option Document) (depth : ℕ) :
    (s.recordWrite (outcomeOf document) depth).vectorInserts =
      s.vectorInserts + (Progress.finished (.ok (outcomeOf document))).inserts := by
  cases document with
  | none => rfl
  | some d =>
    rw [outcomeOf]
    cases d.embedding.isSome <;> rfl

namespace Written

def hasIndexed (w : Written) : Bool := w.document?.isSome

def hasInserted (w : Written) : Bool := (w.document?.bind Document.embedding).isSome

def hasDeleted (w : Written) : Bool := w.result.isOk && w.task.document?.isNone

def hasFailed (w : Written) : Bool := !w.result.isOk

end Written

/-- The counters stand for what was executed and for a number of searches. -/
structure Statistics.Count (s : Statistics) (executed : List Written) (searches : ℕ) : Prop where
  documentsIndexed : s.documentsIndexed = executed.countP Written.hasIndexed
  vectorInserts : s.vectorInserts = executed.countP Written.hasInserted
  documentsDeleted : s.documentsDeleted = executed.countP Written.hasDeleted
  tasksFailed : s.tasksFailed = executed.countP Written.hasFailed
  searchesPerformed : s.searchesPerformed = searches

namespace Statistics.Count

variable {s s' : Statistics} {executed : List Written} {searches : ℕ}

theorem congr (h : s.Count executed searches) (hsame : s'.counters = s.counters) :
    s'.Count executed searches where
  documentsIndexed := (congrArg Statistics.documentsIndexed hsame).trans h.documentsIndexed
  vectorInserts := (congrArg Statistics.vectorInserts hsame).trans h.vectorInserts
  documentsDeleted := (congrArg Statistics.documentsDeleted hsame).trans h.documentsDeleted
  tasksFailed := (congrArg Statistics.tasksFailed hsame).trans h.tasksFailed
  searchesPerformed := (congrArg Statistics.searchesPerformed hsame).trans h.searchesPerformed

theorem recordSearch (h : s.Count executed searches) (nanos : ℕ) :
    (s.recordSearch nanos).Count executed (searches + 1) :=
  { h with searchesPerformed := congrArg (· + 1) h.searchesPerformed }

theorem recordFailure (h : s.Count executed searches) (t : Task) (e : EngineError) (depth : ℕ) :
    (s.recordFailure depth).Count (⟨t, .error e⟩ :: executed) searches := by
  have hfailed : (⟨t, .error e⟩ : Written).hasFailed = true := rfl
  refine { h with tasksFailed := ?_ }
  rw [List.countP_cons_of_pos hfailed, ← h.tasksFailed]
  rfl

theorem recordWrite (h : s.Count executed searches) (t : Task) (depth : ℕ) :
    (s.recordWrite (outcomeOf t.document?) depth).Count (⟨t, .ok ()⟩ :: executed) searches := by
  have hok : (Except.ok () : Except EngineError Unit).isOk = true := rfl
  cases hdocument : t.document? with
  | none =>
    constructor <;>
      simp [Statistics.recordWrite, outcomeOf, Written.hasIndexed, Written.hasInserted,
        Written.hasDeleted, Written.hasFailed, Written.document?, hok, hdocument, h.documentsIndexed,
        h.vectorInserts, h.documentsDeleted, h.tasksFailed, h.searchesPerformed]
  | some d =>
    constructor <;>
      simp [Statistics.recordWrite, outcomeOf, List.countP_cons, Written.hasIndexed, Written.hasInserted,
        Written.hasDeleted, Written.hasFailed, Written.document?, hok, hdocument, h.documentsIndexed,
        h.vectorInserts, h.documentsDeleted, h.tasksFailed, h.searchesPerformed]
    split <;> rfl

end Statistics.Count

namespace Service

variable {s s' : Service} {searches : ℕ} {others : ℤ}

/-- The tasks that were executed, with their answers. -/
def executed (s : Service) : List Written :=
  s.engine.answers.filterMap fun answer => s.tasks[answer.1]?.map fun t => ⟨t, answer.2⟩

/-- The counters stand for what was executed and searched. `others` are the inserts of the vector index that
are not this engine's. -/
structure Counted (s : Service) (searches : ℕ) (others : ℤ) : Prop where
  counters : s.engine.statistics.Count s.executed searches
  inserts : s.engine.indexes.vector.inserts = others + s.engine.statistics.vectorInserts

theorem executed_cons {number : ℕ} (ht : s.tasks[number]? = some t) {e : Engine}
    {result : Except EngineError Unit} (hanswers : e.answers = (number, result) :: s.engine.answers) :
    executed { s with engine := e } = ⟨t, result⟩ :: s.executed := by
  rw [executed, hanswers, List.filterMap_cons, ht]
  rfl

theorem Counted.resume (h : s.Counted searches others) {number : ℕ} (ht : s.tasks[number]? = some t)
    {part : Indexes × Progress} (hfor : part.2.IsFor t.document?)
    (hinserts : part.1.vector.inserts = s.engine.indexes.vector.inserts + part.2.inserts)
    (depth : ℕ) (queue : List Job) (begun : List Assignment) :
    Counted { s with engine := ({ s.engine with queue, begun } : Engine).resume number depth part }
      searches others := by
  obtain ⟨ixs, progress⟩ := part
  have hbefore := h.inserts
  dsimp only at hinserts
  cases progress with
  | reached stage =>
    refine ⟨h.counters, ?_⟩
    show (ixs.vector.inserts : ℤ) = _
    rw [hinserts]
    exact hbefore
  | finished result =>
    have hexecuted := executed_cons ht
      (e := ({ s.engine with queue, begun } : Engine).resume number depth (ixs, .finished result)) rfl
    cases result with
    | error e =>
      refine ⟨hexecuted ▸ h.counters.recordFailure t e depth, ?_⟩
      show (ixs.vector.inserts : ℤ) = _
      rw [hinserts]
      exact hbefore
    | ok outcome =>
      obtain rfl := hfor outcome rfl
      refine ⟨hexecuted ▸ h.counters.recordWrite t depth, ?_⟩
      show (ixs.vector.inserts : ℤ) =
        others + (s.engine.statistics.recordWrite (outcomeOf t.document?) depth).vectorInserts
      rw [hinserts, Statistics.vectorInserts_recordWrite, Int.natCast_add, Int.natCast_add, hbefore, Int.add_assoc]

theorem Counted.congr (h : s.Counted searches others) (htasks : s'.tasks = s.tasks)
    (hanswers : s'.engine.answers = s.engine.answers)
    (hcounters : s'.engine.statistics.counters = s.engine.statistics.counters)
    (hinserts : s'.engine.indexes.vector.inserts = s.engine.indexes.vector.inserts) :
    s'.Counted searches others := by
  have hexecuted : s'.executed = s.executed := by rw [executed, executed, htasks, hanswers]
  have hvector : s'.engine.statistics.vectorInserts = s.engine.statistics.vectorInserts :=
    (congrArg Statistics.vectorInserts hcounters).trans rfl
  refine ⟨hexecuted ▸ h.counters.congr hcounters, ?_⟩
  rw [hinserts, hvector]
  exact h.inserts

theorem Counted.take (h : s.Counted searches others) (ho : s.Orderly) (hafter : s.after .take = some s') :
    s'.Counted searches others := by
  obtain ⟨job, rest, hqueue, hidle, rfl⟩ := of_after_take hafter
  have hfree : s.engine.begun.length + s.left < s.engine.config.workers := of_decide_eq_true hidle
  obtain ⟨hvector, hnone⟩ := s.engine.indexes.start_inserts job.task
  have htask : s.tasks[job.number]? = some job.task := ho.queued (hqueue ▸ List.mem_cons_self)
  have hresume := h.resume htask (s.engine.indexes.start_isFor job.task)
    (by rw [hvector, hnone, Nat.add_zero]) rest.length rest s.engine.begun
  rw [Engine.takeTask_eq (Nat.lt_of_le_of_lt (Nat.le_add_right _ _) hfree) hqueue]
  exact ⟨hresume.counters, hresume.inserts⟩

theorem Counted.proceed (h : s.Counted searches others) {a : Assignment} (ht : s.tasks[a.number]? = some t)
    (hfor : (Progress.reached a.stage).IsFor t.document?) (ixs : Indexes) (changed : Except VectorError Unit)
    (hinserts : ixs.vector.inserts = s.engine.indexes.vector.inserts + a.stage.change.inserts changed)
    (begun : List Assignment) :
    Counted
      { s with
        engine := ({ s.engine with begun } : Engine).resume a.number a.depth (ixs.proceed a.stage changed) }
      searches others := by
  obtain ⟨hvector, hcounted⟩ := ixs.proceed_inserts a.stage changed
  refine h.resume ht (ixs.proceed_isFor hfor changed) ?_ a.depth s.engine.queue begun
  rw [hvector, hcounted, hinserts]

theorem Counted.move (h : s.Counted searches others) (ho : s.Orderly) {position : ℕ}
    (hafter : s.after (.move position) = some s') : s'.Counted searches others := by
  obtain ⟨a, hposition, hmove, rfl⟩ := of_after_move hafter
  obtain ⟨t, ht, hcarries⟩ := ho.begun a (List.mem_of_getElem? hposition)
  have hfor : (Progress.reached a.stage).IsFor t.document? := hcarries.stage.isFor
  rw [Engine.moveWorker, hposition]
  simp only [hmove, ↓reduceIte]
  cases hcommit : a.commit with
  | some commit =>
    have hwrite := a.stage.change.write_inserts s.engine.indexes.vector s.engine.indexes.store commit
    exact h.proceed ht hfor _ _ hwrite _
  | none =>
    have hprepared := a.stage.change.prepare_inserts s.engine.indexes.vector s.engine.indexes.store
    simp only [Engine.prepareWrite]
    split
    · next vector commit hprepare =>
      rw [hprepare] at hprepared
      exact h.congr rfl rfl rfl hprepared
    · next vector hprepare =>
      rw [hprepare] at hprepared
      refine h.proceed ht hfor { s.engine.indexes with vector } _ ?_ _
      rw [VectorChange.inserts_of_prepare (congrArg Prod.snd hprepare)]
      exact hprepared
    · next vector cause hprepare =>
      rw [hprepare] at hprepared
      refine h.proceed ht hfor { s.engine.indexes with vector } _ ?_ _
      rw [VectorChange.inserts_error]
      exact hprepared

def searchesAnswered (s : Service) : Event → ℕ
  | .search cancelled request nanos => if (s.engine.search cancelled request nanos).1.isOk then 1 else 0
  | _ => 0

/-- The inserts of the vector index between two events of the service. -/
def insertsElsewhere (s : Service) : Event → ℤ
  | .elsewhere _ vector _ => vector.inserts - s.engine.indexes.vector.inserts
  | _ => 0

theorem executed_accept (h : s.Accounted) (task : Task) : (s.accept task).executed = s.executed := by
  refine List.filterMap_congr fun answer hanswer => ?_
  obtain ⟨t, -, ht, -⟩ := h.answers answer hanswer
  rw [getElem?_accept ht, ht]

theorem Counted.call (h : s.Counted searches others) (ho : s.Orderly) (late : Bool) (task : Task) :
    Counted ((s.offer late task).toOption.getD s) searches others := by
  rcases s.offer_cases late task with ⟨e, hoffer⟩ | ⟨-, -, hoffer⟩
  · rw [hoffer]
    exact h
  · rw [hoffer]
    exact ⟨(executed_accept ho.toAccounted task).symm ▸ h.counters.congr rfl, h.inserts⟩

theorem Counted.search (h : s.Counted searches others) (cancelled : Bool) (request : SearchRequest)
    (nanos : ℕ) : Counted { s with engine := (s.engine.search cancelled request nanos).2 }
      (searches + s.searchesAnswered (.search cancelled request nanos)) others := by
  obtain ⟨hsame, ⟨hanswer, hcounters⟩ | ⟨hanswer, hcounters⟩⟩ :=
    s.engine.search_counters cancelled request nanos
  · have hsearched : Counted { s with engine := (s.engine.search cancelled request nanos).2 } searches others :=
      h.congr rfl hsame.1 (congrArg Statistics.counters hcounters) hsame.2
    rw [searchesAnswered, hanswer]
    exact hsearched
  · have hexecuted : executed { s with engine := (s.engine.search cancelled request nanos).2 } = s.executed := by
      rw [executed, executed, hsame.1]
    rw [searchesAnswered, hanswer]
    refine ⟨?_, ?_⟩
    · rw [hexecuted, hcounters]
      exact h.counters.recordSearch nanos
    · rw [hsame.2, hcounters]
      exact h.inserts

theorem Counted.after (h : s.Counted searches others) (ho : s.Orderly) {event : Event}
    (hafter : s.after event = some s') :
    s'.Counted (searches + s.searchesAnswered event) (others + s.insertsElsewhere event) := by
  have hsilent (hsame : s'.Counted searches others) (hsearches : s.searchesAnswered event = 0)
      (hinserts : s.insertsElsewhere event = 0) :
      s'.Counted (searches + s.searchesAnswered event) (others + s.insertsElsewhere event) := by
    rw [hsearches, hinserts, Nat.add_zero, Int.add_zero]
    exact hsame
  cases event with
  | call late task =>
    obtain rfl := Option.some_inj.mp hafter
    exact hsilent (h.call ho late task) rfl rfl
  | take => exact hsilent (h.take ho hafter) rfl rfl
  | move position => exact hsilent (h.move ho hafter) rfl rfl
  | search cancelled request nanos =>
    obtain rfl := Option.some_inj.mp hafter
    have hsearched := h.search cancelled request nanos
    exact (Int.add_zero others).symm ▸ hsearched
  | elsewhere text vector store =>
    obtain ⟨-, rfl⟩ := of_after_elsewhere hafter
    refine ⟨h.counters, ?_⟩
    have hbefore := h.inserts
    show (vector.inserts : ℤ) =
      others + (vector.inserts - s.engine.indexes.vector.inserts) + s.engine.statistics.vectorInserts
    omega
  | leave =>
    obtain ⟨-, -, -, rfl⟩ := of_after_leave hafter
    exact hsilent (h.congr rfl rfl rfl rfl) rfl rfl
  | letGo =>
    obtain ⟨-, rfl⟩ := of_after_letGo hafter
    refine hsilent ?_ rfl rfl
    rw [letGo]
    dsimp only
    split
    · exact h.congr rfl rfl rfl rfl
    · exact h.congr rfl rfl rfl rfl
  | hold =>
    obtain rfl := Option.some_inj.mp hafter
    exact hsilent (h.congr rfl rfl rfl rfl) rfl rfl
  | release =>
    obtain rfl := Option.some_inj.mp hafter
    exact hsilent (h.congr rfl rfl rfl rfl) rfl rfl
  | close =>
    obtain ⟨-, rfl⟩ | ⟨-, rfl⟩ := of_after_close hafter
    · exact hsilent (h.congr rfl rfl rfl rfl) rfl rfl
    · exact hsilent (h.congr rfl rfl rfl rfl) rfl rfl
  | closed =>
    obtain ⟨-, -, rfl⟩ := of_after_closed hafter
    exact hsilent (h.congr rfl rfl rfl rfl) rfl rfl
  | tell number =>
    obtain ⟨-, -, reply, -, rfl⟩ := of_after_tell hafter
    exact hsilent (h.congr rfl rfl rfl rfl) rfl rfl

/-- The sum of a count over some events, each taken where it happens. -/
def sumAlong {α : Type} [Zero α] [Add α] (count : Service → Event → α) (s : Service) : List Event → α
  | [] => 0
  | event :: events => count s event + (s.after event).elim 0 fun s' => sumAlong count s' events

theorem Counted.afterAll (h : s.Counted searches others) (ho : s.Orderly) {events : List Event}
    (hafter : s.afterAll events = some s') :
    s'.Counted (searches + sumAlong searchesAnswered s events)
      (others + sumAlong insertsElsewhere s events) := by
  induction events generalizing s searches others with
  | nil =>
    obtain rfl := Option.some_inj.mp hafter
    exact (Int.add_zero others).symm ▸ h
  | cons event events ih =>
    obtain ⟨s₁, hfirst, hrest⟩ := Option.bind_eq_some_iff.mp hafter
    have hlast := ih (h.after ho hfirst) (ho.after hfirst) hrest
    rw [sumAlong, sumAlong, hfirst, ← Nat.add_assoc, ← Int.add_assoc]
    exact hlast

/-- What can be read off the counters of an engine that was opened over some indexes. -/
structure Exact (s : Service) (ixs : Indexes) (events : List Event) (start : Service) : Prop where
  counters : s.engine.currentStatistics.Count s.executed (sumAlong searchesAnswered start events)
  inserts : s.engine.indexes.vector.inserts =
    ixs.vector.inserts + s.engine.currentStatistics.vectorInserts + sumAlong insertsElsewhere start events
  /-- What was executed are accepted tasks, each with what it came to, and none of them twice. -/
  executed : s.executed.length = s.engine.answers.length ∧ (s.engine.answers.map Prod.fst).Nodup ∧
    ∀ answer ∈ s.engine.answers, s.HasAnswered s.engine.indexes.vector.config answer
  /-- A call that is turned away changes nothing at all. -/
  refused : ∀ late task e, s.offer late task = .error e → e.IsRefusal ∧ s.after (.call late task) = some s
  shutDown : s.engine.isOpen = false → ∀ cancelled request nanos,
    s.after (.search cancelled request nanos) = some s ∧
      s.searchesAnswered (.search cancelled request nanos) = 0
  /-- A task that is answered like a call that was turned away was not executed. -/
  lost : ∀ number e, (number, .error e) ∈ s.told → e.IsRefusal → number ∉ s.engine.answers.map Prod.fst

theorem length_executed (h : s.Accounted) : s.executed.length = s.engine.answers.length := by
  refine List.filterMap_length_eq_length.mpr fun answer hanswer => ?_
  obtain ⟨t, -, ht, -⟩ := h.answers answer hanswer
  rw [ht]
  rfl

/-- Whatever has happened, the counters are those of what was executed and searched. -/
theorem exact_afterAll {config : EngineConfig} {ixs : Indexes} {e : Engine}
    (hopen : Engine.open config ixs = .ok e) {events : List Event}
    (hafter : Service.afterAll { engine := e } events = some s) :
    s.Exact ixs events { engine := e } := by
  have hreached := (Reached.opened hopen).afterAll hafter
  have horderly := hreached.orderly
  have hstart : Counted { engine := e } 0 ixs.vector.inserts := by
    rw [Engine.open] at hopen
    split at hopen
    · cases hopen
    · obtain rfl := Except.ok.inj hopen
      exact ⟨⟨rfl, rfl, rfl, rfl, rfl⟩, (Int.add_zero _).symm⟩
  have hcounted := hstart.afterAll (orderly_opened hopen) hafter
  rw [Nat.zero_add] at hcounted
  refine ⟨hcounted.counters.congr rfl, ?_, ⟨length_executed horderly.toAccounted, horderly.nodup_answers,
    horderly.answers⟩, horderly.admits.refused, fun hshut cancelled request nanos => ?_, ?_⟩
  · rw [hcounted.inserts]
    exact Int.add_right_comm _ _ _
  · have hsearch : s.engine.search cancelled request nanos = (.error .shutDown, s.engine) := by
      rw [Engine.search, hshut]
      rfl
    exact ⟨by rw [Service.after, hsearch], by rw [searchesAnswered, hsearch]; rfl⟩
  · intro number e htold he hanswer
    obtain ⟨-, -, hnever⟩ := horderly.replies.refused number e htold he
    exact hnever (horderly.mem_taken_iff.mpr (.inr hanswer))

/-- A document whose embedding the store refuses, the same one again while the queue is full, an update that
succeeds, a search that is answered and one that is not, a document that is refused, the removal of nothing and a
call that is too late. -/
def countedEvents : List Event :=
  [.elsewhere smallEngine.indexes.text smallEngine.indexes.vector
      { smallEngine.indexes.store with faults := { write := some (.io "full") } },
    .call false (.index smallDocument), .call false (.index smallDocument), .take, .move 0, .move 0,
    .elsewhere smallEngine.indexes.text smallEngine.indexes.vector smallEngine.indexes.store,
    .call false (.update smallDocument), .take, .move 0, .move 0, .move 0,
    .search false { text := "red" } 0, .search true { text := "red" } 0,
    .call false (.index { smallDocument with id := "" }), .take,
    .call false (.delete "b"), .take, .move 0, .close, .call false (.delete "a")]

theorem exact_narrowService : Engine.open narrowConfig smallEngine.indexes = .ok narrowService.engine ∧
    ∃ s, narrowService.afterAll countedEvents = some s ∧
      s.executed.map (fun w => (w.task.id, w.result.isOk)) =
        [("b", true), ("", false), ("a", true), ("a", false)] ∧
      s.engine.currentStatistics.vectorInserts = 1 ∧ s.engine.indexes.vector.inserts = 1 ∧
      s.Exact smallEngine.indexes countedEvents narrowService := by
  have hrun : (narrowService.afterAll countedEvents).map (fun s =>
      (s.executed.map (fun w => (w.task.id, w.result.isOk)), s.engine.currentStatistics.vectorInserts,
        s.engine.indexes.vector.inserts)) =
      some ([("b", true), ("", false), ("a", true), ("a", false)], 1, 1) := by decide +kernel
  obtain ⟨s, hafter, hfigures⟩ := Option.map_eq_some_iff.mp hrun
  obtain ⟨hexecuted, hfigures⟩ := Prod.ext_iff.mp hfigures
  obtain ⟨hvector, hinserts⟩ := Prod.ext_iff.mp hfigures
  exact ⟨open_narrowConfig, s, hafter, hexecuted, hvector, hinserts, exact_afterAll open_narrowConfig hafter⟩

end Service

end HybridSearch

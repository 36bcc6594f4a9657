import HybridSearch.Proofs.Engine.Reachable
import HybridSearch.Proofs.Engine.Workers
import HybridSearch.Proofs.TextIndex.Apart
import HybridSearch.Proofs.VectorIndex.Exact

/-!
# Workers that take turns

The workers may take turns in any way, and searches, other uses of the text index and faults of the store may
come between. The vector index serves one worker at a time, so that a write that was worked out still fits when
it is made. The store of an engine therefore holds a graph at any time of its life, and while the embeddings are
few one that is searched exactly.
-/
namespace HybridSearch

namespace VectorChange

def id : VectorChange → String
  | insert id _ => id
  | delete id => id

/-- What a change makes of a stored graph. -/
inductive Makes (config : VectorConfig) (g : Graph) : VectorChange → Graph → Prop
  | inserted {id : String} {v : Embedding} {level : Nat} (hlevel : level ≤ VectorIndex.maxLevel)
      (hv : VectorIndex.checkVector config v = .ok ()) :
      Makes config g (.insert id v) (g.insert config id v level)
  | deleted {id : String} : Makes config g (.delete id) (g.delete config id)

variable {config : VectorConfig} {c : VectorChange} {ix : VectorIndex} {store : StoreHandle} {g g' : Graph}
  {commit : Commit}

theorem Makes.moves (h : c.Makes config g g') : VectorIndex.Moves config g g' := by
  cases h with
  | inserted hlevel hv => exact .inserted _ hlevel hv
  | deleted => exact .deleted _

theorem Makes.embedding?_of_ne (h : c.Makes config g g') (hs : g.Sound config)
    (hbreadth : 0 < config.buildBreadth) {other : String} (hne : other ≠ c.id) :
    g'.embedding? other = g.embedding? other := by
  cases h with
  | inserted _ _ =>
    rw [Graph.embedding?_insert hs hbreadth]
    exact Function.update_of_ne hne _ _
  | deleted =>
    rw [Graph.embedding?_delete hs]
    exact Function.update_of_ne hne _ _

theorem prepare_makes (h : ix.Ready store g) (hprepare : (c.prepare ix store).2 = .ok (some commit)) :
    ∃ g', c.Makes ix.config g g' ∧
      VectorIndex.Holds ix.config (store.content.write commit.batch) g' := by
  cases c with
  | insert id v =>
    rw [prepare] at hprepare
    split at hprepare
    · cases hprepare
    · next hvalid =>
      have hv := VectorIndex.checkVector_of_validate hvalid
      obtain ⟨batch, hinsert, hholds⟩ := VectorIndex.prepareInsert_ok h.holds h.gettable h.scannable id
        h.accepted.buildBreadth.1 ix.nextLevel_le hv
      rw [hinsert] at hprepare
      obtain rfl := Option.some_inj.mp (Except.ok.inj hprepare)
      exact ⟨_, .inserted ix.nextLevel_le hv, hholds⟩
  | delete id =>
    rw [prepare] at hprepare
    split at hprepare
    · cases hprepare
    · rcases VectorIndex.prepareDelete_ok h.holds h.gettable h.scannable id with
        ⟨-, hdelete⟩ | ⟨-, batch, hdelete, hholds⟩
      · rw [hdelete] at hprepare
        cases hprepare
      · rw [hdelete] at hprepare
        obtain rfl := Option.some_inj.mp (Except.ok.inj hprepare)
        exact ⟨_, .deleted, hholds⟩

theorem write_ready (h : ix.Ready store g) (c : VectorChange)
    (hwritten : VectorIndex.Holds ix.config (store.content.write commit.batch) g') :
    (c.write ix store commit).index.Ready (c.write ix store commit).store g ∨
      (c.write ix store commit).index.Ready (c.write ix store commit).store g' := by
  rcases VectorIndex.commit_cases store ix commit with ⟨fault, -, hcommit⟩ | ⟨-, hcommit⟩
  · refine .inl ?_
    cases c with
    | insert id v =>
      rw [write, VectorIndex.commitInsert, hcommit]
      exact h
    | delete id =>
      rw [write, VectorIndex.commitDelete, hcommit]
      exact h
  · refine .inr ?_
    cases c with
    | insert id v =>
      rw [write, VectorIndex.commitInsert, hcommit]
      exact (h.written hwritten).of_config rfl
    | delete id =>
      rw [write, VectorIndex.commitDelete, hcommit]
      exact (h.written hwritten).of_config rfl

end VectorChange

/-- A task for an id that is none of a tenant's, and for a document of another tenant if it brings one. -/
def Task.Beside (task : Task) (t : TextTables) (tenant : String) : Prop :=
  t.owns tenant task.id = false ∧ ∀ d, task.document? = some d → d.tenant ≠ tenant

def Stage.Beside : Stage → TextTables → String → Prop
  | entryWritten d, t, tenant => (Task.index d).Beside t tenant
  | entryRemoved id replacement, t, tenant =>
    (Task.delete id).Beside t tenant ∧ ∀ d, replacement = some d → (Task.index d).Beside t tenant

variable {t t' : TextTables} {tenant : String}

theorem Task.Beside.congr {task : Task} (h : task.Beside t tenant) (hsame : t.SameFor tenant t') :
    task.Beside t' tenant :=
  ⟨(hsame.owns _).trans h.1, h.2⟩

theorem Stage.Beside.congr {stage : Stage} (h : stage.Beside t tenant) (hsame : t.SameFor tenant t') :
    stage.Beside t' tenant := by
  cases stage with
  | entryWritten d => exact Task.Beside.congr h hsame
  | entryRemoved id replacement => exact ⟨h.1.congr hsame, fun d hd => (h.2 d hd).congr hsame⟩

theorem Stage.Beside.change {stage : Stage} (h : stage.Beside t tenant) :
    t.owns tenant stage.change.id = false := by
  cases stage with
  | entryWritten d =>
    have hid : t.owns tenant d.id = false := h.1
    rw [Stage.change, Document.vectorChange]
    cases d.embedding <;> exact hid
  | entryRemoved id replacement => exact h.1.1

namespace Indexes

variable {ixs next : Indexes}

theorem writeEntry_ok {d : Document} (h : ixs.writeEntry d = .ok next) :
    ∃ text, ixs.text.index d.toEntry = .ok text ∧ next = { ixs with text } := by
  rw [writeEntry] at h
  obtain ⟨-, -, h⟩ := exists_of_bind_ok h
  obtain ⟨text, hindex, h⟩ := exists_of_bind_ok h
  exact ⟨text, ok_of_mapError hindex, (Except.ok.inj h).symm⟩

theorem removeEntry_ok {id : String} (h : ixs.removeEntry id = .ok next) :
    ∃ text held, ixs.text.delete id = .ok (text, held) ∧ next = { ixs with text } := by
  rw [removeEntry] at h
  split at h
  · cases h
  · obtain ⟨⟨text, held⟩, hdelete, h⟩ := exists_of_bind_ok h
    exact ⟨text, held, ok_of_mapError hdelete, (Except.ok.inj h).symm⟩

/-- What a part of a task does to the text index, the only one that it changes: a tenant beside it notices
nothing. -/
def Touches (ixs : Indexes) (part : Indexes × Progress) (beside : TextTables → String → Prop) : Prop :=
  ∃ text, part.1 = { ixs with text } ∧ ∀ tenant, beside ixs.text.tables tenant →
    ixs.text.SameFor tenant text ∧ ∀ stage, part.2 = .reached stage → stage.Beside ixs.text.tables tenant

theorem touches_finished (ixs : Indexes) (result : TaskResult) (beside : TextTables → String → Prop) :
    ixs.Touches (ixs, .finished result) beside := by
  refine ⟨ixs.text, rfl, fun tenant _ => ⟨.refl _ _, fun stage hstage => ?_⟩⟩
  cases hstage

theorem touches_index (ixs : Indexes) (d : Document) :
    ixs.Touches (ixs.start (.index d)) (Task.index d).Beside := by
  rw [start]
  cases hwrite : ixs.writeEntry d with
  | error e => exact ixs.touches_finished _ _
  | ok written =>
    obtain ⟨text, hindex, rfl⟩ := writeEntry_ok hwrite
    refine ⟨text, rfl, fun tenant hbeside => ⟨?_, fun stage hstage => ?_⟩⟩
    · exact TextIndex.sameFor_index hbeside.1 (hbeside.2 d rfl) hindex
    · obtain rfl := Progress.reached.inj hstage
      exact hbeside

theorem touches_removal (ixs : Indexes) {id : String} {beside : TextTables → String → Prop}
    {removed : Except EngineError Indexes} (hremoved : ∀ {next}, removed = .ok next →
      ixs.removeEntry id = .ok next) (replacement : Option Document)
    (hbeside : ∀ t tenant, beside t tenant → (Stage.entryRemoved id replacement).Beside t tenant) :
    ixs.Touches (ixs.reach removed (.entryRemoved id replacement)) beside := by
  cases removed with
  | error e => exact ixs.touches_finished _ _
  | ok next =>
    obtain ⟨text, held, hdelete, rfl⟩ := removeEntry_ok (hremoved rfl)
    refine ⟨text, rfl, fun tenant h => ⟨?_, fun stage hstage => ?_⟩⟩
    · exact TextIndex.sameFor_delete (hbeside _ _ h).1.1 hdelete
    · obtain rfl := Progress.reached.inj hstage
      exact hbeside _ _ h

theorem touches_start (ixs : Indexes) (task : Task) : ixs.Touches (ixs.start task) task.Beside := by
  cases task with
  | index d => exact ixs.touches_index d
  | update d =>
    refine ixs.touches_removal (fun h => ?_) (some d) fun t tenant hbeside => ⟨⟨hbeside.1, ?_⟩, ?_⟩
    · obtain ⟨-, -, h⟩ := exists_of_bind_ok h
      exact h
    · intro d' hd'
      cases hd'
    · intro d' hd'
      obtain rfl := Option.some_inj.mp hd'
      exact hbeside
  | delete id =>
    refine ixs.touches_removal (fun h => h) none fun t tenant hbeside => ⟨hbeside, fun d hd => ?_⟩
    cases hd

theorem touches_proceed (ixs : Indexes) (stage : Stage) (changed : Except VectorError Unit) :
    ixs.Touches (ixs.proceed stage changed) stage.Beside := by
  cases stage with
  | entryWritten d =>
    cases changed with
    | ok u => exact ixs.touches_finished _ _
    | error source =>
      rw [proceed, finishEntry, compensate]
      cases hdelete : ixs.text.delete d.id with
      | error e => exact ixs.touches_finished _ _
      | ok removed =>
        refine ⟨removed.1, rfl, fun tenant hbeside => ⟨?_, fun stage hstage => ?_⟩⟩
        · exact TextIndex.sameFor_delete hbeside.1 hdelete
        · cases hstage
  | entryRemoved id replacement =>
    cases changed with
    | error e => exact ixs.touches_finished _ _
    | ok u =>
      cases replacement with
      | none => exact ixs.touches_finished _ _
      | some d =>
        obtain ⟨text, hindexes, hbeside⟩ := ixs.touches_index d
        exact ⟨text, hindexes, fun tenant h => hbeside tenant (h.2 d rfl)⟩

def storedCount (ixs : Indexes) : Nat :=
  (VectorIndex.storedEmbeddings ixs.vector.config ixs.store.content).length

/-- As many embeddings as are certainly searched exactly. -/
def exactCount (ixs : Indexes) : Nat := min ixs.vector.config.width ixs.vector.config.buildBreadth + 1

theorem storedCount_eq {g : Graph} (h : ixs.vector.Ready ixs.store g) : ixs.storedCount = g.ids.length := by
  rw [storedCount, h.holds.storedEmbeddings_eq, List.length_map]

end Indexes

namespace Engine

variable {e e' : Engine} {g g' : Graph}

/-- What can happen to an engine at a time while only its tasks change the vector index. -/
inductive Turn (e : Engine) : Engine → Prop
  | submit {task : Task} {number : Nat} {e' : Engine} (h : e.submit task = .ok (e', number)) : Turn e e'
  | takeTask : Turn e e.takeTask
  | moveWorker (position : Nat) : Turn e (e.moveWorker position)
  | search (cancelled : Bool) (request : SearchRequest) (nanos : Nat) :
      Turn e (e.search cancelled request nanos).2
  | text (text : TextIndex) : Turn e { e with indexes := { e.indexes with text } }
  | fault (fault : Option StoreFault) : Turn e (e.withWriteFault fault)
  | hold : Turn e e.hold
  | release : Turn e e.release
  | close : Turn e e.close

theorem submit_ok {task : Task} {number : Nat} (h : e.submit task = .ok (e', number)) :
    e' = e.enqueue task := by
  rw [submit] at h
  split at h
  · rw [send] at h
    split at h
    · cases h
    · split at h
      · cases h
      · exact (Prod.mk.inj (Except.ok.inj h)).1.symm
  · cases h

/-- What a worker may do when it moves: nothing, work out its next write, proceed without one, or make it. -/
inductive Move (e : Engine) : Engine → Prop
  | still : Move e e
  | prepared {before after : List Assignment} {a : Assignment} {vector : VectorIndex} {commit : Commit}
      (hbegun : e.begun = before ++ a :: after) (hfree : e.isWriting = false)
      (hprepare : a.stage.change.prepare e.indexes.vector e.indexes.store = (vector, .ok (some commit))) :
      Move e { e with
        indexes := { e.indexes with vector }
        begun := before ++ { a with commit := some commit } :: after }
  | passed {before after : List Assignment} {a : Assignment} {vector : VectorIndex}
      {changed : Except VectorError Unit} (hbegun : e.begun = before ++ a :: after)
      (hfree : e.isWriting = false) (hconfig : vector.config = e.indexes.vector.config) :
      Move e (({ e with begun := before ++ after } : Engine).resume a.number a.depth
        (({ e.indexes with vector } : Indexes).proceed a.stage changed))
  | written {before after : List Assignment} {a : Assignment} {commit : Commit}
      (hbegun : e.begun = before ++ a :: after) (hcommit : a.commit = some commit) :
      Move e (e.performWrite a commit (before ++ after))

theorem move_prepareWrite {before after : List Assignment} {a : Assignment}
    (hbegun : e.begun = before ++ a :: after) (hfree : e.isWriting = false) :
    e.Move (e.prepareWrite a before after) := by
  have hconfig := a.stage.change.prepare_config e.indexes.vector e.indexes.store
  rw [prepareWrite]
  split
  · next hprepare => exact .prepared hbegun hfree hprepare
  · next hprepare =>
    rw [hprepare] at hconfig
    exact .passed hbegun hfree hconfig
  · next hprepare =>
    rw [hprepare] at hconfig
    exact .passed hbegun hfree hconfig

theorem move_moveWorker (e : Engine) (position : Nat) : e.Move (e.moveWorker position) := by
  rw [moveWorker]
  split
  · exact .still
  · next a hposition =>
    have hbegun := eq_take_cons_drop hposition
    dsimp only
    split
    · next hmove =>
      split
      · next commit hcommit => exact .written hbegun hcommit
      · next hcommit =>
        rw [canMove, hcommit] at hmove
        exact move_prepareWrite hbegun (by simpa using hmove)
    · exact .still

def writers (e : Engine) : List Assignment := e.begun.filter fun a => a.commit.isSome

/-- A task may be about to write a change of the stored graph; no more than one is. -/
inductive Writes (config : VectorConfig) (content : Store) (g : Graph) : List Assignment → Prop
  | none : Writes config content g []
  | one {a : Assignment} {commit : Commit} {g' : Graph} (hcommit : a.commit = some commit)
      (hmakes : a.stage.change.Makes config g g')
      (hholds : VectorIndex.Holds config (content.write commit.batch) g') : Writes config content g [a]

/-- The store holds a graph, and what is about to be written fits it. -/
structure Backs (e : Engine) (g : Graph) : Prop where
  ready : e.indexes.vector.Ready e.indexes.store g
  writes : Writes e.indexes.vector.config e.indexes.store.content g e.writers

theorem writers_split {before after : List Assignment} {a : Assignment}
    (hbegun : e.begun = before ++ a :: after) : e.writers =
      before.filter (fun a => a.commit.isSome) ++
        ([a].filter (fun a => a.commit.isSome) ++ after.filter fun a => a.commit.isSome) := by
  rw [writers, hbegun, List.filter_append, ← List.singleton_append, List.filter_append]

/-- What a turn does: the graph behind the engine stays, or changes as a task asks for. -/
structure Advances (e : Engine) (g : Graph) (e' : Engine) (g' : Graph) : Prop where
  config : e'.config = e.config
  embeddings : e'.indexes.vector.config = e.indexes.vector.config
  backs : e'.Backs g'
  graph : g' = g ∨ ∃ a ∈ e.begun, a.stage.change.Makes e.indexes.vector.config g g'

theorem Backs.stays (h : e.Backs g) : e.Advances g e g := ⟨rfl, rfl, h, .inl rfl⟩

theorem Backs.advances_of_same (h : e.Backs g) (hready : e'.indexes.vector.Ready e'.indexes.store g)
    (hconfig : e'.config = e.config)
    (hembeddings : e'.indexes.vector.config = e.indexes.vector.config)
    (hcontent : e'.indexes.store.content = e.indexes.store.content) (hwriters : e'.writers = e.writers) :
    e.Advances g e' g := by
  refine ⟨hconfig, hembeddings, ⟨hready, ?_⟩, .inl rfl⟩
  rw [hembeddings, hcontent, hwriters]
  exact h.writes

theorem advances_resume (e base : Engine) (ixs : Indexes) (hconfig : base.config = e.config)
    (hembeddings : ixs.vector.config = e.indexes.vector.config) (hready : ixs.vector.Ready ixs.store g')
    (hwrites : Writes ixs.vector.config ixs.store.content g' base.writers)
    (hgraph : g' = g ∨ ∃ a ∈ e.begun, a.stage.change.Makes e.indexes.vector.config g g')
    (number depth : Nat) {part : Indexes × Progress} {beside : TextTables → String → Prop}
    (hpart : ixs.Touches part beside) : e.Advances g (base.resume number depth part) g' := by
  obtain ⟨text, hindexes, -⟩ := hpart
  have hvector : part.1.vector = ixs.vector := by rw [hindexes]
  have hstore : part.1.store = ixs.store := by rw [hindexes]
  rw [← hvector] at hembeddings
  rw [← hvector, ← hstore] at hready hwrites
  rw [Engine.resume]
  split
  · next stage _ =>
    have hsame : (base.begun ++ [{ number, depth, stage : Assignment }]).filter
        (fun a => a.commit.isSome) = base.writers := by
      rw [List.filter_append, writers]
      exact List.append_nil _
    refine ⟨hconfig, hembeddings, ⟨hready, ?_⟩, hgraph⟩
    rw [writers, hsame]
    exact hwrites
  · exact ⟨hconfig, hembeddings, ⟨hready, hwrites⟩, hgraph⟩

theorem Backs.takeTask (h : e.Backs g) : e.Advances g e.takeTask g := by
  rw [Engine.takeTask]
  split
  · split
    · exact h.stays
    · next job queue _ =>
      exact e.advances_resume { e with queue } e.indexes rfl rfl h.ready h.writes (.inl rfl) _ _
        (e.indexes.touches_start job.task)
  · exact h.stays

theorem Backs.of_writing (h : e.Backs g) {before after : List Assignment} {a : Assignment}
    {commit : Commit} (hbegun : e.begun = before ++ a :: after) (hcommit : a.commit = some commit) :
    ({ e with begun := before ++ after } : Engine).writers = [] ∧
      ∃ g', a.stage.change.Makes e.indexes.vector.config g g' ∧
        VectorIndex.Holds e.indexes.vector.config (e.indexes.store.content.write commit.batch) g' := by
  have hself : [a].filter (fun a => a.commit.isSome) = [a] := by simp [hcommit]
  have hothers : ({ e with begun := before ++ after } : Engine).writers =
      before.filter (fun a => a.commit.isSome) ++ after.filter fun a => a.commit.isSome :=
    List.filter_append ..
  have hwrites := h.writes
  rw [writers_split hbegun, hself] at hwrites
  rw [hothers]
  generalize before.filter (fun a => a.commit.isSome) = front at hwrites ⊢
  generalize after.filter (fun a => a.commit.isSome) = back at hwrites ⊢
  generalize hall : front ++ ([a] ++ back) = all at hwrites
  cases hwrites with
  | none => simp at hall
  | @one b commit' g' hcommit' hmakes hholds =>
    obtain ⟨rfl, rfl, rfl⟩ : front = [] ∧ a = b ∧ back = [] := by
      cases front with
      | nil => simpa using hall
      | cons first rest => simp at hall
    obtain rfl := Option.some_inj.mp (hcommit.symm.trans hcommit')
    exact ⟨rfl, g', hmakes, hholds⟩

theorem writers_of_free (hfree : e.isWriting = false) : e.writers = [] :=
  List.filter_eq_nil_iff.mpr (List.any_eq_false.mp hfree)

theorem writers_others (hfree : e.isWriting = false) {before after : List Assignment} {a : Assignment}
    (hbegun : e.begun = before ++ a :: after) : before.filter (fun a => a.commit.isSome) = [] ∧
      after.filter (fun a => a.commit.isSome) = [] := by
  have hnone := writers_of_free hfree
  rw [writers_split hbegun] at hnone
  obtain ⟨hbefore, hrest⟩ := List.append_eq_nil_iff.mp hnone
  exact ⟨hbefore, (List.append_eq_nil_iff.mp hrest).2⟩

theorem Backs.performWrite (h : e.Backs g) {before after : List Assignment} {a : Assignment}
    {commit : Commit} (hbegun : e.begun = before ++ a :: after) (hcommit : a.commit = some commit) :
    ∃ g', e.Advances g (e.performWrite a commit (before ++ after)) g' := by
  obtain ⟨hothers, g', hmakes, hholds⟩ := h.of_writing hbegun hcommit
  have hconfig := a.stage.change.write_config e.indexes.vector e.indexes.store commit
  have ha : a ∈ e.begun := hbegun ▸ List.mem_append_right _ List.mem_cons_self
  rw [Engine.performWrite]
  rcases VectorChange.write_ready h.ready a.stage.change hholds with hready | hready
  · refine ⟨g, e.advances_resume { e with begun := before ++ after } _ rfl hconfig hready ?_ (.inl rfl)
      _ _ (Indexes.touches_proceed _ _ _)⟩
    rw [hothers]
    exact .none
  · refine ⟨g', e.advances_resume { e with begun := before ++ after } _ rfl hconfig hready ?_
      (.inr ⟨a, ha, hmakes⟩) _ _ (Indexes.touches_proceed _ _ _)⟩
    rw [hothers]
    exact .none

theorem Backs.moveWorker (h : e.Backs g) (position : Nat) :
    ∃ g', e.Advances g (e.moveWorker position) g' := by
  have hmove := e.move_moveWorker position
  generalize e.moveWorker position = e' at hmove
  cases hmove with
  | still => exact ⟨g, h.stays⟩
  | @prepared before after a vector commit hbegun hfree hprepare =>
    obtain ⟨g', hmakes, hholds⟩ := VectorChange.prepare_makes h.ready (congrArg Prod.snd hprepare)
    have hconfig := a.stage.change.prepare_config e.indexes.vector e.indexes.store
    rw [hprepare] at hconfig
    obtain ⟨hbefore, hafter⟩ := writers_others hfree hbegun
    refine ⟨g, rfl, hconfig, ⟨h.ready.of_config hconfig, ?_⟩, .inl rfl⟩
    rw [writers_split rfl, hbefore, hafter]
    exact .one rfl (hconfig ▸ hmakes) (hconfig ▸ hholds)
  | @passed before after a vector changed hbegun hfree hconfig =>
    obtain ⟨hbefore, hafter⟩ := writers_others hfree hbegun
    have hothers : ({ e with begun := before ++ after } : Engine).writers = [] := by
      rw [writers, List.filter_append, hbefore, hafter]
      rfl
    refine ⟨g, e.advances_resume { e with begun := before ++ after } { e.indexes with vector } rfl hconfig
      (h.ready.of_config hconfig) ?_ (.inl rfl) _ _ (Indexes.touches_proceed _ _ _)⟩
    rw [hothers]
    exact .none
  | written hbegun hcommit => exact h.performWrite hbegun hcommit

/-- However a turn goes, the store holds a graph afterwards that a task asked for, or the one it held. -/
theorem Turn.advances (hturn : e.Turn e') (h : e.Backs g) : ∃ g', e.Advances g e' g' := by
  cases hturn with
  | submit hsubmit =>
    obtain rfl := submit_ok hsubmit
    exact ⟨g, h.advances_of_same h.ready rfl rfl rfl rfl⟩
  | takeTask => exact ⟨g, h.takeTask⟩
  | moveWorker position => exact h.moveWorker position
  | search cancelled request nanos =>
    obtain ⟨vector, statistics, hconfig, hsearch⟩ := e.search_snd cancelled request nanos
    rw [hsearch]
    exact ⟨g, h.advances_of_same (h.ready.of_config hconfig) rfl hconfig rfl rfl⟩
  | text text => exact ⟨g, h.advances_of_same h.ready rfl rfl rfl rfl⟩
  | fault fault => exact ⟨g, h.advances_of_same (h.ready.withWriteFault fault) rfl rfl rfl rfl⟩
  | hold => exact ⟨g, h.advances_of_same h.ready rfl rfl rfl rfl⟩
  | release => exact ⟨g, h.advances_of_same h.ready rfl rfl rfl rfl⟩
  | close => exact ⟨g, h.advances_of_same h.ready rfl rfl rfl rfl⟩

/-- The engines that are opened over nothing, and what becomes of them as long as the store has no more
embeddings than are searched exactly. -/
inductive RunsExactly : Engine → Prop
  | opened {e : Engine} (h : e.Opened) : RunsExactly e
  | turn {e e' : Engine} (h : RunsExactly e) (hturn : e.Turn e')
      (hfew : e'.indexes.storedCount ≤ e'.indexes.exactCount) : RunsExactly e'

theorem Advances.complete (h : e.Advances g e' g') (hbacks : e.Backs g) (hcomplete : g.Complete)
    (hfew : e'.indexes.storedCount ≤ e'.indexes.exactCount) : g'.Complete := by
  rw [Indexes.storedCount_eq h.backs.ready, Indexes.exactCount, h.embeddings] at hfew
  rcases h.graph with rfl | ⟨a, -, hmakes⟩
  · exact hcomplete
  · exact hmakes.moves.complete hbacks.ready.holds.sound hcomplete hbacks.ready.accepted.buildBreadth.1 hfew

theorem Opened.backs (h : e.Opened) :
    e.config.validate = .ok () ∧ ∃ g, e.Backs g ∧ g.Complete := by
  cases h with
  | intro _ hempty hvector hopen =>
    obtain ⟨-, hready⟩ := VectorIndex.ready_of_open hempty hvector
    rw [Engine.open] at hopen
    split at hopen
    · cases hopen
    · next hvalid =>
      obtain rfl := Except.ok.inj hopen
      refine ⟨hvalid, _, ⟨hready, .none⟩, fun a ha => ?_⟩
      cases ha

theorem RunsExactly.backs (h : e.RunsExactly) :
    e.config.validate = .ok () ∧ ∃ g, e.Backs g ∧ g.Complete := by
  induction h with
  | opened h => exact h.backs
  | turn _ hturn hfew ih =>
    obtain ⟨hvalid, g, hbacks, hcomplete⟩ := ih
    obtain ⟨g', hadvances⟩ := hturn.advances hbacks
    exact ⟨hadvances.config ▸ hvalid, g', hadvances.backs, hadvances.complete hbacks hcomplete hfew⟩

/-- The engines that are opened over nothing or over the store of another one, and what becomes of them. The text
tables may be lost, and both indexes may be used directly; a write of the vector index waits for one that a
worker has begun. -/
inductive Arises : Engine → Prop
  | opened {e : Engine} (h : e.Opened) : Arises e
  | reopened {before e : Engine} {config : EngineConfig} {textConfig : TextConfig} {clock : Nat}
      {samples : List Binary64} {stored : Option TextTables} {text : TextIndex} {vector : VectorIndex}
      (h : Arises before) (hstored : ∀ t, stored = some t → t = before.indexes.text.tables)
      (htext : TextIndex.open textConfig stored clock = .ok text)
      (hvector : VectorIndex.open before.indexes.vector.config samples
        { content := before.indexes.store.content } = .ok vector)
      (hopen : Engine.open config ⟨text, vector, { content := before.indexes.store.content }⟩ = .ok e) :
      Arises e
  | turn {e e' : Engine} (h : Arises e) (hstep : e.Step e') (hturn : e.Turn e') : Arises e'
  | searchVector {e : Engine} (h : Arises e) (cancel : Cancellation) (query : Embedding) (k : Nat) :
      Arises { e with indexes :=
        { e.indexes with vector := (e.indexes.vector.search e.indexes.store cancel query k).2 } }
  | vector {e : Engine} {vector : VectorIndex} {store : StoreHandle} (h : Arises e)
      (hfree : e.isWriting = false)
      (hstep : VectorIndex.Step e.indexes.vector.config e.indexes.vector e.indexes.store vector store) :
      Arises { e with indexes := { e.indexes with vector, store } }

theorem writers_of_open {config : EngineConfig} {ixs : Indexes} (h : Engine.open config ixs = .ok e) :
    e.writers = [] := by
  rw [Engine.open] at h
  split at h
  · cases h
  · obtain rfl := Except.ok.inj h
    rfl

theorem Arises.backs (h : e.Arises) : ∃ g, e.Backs g := by
  induction h with
  | opened h =>
    obtain ⟨-, g, hbacks, -⟩ := h.backs
    exact ⟨g, hbacks⟩
  | reopened _ _ _ hvector hopen ih =>
    obtain ⟨g, hready, -⟩ := ih
    obtain ⟨-, hconfig, -⟩ := VectorIndex.open_cases hvector
    refine ⟨g, ?_, ?_⟩
    · rw [indexes_open hopen]
      exact ⟨hconfig ▸ hready.accepted, rfl, rfl, hconfig ▸ hready.holds⟩
    · rw [writers_of_open hopen]
      exact .none
  | turn _ _ hturn ih =>
    obtain ⟨g, hbacks⟩ := ih
    obtain ⟨g', hadvances⟩ := hturn.advances hbacks
    exact ⟨g', hadvances.backs⟩
  | @searchVector e _ cancel query k ih =>
    obtain ⟨g, hbacks⟩ := ih
    have hconfig := VectorIndex.Ready.search_config e.indexes.vector e.indexes.store cancel query k
    exact ⟨g, hbacks.ready.of_config hconfig, hconfig ▸ hbacks.writes⟩
  | @vector e vector store _ hfree hstep ih =>
    obtain ⟨g, hready, -⟩ := ih
    obtain ⟨-, g', -, hnext⟩ := hstep.moves hready
    have hwriters : ({ e with indexes := { e.indexes with vector, store } } : Engine).writers = [] :=
      writers_of_free hfree
    refine ⟨g', hnext, ?_⟩
    rw [hwriters]
    exact .none

theorem Arises.reached (h : e.Arises) : e.Reached := by
  induction h with
  | opened h => exact h.reached
  | @reopened before e config textConfig clock samples stored text vector _ hstored htext _ hopen ih =>
    cases stored with
    | none => exact .opened htext hopen
    | some t =>
      obtain rfl := hstored t rfl
      exact .reopened ih htext hopen
  | turn _ hstep _ ih => exact ih.step hstep
  | searchVector _ cancel query k ih => exact ih.step (.vector _ _)
  | vector _ _ _ ih => exact ih.step (.vector _ _)

theorem CallStep.turn (h : e.CallStep e') : e.Turn e' := by
  cases h with
  | submit h => exact .submit h
  | takeTask => exact .takeTask
  | moveWorker position => exact .moveWorker position
  | search cancelled request nanos => exact .search cancelled request nanos
  | optimize h =>
    obtain ⟨text, -, rfl⟩ := withText_ok h
    exact .text text
  | rebuildText h =>
    obtain ⟨text, -, rfl⟩ := withText_ok h
    exact .text text
  | fault fault => exact .fault fault

theorem Arises.run (h : e.Arises) (calls : List Call) : (e.run calls).engine.Arises :=
  KeptByCalls.run (fun _ _ h hstep => h.turn hstep.step hstep.turn) h calls

end Engine

end HybridSearch

import HybridSearch.Proofs.Engine.History
import HybridSearch.Proofs.TextIndex.Tenants

/-!
# Engines that can be reached

An engine is opened over tables that are new or that another engine has left, and changes by calls and by
steps of its workers, which may take turns in any way. Tasks may wait or be half done at any time, and
whatever happens to the store is allowed. All that this does to the text tables is writing entries that
were checked, removing entries and starting over.
-/
namespace HybridSearch

namespace Indexes

variable {ixs : Indexes}

theorem reached_writeEntry (h : ixs.text.tables.Reached) {d : Document} {written : Indexes}
    (hwritten : ixs.writeEntry d = .ok written) : written.text.tables.Reached := by
  rw [Indexes.writeEntry] at hwritten
  obtain ⟨-, -, hwritten⟩ := exists_of_bind_ok hwritten
  obtain ⟨text, hindex, hwritten⟩ := exists_of_bind_ok hwritten
  obtain rfl := Except.ok.inj hwritten
  exact TextIndex.reached_index h (ok_of_mapError hindex)

theorem reached_removeEntry (h : ixs.text.tables.Reached) {id : String} {removed : Indexes}
    (hremoved : ixs.removeEntry id = .ok removed) : removed.text.tables.Reached := by
  rw [Indexes.removeEntry] at hremoved
  split at hremoved
  · cases hremoved
  · obtain ⟨⟨text, held⟩, hdelete, hremoved⟩ := exists_of_bind_ok hremoved
    obtain rfl := Except.ok.inj hremoved
    exact TextIndex.reached_delete h (ok_of_mapError hdelete)

theorem reached_reach (h : ixs.text.tables.Reached) {next : Except EngineError Indexes}
    (hnext : ∀ {ixs'}, next = .ok ixs' → ixs'.text.tables.Reached) (stage : Stage) :
    (ixs.reach next stage).1.text.tables.Reached := by
  cases next with
  | error e => exact h
  | ok ixs' => exact hnext rfl

theorem reached_start (h : ixs.text.tables.Reached) (task : Task) :
    (ixs.start task).1.text.tables.Reached := by
  cases task with
  | index d => exact reached_reach h (reached_writeEntry h) _
  | update d =>
    refine reached_reach h (fun hnext => ?_) _
    obtain ⟨-, -, hremove⟩ := exists_of_bind_ok hnext
    exact reached_removeEntry h hremove
  | delete id => exact reached_reach h (reached_removeEntry h) _

theorem reached_compensate (h : ixs.text.tables.Reached) (id : String) (source : VectorError) :
    (ixs.compensate id source).1.text.tables.Reached := by
  rw [Indexes.compensate]
  split
  · next text held hdelete => exact TextIndex.reached_delete h hdelete
  · exact h

theorem reached_proceed (h : ixs.text.tables.Reached) (stage : Stage)
    (changed : Except VectorError Unit) : (ixs.proceed stage changed).1.text.tables.Reached := by
  cases stage with
  | entryWritten d =>
    cases changed with
    | error source => exact reached_compensate h d.id source
    | ok u => exact h
  | entryRemoved id replacement =>
    cases changed with
    | error e => exact h
    | ok u =>
      cases replacement with
      | none => exact h
      | some d => exact reached_start h (.index d)

end Indexes

namespace Engine

/-- What can happen to an engine at a time. Its text index may also be used directly, and its vector index
and the store under it may change in any way. -/
inductive Step (e : Engine) : Engine → Prop
  | submit {task : Task} {number : Nat} {e' : Engine} (h : e.submit task = .ok (e', number)) :
      Step e e'
  | takeTask : Step e e.takeTask
  | moveWorker (position : Nat) : Step e (e.moveWorker position)
  | search (cancelled : Bool) (request : SearchRequest) (nanos : Nat) :
      Step e (e.search cancelled request nanos).2
  | optimize {e' : Engine} (h : e.optimize = .ok e') : Step e e'
  | rebuildText {e' : Engine} (h : e.rebuildText = .ok e') : Step e e'
  | hold : Step e e.hold
  | release : Step e e.release
  | close : Step e e.close
  | putText {entry : TextEntry} {text : TextIndex} (h : e.indexes.text.index entry = .ok text) :
      Step e { e with indexes := { e.indexes with text } }
  | deleteText {id : String} {text : TextIndex} {held : Bool}
      (h : e.indexes.text.delete id = .ok (text, held)) :
      Step e { e with indexes := { e.indexes with text } }
  | closeText : Step e { e with indexes := { e.indexes with text := e.indexes.text.close } }
  | vector (vector : VectorIndex) (store : StoreHandle) :
      Step e { e with indexes := { e.indexes with vector, store } }

/-- Engines over new tables or over those that another one has left, and what becomes of them. -/
inductive Reached : Engine → Prop
  | opened {e : Engine} {config : EngineConfig} {textConfig : TextConfig} {clock : Nat}
      {text : TextIndex} {vector : VectorIndex} {store : StoreHandle}
      (htext : TextIndex.open textConfig none clock = .ok text)
      (hopen : Engine.open config ⟨text, vector, store⟩ = .ok e) : Reached e
  | reopened {before e : Engine} {config : EngineConfig} {textConfig : TextConfig} {clock : Nat}
      {text : TextIndex} {vector : VectorIndex} {store : StoreHandle} (h : Reached before)
      (htext : TextIndex.open textConfig (some before.indexes.text.tables) clock = .ok text)
      (hopen : Engine.open config ⟨text, vector, store⟩ = .ok e) : Reached e
  | step {e e' : Engine} (h : Reached e) (hstep : e.Step e') : Reached e'

variable {e e' : Engine}

theorem indexes_open {config : EngineConfig} {ixs : Indexes} (h : Engine.open config ixs = .ok e) :
    e.indexes = ixs := by
  rw [Engine.open] at h
  split at h
  · cases h
  · obtain rfl := Except.ok.inj h
    rfl

theorem indexes_submit {task : Task} {number : Nat} (h : e.submit task = .ok (e', number)) :
    e'.indexes = e.indexes := by
  rw [submit, send] at h
  split at h
  · split at h
    · cases h
    · split at h
      · cases h
      · obtain ⟨rfl, -⟩ := Prod.mk.inj (Except.ok.inj h)
        rfl
  · cases h

theorem indexes_resume (e : Engine) (number depth : Nat) (part : Indexes × Progress) :
    (e.resume number depth part).indexes = part.1 := by
  rw [resume]
  split <;> rfl

theorem reached_takeTask (h : e.indexes.text.tables.Reached) :
    e.takeTask.indexes.text.tables.Reached := by
  rw [takeTask]
  split
  · split
    · exact h
    · next job queue _ =>
      rw [indexes_resume]
      exact Indexes.reached_start h job.task
  · exact h

theorem reached_prepareWrite (h : e.indexes.text.tables.Reached) (a : Assignment)
    (before after : List Assignment) :
    (e.prepareWrite a before after).indexes.text.tables.Reached := by
  rw [prepareWrite]
  split
  · exact h
  · rw [indexes_resume]
    refine Indexes.reached_proceed ?_ _ _
    exact h
  · rw [indexes_resume]
    refine Indexes.reached_proceed ?_ _ _
    exact h

theorem reached_performWrite (h : e.indexes.text.tables.Reached) (a : Assignment) (commit : Commit)
    (others : List Assignment) : (e.performWrite a commit others).indexes.text.tables.Reached := by
  rw [performWrite]
  dsimp only
  rw [indexes_resume]
  refine Indexes.reached_proceed ?_ _ _
  exact h

theorem reached_moveWorker (h : e.indexes.text.tables.Reached) (position : Nat) :
    (e.moveWorker position).indexes.text.tables.Reached := by
  rw [moveWorker]
  split
  · exact h
  · dsimp only
    split
    · split
      · exact reached_performWrite h _ _ _
      · exact reached_prepareWrite h _ _ _
    · exact h

theorem withText_ok {next : Except TextError TextIndex} (h : e.withText next = .ok e') :
    ∃ text, next = .ok text ∧ e' = { e with indexes := { e.indexes with text } } := by
  cases next with
  | error cause => cases h
  | ok text => exact ⟨text, rfl, (Except.ok.inj h).symm⟩

theorem Step.tables_reached (h : e.Step e') (he : e.indexes.text.tables.Reached) :
    e'.indexes.text.tables.Reached := by
  cases h with
  | submit h =>
    rw [indexes_submit h]
    exact he
  | takeTask => exact reached_takeTask he
  | moveWorker position => exact reached_moveWorker he position
  | search cancelled request nanos =>
    obtain ⟨vector, statistics, -, hsearch⟩ := e.search_snd cancelled request nanos
    rw [hsearch]
    exact he
  | optimize h =>
    obtain ⟨text, htext, rfl⟩ := withText_ok h
    rw [TextIndex.optimize_ok htext]
    exact he
  | rebuildText h =>
    obtain ⟨text, htext, rfl⟩ := withText_ok h
    exact TextIndex.reached_rebuild htext
  | hold => exact he
  | release => exact he
  | close => exact he
  | putText h => exact TextIndex.reached_index he h
  | deleteText h => exact TextIndex.reached_delete he h
  | closeText => exact he
  | vector vector store => exact he

theorem Reached.tables_reached (h : e.Reached) : e.indexes.text.tables.Reached := by
  induction h with
  | opened htext hopen =>
    rw [indexes_open hopen]
    exact TextIndex.reached_open (fun t ht => by cases ht) htext
  | reopened _ htext hopen ih =>
    rw [indexes_open hopen]
    refine TextIndex.reached_open (fun t ht => ?_) htext
    rw [← Option.some_inj.mp ht]
    exact ih
  | step _ hstep ih => exact hstep.tables_reached ih

/-- What happens to an engine at a time while one of its calls is answered. -/
inductive CallStep (e : Engine) : Engine → Prop
  | submit {task : Task} {number : Nat} {e' : Engine} (h : e.submit task = .ok (e', number)) :
      CallStep e e'
  | takeTask : CallStep e e.takeTask
  | moveWorker (position : Nat) : CallStep e (e.moveWorker position)
  | search (cancelled : Bool) (request : SearchRequest) (nanos : Nat) :
      CallStep e (e.search cancelled request nanos).2
  | optimize {e' : Engine} (h : e.optimize = .ok e') : CallStep e e'
  | rebuildText {e' : Engine} (h : e.rebuildText = .ok e') : CallStep e e'
  | fault (fault : Option StoreFault) : CallStep e (e.withWriteFault fault)

theorem CallStep.step (h : e.CallStep e') : e.Step e' := by
  cases h with
  | submit h => exact .submit h
  | takeTask => exact .takeTask
  | moveWorker position => exact .moveWorker position
  | search cancelled request nanos => exact .search cancelled request nanos
  | optimize h => exact .optimize h
  | rebuildText h => exact .rebuildText h
  | fault fault => exact .vector _ _

/-- Something about engines that no step of a call changes. -/
def KeptByCalls (P : Engine → Prop) : Prop := ∀ ⦃e e' : Engine⦄, P e → e.CallStep e' → P e'

namespace KeptByCalls

variable {P : Engine → Prop}

theorem work (hkept : KeptByCalls P) (h : P e) : P e.work := by
  rw [Engine.work]
  split
  · next position _ => exact hkept h (.moveWorker position)
  · exact hkept h .takeTask

theorem workFor (hkept : KeptByCalls P) (h : P e) (steps : Nat) : P (workFor steps e) := by
  induction steps generalizing e with
  | zero => exact h
  | succ steps ih => exact ih (hkept.work h)

theorem workUnder (hkept : KeptByCalls P) (h : P e) (faults : List (Option StoreFault)) :
    P (workUnder faults e) := by
  induction faults generalizing e with
  | nil => exact h
  | cons fault faults ih => exact ih (hkept.work (hkept h (.fault fault)))

theorem performUnder (hkept : KeptByCalls P) (h : P e) (task : Task) (faults : List (Option StoreFault)) :
    P (e.performUnder task faults).1 := by
  rw [Engine.performUnder]
  split
  · exact h
  · next queued number hsubmit =>
    have hqueued : P queued := hkept h (.submit hsubmit)
    exact hkept.workFor (hkept.workUnder hqueued faults) _

theorem toOption_getD (hkept : KeptByCalls P) (h : P e) {next : Except EngineError Engine}
    (hnext : ∀ {e'}, next = .ok e' → e.CallStep e') : P (next.toOption.getD e) := by
  cases next with
  | error cause => exact h
  | ok e' => exact hkept h (hnext rfl)

theorem call (hkept : KeptByCalls P) {r : Run} (h : P r.engine) (c : Call) : P (r.call c).engine := by
  cases c with
  | write task faults => exact hkept.performUnder h task faults
  | rebuildText => exact hkept.toOption_getD h .rebuildText
  | optimize => exact hkept.toOption_getD h .optimize
  | search cancelled request nanos => exact hkept h (.search cancelled request nanos)

theorem run (hkept : KeptByCalls P) (h : P e) (calls : List Call) : P (e.run calls).engine := by
  have hcalls : ∀ r : Run, P r.engine → P (calls.foldl Run.call r).engine := by
    induction calls with
    | nil => exact fun r hr => hr
    | cons c calls ih => exact fun r hr => ih (r.call c) (hkept.call hr c)
  exact hcalls _ h

end KeptByCalls

theorem Reached.run (h : e.Reached) (calls : List Call) : (e.run calls).engine.Reached :=
  KeptByCalls.run (fun _ _ h hstep => h.step hstep.step) h calls

theorem Opened.reached (h : e.Opened) : e.Reached := by
  cases h with
  | intro htext _ _ hopen => exact .opened htext hopen

end Engine

end HybridSearch

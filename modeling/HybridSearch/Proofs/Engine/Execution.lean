import HybridSearch.Proofs.Engine.History

/-!
# Running a task without a pause

An engine without other work makes of its indexes what running the task in one go makes of them, and answers
the same.
-/
namespace HybridSearch

namespace Indexes

variable {ixs : Indexes} {t : Task} {out : Indexes × TaskResult}

/-- Changes the vector index as a stage asks for, and goes on from there. -/
def pass (ixs : Indexes) (stage : Stage) : Indexes × Progress :=
  let (ixs, changed) := ixs.change stage.change
  ixs.proceed stage changed

/-- What comes of a task that has come so far, in so many steps of a worker at most. -/
inductive Ends : Nat → Indexes × Progress → Indexes × TaskResult → Prop
  | finished {ixs : Indexes} {result : TaskResult} (left : Nat) :
      Ends left (ixs, .finished result) (ixs, result)
  | reached {left : Nat} {ixs : Indexes} {stage : Stage} {out : Indexes × TaskResult}
      (h : Ends left (ixs.pass stage) out) : Ends (left + 2) (ixs, .reached stage) out

theorem Ends.mono {left more : Nat} {part : Indexes × Progress} (h : Ends left part out)
    (hmore : left ≤ more) : Ends more part out := by
  induction h generalizing more with
  | finished => exact .finished more
  | @reached left ixs stage out _ ih =>
    obtain ⟨rest, rfl⟩ := Nat.exists_eq_add_of_le' (Nat.le_of_add_left_le hmore)
    exact .reached (ih (Nat.le_of_add_le_add_right hmore))

theorem ends_index (ixs : Indexes) (d : Document) :
    Ends 2 (ixs.start (.index d)) (ixs.indexDocument d) := by
  rw [start, indexDocument]
  cases ixs.writeEntry d with
  | error e => exact .finished 2
  | ok written => exact .reached (.finished 0)

theorem ends_update (ixs : Indexes) (d : Document) :
    Ends 4 (ixs.start (.update d)) (ixs.updateDocument d) := by
  rw [start, updateDocument]
  cases ixs.checkDocument d with
  | error e => exact .finished 4
  | ok u =>
    rw [deleteDocument]
    show Ends 4 (ixs.reach (ixs.removeEntry d.id) _) _
    cases ixs.removeEntry d.id with
    | error e => exact .finished 4
    | ok removed =>
      refine .reached ?_
      dsimp only [pass, Stage.change]
      rcases removed.change (.delete d.id) with ⟨changed, e | u⟩
      · exact .finished 2
      · exact ends_index changed d

theorem ends_delete (ixs : Indexes) (id : String) :
    Ends 2 (ixs.start (.delete id)) (ixs.deleteDocument id) := by
  rw [start, deleteDocument]
  cases ixs.removeEntry id with
  | error e => exact .finished 2
  | ok removed =>
    refine .reached ?_
    dsimp only [pass, Stage.change]
    rcases removed.change (.delete id) with ⟨changed, e | u⟩
    · exact .finished 0
    · exact .finished 0

theorem ends_start (ixs : Indexes) (t : Task) : Ends 4 (ixs.start t) (ixs.execute t) := by
  cases t with
  | index d => exact (ends_index ixs d).mono (by decide)
  | update d => exact ends_update ixs d
  | delete id => exact (ends_delete ixs id).mono (by decide)

end Indexes

namespace Engine

variable {e : Engine} {t : Task}

theorem resume_withIndexes (hbegun : e.begun = []) (number depth : Nat) (ixs : Indexes)
    (part : Indexes × Progress) : ({ e with indexes := ixs, begun := [] } : Engine).resume number depth part =
      e.resume number depth part := by
  cases e
  subst hbegun
  rfl

theorem workFor_reached (h : e.Serving) (hbegun : e.begun = []) (number depth : Nat) (ixs : Indexes)
    (stage : Stage) : ∃ steps ≤ 2, workFor steps (e.resume number depth (ixs, .reached stage)) =
      e.resume number depth (ixs.pass stage) := by
  have hreached : e.resume number depth (ixs, .reached stage) =
      { e with indexes := ixs, begun := [⟨number, depth, stage, none⟩] } := by
    cases e
    subst hbegun
    rfl
  have hprepare : (e.resume number depth (ixs, .reached stage)).work =
      (e.resume number depth (ixs, .reached stage)).prepareWrite ⟨number, depth, stage, none⟩ [] [] :=
    work_of_stopped (congrArg begun hreached)
  rw [hreached] at hprepare ⊢
  rw [Indexes.pass, Indexes.change, VectorChange.run]
  rcases hcase : stage.change.prepare ixs.vector ixs.store with ⟨vector, cause | _ | commit⟩
  · refine ⟨1, by decide, ?_⟩
    rw [workFor, workFor, hprepare, prepareWrite]
    simp only [hcase]
    exact resume_withIndexes hbegun number depth ixs _
  · refine ⟨1, by decide, ?_⟩
    rw [workFor, workFor, hprepare, prepareWrite]
    simp only [hcase]
    exact resume_withIndexes hbegun number depth ixs _
  · have hwriting : ({ e with
        indexes := { ixs with vector }
        begun := [⟨number, depth, stage, some commit⟩] } : Engine).work =
          Engine.performWrite _ ⟨number, depth, stage, some commit⟩ commit [] :=
      work_of_writing h.isHeld rfl
    refine ⟨2, by decide, ?_⟩
    rw [workFor, workFor, workFor, hprepare, prepareWrite]
    simp only [hcase, List.nil_append]
    rw [hwriting, performWrite]
    exact resume_withIndexes hbegun number depth _ _

theorem workFor_add (m n : Nat) (e : Engine) : workFor (m + n) e = workFor n (workFor m e) := by
  induction m generalizing e with
  | zero => rw [Nat.zero_add, workFor]
  | succ m ih => rw [Nat.succ_add, workFor, workFor, ih]

theorem workFor_ends (h : e.Serving) (hqueue : e.queue = []) (hbegun : e.begun = []) (number depth : Nat)
    {left steps : Nat} {part : Indexes × Progress} {out : Indexes × TaskResult}
    (hends : Indexes.Ends left part out) (hsteps : left ≤ steps) :
    workFor steps (e.resume number depth part) = e.resume number depth (out.1, .finished out.2) := by
  induction hends generalizing steps with
  | @finished ixs result _ =>
    rw [workFor_of_idle]
    · exact hqueue
    · exact hbegun
  | @reached left ixs stage out _ ih =>
    obtain ⟨taken, htaken, hpass⟩ := workFor_reached h hbegun number depth ixs stage
    obtain ⟨rest, rfl⟩ := Nat.exists_eq_add_of_le (show taken ≤ steps by omega)
    rw [workFor_add, hpass]
    exact ih (by omega)

theorem settle_queued (h : e.Serving) {number : Nat} (hqueue : e.queue = [⟨number, t⟩])
    (hbegun : e.begun = []) : e.settle =
      ({ e with queue := [] } : Engine).resume number 0
        ((e.indexes.execute t).1, .finished (e.indexes.execute t).2) := by
  have hidle : e.begun.length < e.config.workers := by
    rw [hbegun]
    exact h.workers
  have hsteps : stepsPerTask * (e.queue.length + e.begun.length) = 4 + 1 := by
    rw [hqueue, hbegun]
    rfl
  rw [settle, hsteps, workFor, work_of_begun_nil hbegun, takeTask, if_pos hidle, hqueue]
  exact workFor_ends (e := { e with queue := [] }) { h with } rfl hbegun number 0
    (e.indexes.ends_start t) (Nat.le_refl 4)

/-- What becomes of an engine without other work that is given a task, and what it answers. -/
theorem Idle.perform_eq (h : e.Idle) (t : Task) : e.perform t =
    (({ e with
        queue := []
        accepted := e.accepted + 1
        statistics := e.statistics.setQueueDepth 1 } : Engine).resume e.accepted 0
          ((e.indexes.execute t).1, .finished (e.indexes.execute t).2),
      (e.indexes.execute t).2.map fun _ => ()) := by
  have hqueued : ({ e with
      queue := [⟨e.accepted, t⟩]
      accepted := e.accepted + 1
      statistics := e.statistics.setQueueDepth 1 } : Engine).Serving := { h with }
  have hanswer : ∀ (base : Engine) (out : Indexes × TaskResult),
      (base.resume e.accepted 0 (out.1, .finished out.2)).answer? e.accepted = some (out.2.map fun _ => ()) :=
    fun _ _ => List.lookup_cons_self
  rw [Engine.perform, h.submit t]
  dsimp only
  rw [settle_queued hqueued rfl h.begun, hanswer]
  rfl

/-- An engine without other work does to its indexes what the task does, and is without work again. -/
theorem Idle.perform (h : e.Idle) (t : Task) : (e.perform t).1.Idle ∧
    (e.perform t).1.config = e.config ∧ (e.perform t).1.indexes = (e.indexes.execute t).1 ∧
    (e.perform t).2 = (e.indexes.execute t).2.map fun _ => () := by
  rw [h.perform_eq t]
  exact ⟨⟨{ h with }, rfl, h.begun⟩, rfl, rfl, rfl⟩

def afterTasks (ixs : Indexes) (tasks : List Task) : Indexes :=
  tasks.foldl (fun ixs t => (ixs.execute t).1) ixs

theorem Idle.run (h : e.Idle) (tasks : List Task) :
    (e.run (tasks.map fun t => .write t [])).engine.Idle ∧
      (e.run (tasks.map fun t => .write t [])).engine.config = e.config ∧
      (e.run (tasks.map fun t => .write t [])).engine.indexes = afterTasks e.indexes tasks := by
  have hcalls : ∀ r : Run, r.engine.Idle →
      ((tasks.map fun t => Call.write t []).foldl Run.call r).engine.Idle ∧
        ((tasks.map fun t => Call.write t []).foldl Run.call r).engine.config = r.engine.config ∧
        ((tasks.map fun t => Call.write t []).foldl Run.call r).engine.indexes =
          afterTasks r.engine.indexes tasks := by
    induction tasks with
    | nil => exact fun r hr => ⟨hr, rfl, rfl⟩
    | cons t tasks ih =>
      intro r hr
      obtain ⟨hidle, hconfig, hindexes, -⟩ := hr.perform t
      have hcall : (r.call (.write t [])).engine = (r.engine.perform t).1 := rfl
      obtain ⟨hlast, hkept, hafter⟩ := ih (r.call (.write t [])) (hcall ▸ hidle)
      refine ⟨hlast, hkept.trans (hcall ▸ hconfig), hafter.trans ?_⟩
      rw [hcall, hindexes]
      rfl
  exact hcalls _ h

end Engine

end HybridSearch

import HybridSearch.Proofs.Engine.Beside

/-!
# Room for further embeddings

A task adds one embedding at most. If there is room for those of all tasks that have been accepted, the workers
never store too many.
-/
namespace HybridSearch

namespace VectorChange

variable {config : VectorConfig} {c : VectorChange} {g g' : Graph}

theorem Makes.length_le (h : c.Makes config g g') (hs : g.Sound config) (hs' : g'.Sound config)
    (hbreadth : 0 < config.buildBreadth) : g'.ids.length ≤ g.ids.length + 1 := by
  cases h with
  | @inserted id v level _ _ =>
    have hsub : (g.insert config id v level).ids ⊆ id :: g.ids := fun other hother =>
      List.mem_cons.mpr ((Graph.mem_ids_insert hs hbreadth).mp hother)
    exact hs'.fits.nodup_ids.length_le_of_subset hsub
  | @deleted id => exact Nat.le_succ_of_le (Graph.length_delete_le hs id)

end VectorChange

namespace Engine

variable {e e' : Engine} {g : Graph} {tenant : String} {task : Task}

/-- The places that are taken: those of the stored embeddings, and one for each task that is not finished. -/
def booked (e : Engine) : Nat := e.indexes.storedCount + e.queue.length + e.begun.length

theorem Idle.booked (h : e.Idle) : e.booked = e.indexes.storedCount := by
  rw [Engine.booked, h.queue, h.begun]
  rfl

theorem storedCount_le_booked (e : Engine) : e.indexes.storedCount ≤ e.booked := by
  rw [booked]
  omega

theorem booked_resume_le (base : Engine) (number depth : Nat) (part : Indexes × Progress) :
    (base.resume number depth part).booked ≤
      part.1.storedCount + base.queue.length + base.begun.length + 1 := by
  rw [resume]
  dsimp only
  split
  · rw [booked, List.length_append]
    exact Nat.le_refl _
  · exact Nat.le_succ _

theorem storedCount_of_touches {ixs : Indexes} {part : Indexes × Progress}
    {beside : TextTables → String → Prop} (h : ixs.Touches part beside) :
    part.1.storedCount = ixs.storedCount := by
  obtain ⟨text, hindexes, -⟩ := h
  rw [hindexes]
  rfl

theorem booked_proceed_le (base : Engine) (number depth : Nat) (ixs : Indexes) (stage : Stage)
    (changed : Except VectorError Unit) : (base.resume number depth (ixs.proceed stage changed)).booked ≤
      ixs.storedCount + base.queue.length + base.begun.length + 1 := by
  rw [← storedCount_of_touches (ixs.touches_proceed stage changed)]
  exact booked_resume_le base number depth _

theorem booked_proceed_entryWritten (base : Engine) (number depth : Nat) (ixs : Indexes) (d : Document)
    (changed : Except VectorError Unit) :
    (base.resume number depth (ixs.proceed (.entryWritten d) changed)).booked =
      ixs.storedCount + base.queue.length + base.begun.length := by
  rw [← storedCount_of_touches (ixs.touches_proceed (.entryWritten d) changed)]
  rfl

theorem storedCount_of_config {ixs : Indexes} {vector : VectorIndex}
    (hconfig : vector.config = ixs.vector.config) :
    ({ ixs with vector } : Indexes).storedCount = ixs.storedCount := by
  rw [Indexes.storedCount, Indexes.storedCount, hconfig]

theorem booked_takeTask_le (e : Engine) : e.takeTask.booked ≤ e.booked := by
  rw [takeTask]
  split
  · split
    · exact Nat.le_refl _
    · next job queue hqueue =>
      have hresume := booked_resume_le { e with queue } job.number queue.length (e.indexes.start job.task)
      rw [storedCount_of_touches (e.indexes.touches_start job.task)] at hresume
      have hbooked : e.booked = e.indexes.storedCount + (queue.length + 1) + e.begun.length := by
        rw [booked, hqueue, List.length_cons]
      exact hresume.trans (by dsimp only; omega)
  · exact Nat.le_refl _

theorem booked_of_begun {before after : List Assignment} {a : Assignment}
    (hbegun : e.begun = before ++ a :: after) :
    e.booked = e.indexes.storedCount + e.queue.length + (before ++ after).length + 1 := by
  rw [booked, hbegun, List.length_append, List.length_append, List.length_cons]
  omega

theorem Backs.booked_performWrite_le (h : e.Backs g) {before after : List Assignment} {a : Assignment}
    {commit : Commit} (hbegun : e.begun = before ++ a :: after) (hcommit : a.commit = some commit) :
    (e.performWrite a commit (before ++ after)).booked ≤ e.booked := by
  obtain ⟨-, g', hmakes, hholds⟩ := h.of_writing hbegun hcommit
  have hbreadth := h.ready.accepted.buildBreadth.1
  have hready := VectorChange.write_ready h.ready a.stage.change hholds
  rw [booked_of_begun hbegun, Indexes.storedCount_eq h.ready, Engine.performWrite]
  generalize a.stage.change.write e.indexes.vector e.indexes.store commit = o at hready
  have hcount : ∀ n, g.ids.length ≤ n → g'.ids.length ≤ n →
      ({ e.indexes with vector := o.index, store := o.store } : Indexes).storedCount ≤ n := by
    intro n hkept hmade
    rcases hready with hready | hready
    · rw [Indexes.storedCount_eq hready]
      exact hkept
    · rw [Indexes.storedCount_eq hready]
      exact hmade
  cases hstage : a.stage with
  | entryWritten d =>
    have hmost := hcount _ (Nat.le_succ _)
      (hmakes.length_le h.ready.holds.sound hholds.sound hbreadth)
    refine (Nat.le_of_eq (booked_proceed_entryWritten _ _ _ _ d _)).trans ?_
    refine (Nat.add_le_add_right (Nat.add_le_add_right hmost _) _).trans (Nat.le_of_eq ?_)
    dsimp only
    omega
  | entryRemoved id replacement =>
    rw [hstage] at hmakes
    have hfewer : g'.ids.length ≤ g.ids.length := by
      cases hmakes with
      | deleted => exact Graph.length_delete_le h.ready.holds.sound id
    have hmost := hcount _ (Nat.le_refl _) hfewer
    refine (booked_proceed_le _ _ _ _ _ _).trans ?_
    exact Nat.add_le_add_right (Nat.add_le_add_right (Nat.add_le_add_right hmost _) _) _

theorem Backs.booked_moveWorker_le (h : e.Backs g) (position : Nat) :
    (e.moveWorker position).booked ≤ e.booked := by
  have hmove := e.move_moveWorker position
  generalize e.moveWorker position = e' at hmove
  cases hmove with
  | still => exact Nat.le_refl _
  | @prepared before after a vector commit hbegun hfree hprepare =>
    have hconfig := a.stage.change.prepare_config e.indexes.vector e.indexes.store
    rw [hprepare] at hconfig
    rw [booked_of_begun hbegun, booked_of_begun rfl]
    dsimp only
    rw [storedCount_of_config hconfig]
  | @passed before after a vector changed hbegun hfree hconfig =>
    rw [booked_of_begun hbegun]
    refine (booked_proceed_le _ _ _ _ _ _).trans ?_
    rw [storedCount_of_config hconfig]
  | written hbegun hcommit => exact h.booked_performWrite_le hbegun hcommit

theorem Backs.booked_work_le (h : e.Backs g) : e.work.booked ≤ e.booked := by
  rw [work]
  split
  · exact h.booked_moveWorker_le _
  · exact e.booked_takeTask_le

theorem turnBeside_work (e : Engine) (tenant : String) : e.TurnBeside tenant e.work := by
  rw [work]
  split
  · exact .moveWorker _
  · exact .takeTask

/-- As long as there is room, the workers store no more embeddings than are searched exactly. -/
theorem RunsBeside.workFor (h : e.RunsBeside tenant e') (hbacks : e'.Backs g)
    (hroom : e'.booked ≤ e'.indexes.exactCount) (steps : Nat) : e.RunsBeside tenant (workFor steps e') := by
  induction steps generalizing e' g with
  | zero => exact h
  | succ steps ih =>
    obtain ⟨g', hadvances⟩ := (e'.turnBeside_work tenant).turn.advances hbacks
    have hcount : e'.work.indexes.exactCount = e'.indexes.exactCount := by
      rw [Indexes.exactCount, Indexes.exactCount, hadvances.embeddings]
    have hnext : e'.work.booked ≤ e'.work.indexes.exactCount := by
      rw [hcount]
      exact hbacks.booked_work_le.trans hroom
    refine ih (h.turn (e'.turnBeside_work tenant) ?_) hadvances.backs hnext
    exact (storedCount_le_booked _).trans hnext

theorem Backs.runsBeside_perform (h : e.Backs g) (hbeside : task.Beside e.indexes.text.tables tenant)
    (hroom : e.booked + 1 ≤ e.indexes.exactCount) : e.RunsBeside tenant (e.perform task).1 := by
  rw [perform]
  cases hsubmit : e.submit task with
  | error cause => exact .refl
  | ok out =>
    obtain ⟨e', number⟩ := out
    obtain ⟨g', hadvances⟩ := (Turn.submit hsubmit).advances h
    have hturn : e.TurnBeside tenant e' := .submit hbeside hsubmit
    obtain rfl := submit_ok hsubmit
    have hbooked : (e.enqueue task).booked ≤ (e.enqueue task).indexes.exactCount := by
      rw [booked, enqueue]
      dsimp only
      rw [List.length_append, List.length_singleton]
      rw [booked] at hroom
      omega
    refine RunsBeside.workFor (.turn .refl hturn ?_) hadvances.backs hbooked _
    exact (storedCount_le_booked _).trans hbooked

theorem RunsExactly.beside (h : e.RunsExactly) (hrun : e.RunsBeside tenant e') : e'.RunsExactly := by
  induction hrun with
  | refl => exact h
  | turn _ hturn hfew ih => exact .turn ih hturn.turn hfew

end Engine

end HybridSearch

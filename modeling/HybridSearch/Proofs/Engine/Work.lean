import HybridSearch.Engine.Engine
import HybridSearch.Proofs.Engine.Stages

/-!
# A task at the workers

An engine without other work takes a task through its stages in at most five steps of its workers, during
which the writes of the vector store may fail or not. It is idle again afterwards and has an answer for
the task.
-/
namespace HybridSearch.Engine

/-- From now on the writes of the vector store fail with a fault, or succeed. -/
def withWriteFault (e : Engine) (fault : Option StoreFault) : Engine :=
  { e with indexes := { e.indexes with
    store := { e.indexes.store with faults := { write := fault } } } }

def workUnder : List (Option StoreFault) → Engine → Engine
  | [], e => e
  | fault :: faults, e => workUnder faults (e.withWriteFault fault).work

/-- Submits a task and waits for its answer, while the store fails or not from step to step. -/
def performUnder (e : Engine) (task : Task) (faults : List (Option StoreFault)) :
    Engine × Except EngineError Unit :=
  match e.submit task with
  | .error cause => (e, .error cause)
  | .ok (e, number) =>
    let e := (workUnder faults e).settle
    (e, (e.answer? number).getD (.error .shutDown))

theorem performUnder_nil (e : Engine) (task : Task) : e.performUnder task [] = e.perform task := rfl

/-- An engine that takes tasks and works on them. -/
structure Serving (e : Engine) : Prop where
  isOpen : e.isOpen = true
  isHeld : e.isHeld = false
  workers : 0 < e.config.workers
  room : 0 < e.config.queueSize

structure Idle (e : Engine) : Prop extends e.Serving where
  queue : e.queue = []
  begun : e.begun = []

/-- How far a task has come, by the steps that are left at most. -/
inductive Phase (mayFail : Prop) (s : Holding) (t : Task) (number : Nat) : Nat → Engine → Prop
  | queued {e : Engine} (hqueue : e.queue = [⟨number, t⟩]) (hbegun : e.begun = [])
      (h : e.indexes.Holds s) : Phase mayFail s t number 5 e
  | stopped {e : Engine} {depth : Nat} {stage : Stage} {s' : Holding} (hqueue : e.queue = [])
      (hbegun : e.begun = [⟨number, depth, stage, none⟩]) (h : e.indexes.Holds s')
      (hstage : t.Reaches e.indexes.vector.config s stage s') :
      Phase mayFail s t number stage.stepsLeft e
  | writing {e : Engine} {depth : Nat} {stage : Stage} {commit : Commit} {s' : Holding}
      (hqueue : e.queue = []) (hbegun : e.begun = [⟨number, depth, stage, some commit⟩])
      (h : e.indexes.Holds s') (hstage : t.Reaches e.indexes.vector.config s stage s')
      (hwritten : ∀ sync, (e.indexes.written commit.batch sync).Holds (stage.change.apply s')) :
      Phase mayFail s t number (stage.stepsLeft - 1) e
  | answered {e : Engine} {result : Except EngineError Unit} {s' : Holding} (hqueue : e.queue = [])
      (hbegun : e.begun = []) (h : e.indexes.Holds s') (heffect : t.Effect mayFail s result s')
      (hanswer : e.answer? number = some result) : Phase mayFail s t number 0 e

/-- An engine that has one task, with at most so many steps left. -/
structure Pending (mayFail : Prop) (s : Holding) (t : Task) (number left : Nat) (e : Engine) : Prop
    extends e.Serving where
  faulty : e.indexes.store.faults.write ≠ none → mayFail
  phase : ∃ n ≤ left, Phase mayFail s t number n e

variable {e : Engine} {mayFail : Prop} {s s' : Holding} {t : Task} {number depth left : Nat}

theorem Pending.mono (h : e.Pending mayFail s t number left) {more : Nat} (hmore : left ≤ more) :
    e.Pending mayFail s t number more := by
  obtain ⟨n, hn, hphase⟩ := h.phase
  exact ⟨h.toServing, h.faulty, n, Nat.le_trans hn hmore, hphase⟩

theorem work_of_begun_nil (h : e.begun = []) : e.work = e.takeTask := by
  rw [work, h]
  rfl

theorem work_of_begun {a : Assignment} (h : e.begun = [a]) (hmove : e.canMove a = true) :
    e.work = e.moveWorker 0 := by
  have hfind : e.begun.findIdx? e.canMove = some 0 := by
    rw [h]
    simp [List.findIdx?_cons, hmove]
  rw [work, hfind]

theorem work_of_stopped {stage : Stage} (h : e.begun = [⟨number, depth, stage, none⟩]) :
    e.work = e.prepareWrite ⟨number, depth, stage, none⟩ [] [] := by
  have hmove : e.canMove ⟨number, depth, stage, none⟩ = true := by
    simp [canMove, isWriting, h]
  rw [work_of_begun h hmove]
  simp [moveWorker, h, hmove]

theorem work_of_writing {stage : Stage} {commit : Commit} (hheld : e.isHeld = false)
    (h : e.begun = [⟨number, depth, stage, some commit⟩]) :
    e.work = e.performWrite ⟨number, depth, stage, some commit⟩ commit [] := by
  have hmove : e.canMove ⟨number, depth, stage, some commit⟩ = true := by
    simp [canMove, hheld]
  rw [work_of_begun h hmove]
  simp [moveWorker, h, hmove]

theorem Serving.resume (h : e.Serving) (number depth : Nat) (part : Indexes × Progress) :
    (e.resume number depth part).Serving := by
  rw [Engine.resume]
  split
  · exact { h with }
  · exact { h with }

theorem pending_resume (hserving : e.Serving) (hqueue : e.queue = []) (hbegun : e.begun = [])
    (number depth : Nat) {ixs : Indexes} {progress : Progress} (h : ixs.Holds s')
    (hleads : t.Leads mayFail ixs.vector.config s left progress s')
    (hfaulty : ixs.store.faults.write ≠ none → mayFail) :
    (e.resume number depth (ixs, progress)).Pending mayFail s t number left := by
  cases hleads with
  | @reached stage _ hstage hleft =>
    refine ⟨hserving.resume _ _ _, hfaulty, stage.stepsLeft, hleft, ?_⟩
    exact .stopped hqueue (congrArg (· ++ [_]) hbegun) h hstage
  | @finished result _ heffect =>
    refine ⟨hserving.resume _ _ _, hfaulty, 0, Nat.zero_le _, ?_⟩
    exact .answered hqueue hbegun h heffect List.lookup_cons_self

theorem pending_takeTask (hserving : e.Serving) (hfaulty : e.indexes.store.faults.write ≠ none → mayFail)
    (hqueue : e.queue = [⟨number, t⟩]) (hbegun : e.begun = []) (h : e.indexes.Holds s) :
    e.takeTask.Pending mayFail s t number 4 := by
  obtain ⟨text, progress, s', hstart, hholds, hleads⟩ := h.start mayFail t
  have hidle : e.begun.length < e.config.workers := by
    rw [hbegun]
    exact hserving.workers
  rw [takeTask, if_pos hidle, hqueue]
  show (({ e with queue := [] } : Engine).resume number 0 (e.indexes.start t)).Pending mayFail s t number 4
  rw [hstart]
  exact pending_resume (e := { e with queue := [] }) { hserving with } rfl hbegun number 0
    hholds hleads hfaulty

theorem pending_prepareWrite (hserving : e.Serving)
    (hfaulty : e.indexes.store.faults.write ≠ none → mayFail) (hqueue : e.queue = []) {stage : Stage}
    (h : e.indexes.Holds s') (hstage : t.Reaches e.indexes.vector.config s stage s') :
    (e.prepareWrite ⟨number, depth, stage, none⟩ [] []).Pending mayFail s t number
      (stage.stepsLeft - 1) := by
  obtain ⟨vector, hconfig, hcase⟩ := h.prepare hstage.allowed
  have hmoved : ({ e.indexes with vector } : Indexes).Holds s' := h.withVector hconfig
  have hreached : t.Reaches vector.config s stage s' := hconfig ▸ hstage
  rcases hcase with ⟨hprepare, hsame⟩ | ⟨commit, hprepare, hwritten⟩
  · rw [← hsame] at hmoved
    obtain ⟨text, progress, s'', hproceed, hholds, hleads⟩ := hmoved.proceed_ok mayFail hreached
    rw [prepareWrite]
    simp only [hprepare, hproceed]
    have hresumed := pending_resume (e := { e with begun := [] }) { hserving with } hqueue rfl number
      depth hholds hleads hfaulty
    exact hresumed.mono (by omega)
  · rw [prepareWrite]
    simp only [hprepare]
    refine ⟨{ hserving with }, hfaulty, stage.stepsLeft - 1, Nat.le_refl _, ?_⟩
    exact .writing hqueue rfl hmoved hreached fun sync => (hwritten sync).withVector hconfig

theorem pending_performWrite (hserving : e.Serving)
    (hfaulty : e.indexes.store.faults.write ≠ none → mayFail) (hqueue : e.queue = []) {stage : Stage}
    {commit : Commit} (h : e.indexes.Holds s') (hstage : t.Reaches e.indexes.vector.config s stage s')
    (hwritten : ∀ sync, (e.indexes.written commit.batch sync).Holds (stage.change.apply s')) :
    (e.performWrite ⟨number, depth, stage, some commit⟩ commit []).Pending mayFail s t number
      (stage.stepsLeft - 2) := by
  have hserving' : ({ e with begun := [] } : Engine).Serving := { hserving with }
  obtain ⟨o, ho, hconfig, hfaults, hcase⟩ := h.write (c := stage.change) hwritten
  have hreached : t.Reaches o.index.config s stage s' := hconfig ▸ hstage
  rw [performWrite]
  simp only [ho]
  rcases hcase with ⟨fault, hfault, hresult, hkept⟩ | ⟨hresult, hchanged⟩
  · have hfail : mayFail := hfaulty (by rw [hfault]; exact Option.some_ne_none _)
    obtain ⟨text, progress, s'', hproceed, hholds, hleads⟩ :=
      hkept.proceed_error hreached hfail fault (stage.stepsLeft - 2)
    rw [hresult, hproceed]
    exact pending_resume hserving' hqueue rfl number depth hholds hleads (hfaults ▸ hfaulty)
  · obtain ⟨text, progress, s'', hproceed, hholds, hleads⟩ := hchanged.proceed_ok mayFail hreached
    rw [hresult, hproceed]
    exact pending_resume hserving' hqueue rfl number depth hholds hleads (hfaults ▸ hfaulty)

theorem workFor_of_idle (hqueue : e.queue = []) (hbegun : e.begun = []) (steps : Nat) :
    workFor steps e = e := by
  have hwork : e.work = e := by
    rw [work_of_begun_nil hbegun, takeTask, hqueue, ite_self]
  induction steps with
  | zero => rfl
  | succ steps ih => rw [workFor, hwork, ih]

theorem Pending.work (h : e.Pending mayFail s t number left) :
    e.work.Pending mayFail s t number (left - 1) := by
  obtain ⟨n, hn, hphase⟩ := h.phase
  cases hphase with
  | queued hqueue hbegun hholds =>
    rw [work_of_begun_nil hbegun]
    exact (pending_takeTask h.toServing h.faulty hqueue hbegun hholds).mono (by omega)
  | stopped hqueue hbegun hholds hstage =>
    rw [work_of_stopped hbegun]
    exact (pending_prepareWrite h.toServing h.faulty hqueue hholds hstage).mono (by omega)
  | writing hqueue hbegun hholds hstage hwritten =>
    rw [work_of_writing h.isHeld hbegun]
    exact (pending_performWrite h.toServing h.faulty hqueue hholds hstage hwritten).mono (by omega)
  | answered hqueue hbegun hholds heffect hanswer =>
    have hsame : e.work = e := by
      rw [work_of_begun_nil hbegun, takeTask, hqueue, ite_self]
    rw [hsame]
    exact ⟨h.toServing, h.faulty, 0, Nat.zero_le _, .answered hqueue hbegun hholds heffect hanswer⟩

theorem Pending.workFor (h : e.Pending mayFail s t number left) (steps : Nat) :
    (workFor steps e).Pending mayFail s t number (left - steps) := by
  induction steps generalizing e left with
  | zero => exact h
  | succ steps ih =>
    rw [Engine.workFor, show left - (steps + 1) = left - 1 - steps by omega]
    exact ih h.work

theorem Pending.withWriteFault (h : e.Pending mayFail s t number left) {fault : Option StoreFault}
    (hfault : fault ≠ none → mayFail) : (e.withWriteFault fault).Pending mayFail s t number left := by
  obtain ⟨n, hn, hphase⟩ := h.phase
  refine ⟨{ h with }, hfault, n, hn, ?_⟩
  cases hphase with
  | queued hqueue hbegun hholds => exact .queued hqueue hbegun (hholds.withWriteFault fault)
  | stopped hqueue hbegun hholds hstage =>
    exact .stopped hqueue hbegun (hholds.withWriteFault fault) hstage
  | writing hqueue hbegun hholds hstage hwritten =>
    exact .writing hqueue hbegun (hholds.withWriteFault fault) hstage
      fun sync => (hwritten sync).withWriteFault fault
  | answered hqueue hbegun hholds heffect hanswer =>
    exact .answered hqueue hbegun (hholds.withWriteFault fault) heffect hanswer

theorem Pending.workUnder (h : e.Pending mayFail s t number left) {faults : List (Option StoreFault)}
    (hfaults : ∀ fault ∈ faults, fault ≠ none → mayFail) :
    (workUnder faults e).Pending mayFail s t number left := by
  induction faults generalizing e with
  | nil => exact h
  | cons fault faults ih =>
    have hstep := (h.withWriteFault (hfaults fault List.mem_cons_self)).work
    exact ih (hstep.mono (Nat.sub_le _ _)) fun f hf => hfaults f (List.mem_cons_of_mem _ hf)

theorem Pending.settle (h : e.Pending mayFail s t number stepsPerTask) :
    e.settle.Pending mayFail s t number 0 := by
  have hbusy : e.queue.length + e.begun.length = 1 → e.settle.Pending mayFail s t number 0 := by
    intro hone
    have hsteps := h.workFor (stepsPerTask * (e.queue.length + e.begun.length))
    rw [hone, Nat.mul_one, Nat.sub_self] at hsteps
    rw [Engine.settle, hone]
    exact hsteps
  obtain ⟨n, hn, hphase⟩ := h.phase
  cases hphase with
  | queued hqueue hbegun _ => exact hbusy (by rw [hqueue, hbegun]; rfl)
  | stopped hqueue hbegun _ _ => exact hbusy (by rw [hqueue, hbegun]; rfl)
  | writing hqueue hbegun _ _ _ => exact hbusy (by rw [hqueue, hbegun]; rfl)
  | answered hqueue hbegun hholds heffect hanswer =>
    have hdone : e.Pending mayFail s t number 0 :=
      ⟨h.toServing, h.faulty, 0, Nat.le_refl 0, .answered hqueue hbegun hholds heffect hanswer⟩
    have hsteps := hdone.workFor (stepsPerTask * (e.queue.length + e.begun.length))
    rw [Nat.zero_sub] at hsteps
    exact hsteps

theorem Pending.answered (h : e.Pending mayFail s t number 0) : e.Idle ∧ ∃ result s',
    e.answer? number = some result ∧ t.Effect mayFail s result s' ∧ e.indexes.Holds s' := by
  obtain ⟨n, hn, hphase⟩ := h.phase
  cases hphase with
  | queued hqueue hbegun hholds => omega
  | @stopped _ _ stage _ _ _ _ _ => cases stage <;> cases hn
  | @writing _ _ stage _ _ _ _ _ _ _ => cases stage <;> cases hn
  | answered hqueue hbegun hholds heffect hanswer =>
    exact ⟨⟨h.toServing, hqueue, hbegun⟩, _, _, hanswer, heffect, hholds⟩

theorem Idle.submit (h : e.Idle) (t : Task) :
    e.submit t = .ok ({ e with
      queue := [⟨e.accepted, t⟩]
      accepted := e.accepted + 1
      statistics := e.statistics.setQueueDepth 1 }, e.accepted) := by
  have hstopped : e.hasStopped = false := by
    rw [hasStopped, h.isOpen]
    rfl
  have hroom : ¬e.config.queueSize ≤ e.queue.length := by
    rw [h.queue]
    exact Nat.not_le.mpr h.room
  rw [Engine.submit, if_pos h.isOpen, send, hstopped, if_neg Bool.false_ne_true, if_neg hroom, enqueue,
    h.queue]
  rfl

/-- An idle engine carries a task out, or fails as far as its store does, and is idle again. -/
theorem Idle.performUnder (h : e.Idle) (hholds : e.indexes.Holds s) (t : Task)
    {faults : List (Option StoreFault)}
    (hfaults : ∀ fault ∈ e.indexes.store.faults.write :: faults, fault ≠ none → mayFail) :
    ∃ e' result s', e.performUnder t faults = (e', result) ∧ e'.Idle ∧ e'.indexes.Holds s' ∧
      t.Effect mayFail s result s' ∧ (e'.indexes.store.faults.write ≠ none → mayFail) := by
  have hfaulty := hfaults _ List.mem_cons_self
  have hqueued : ({ e with
      queue := [⟨e.accepted, t⟩]
      accepted := e.accepted + 1
      statistics := e.statistics.setQueueDepth 1 } : Engine).Pending mayFail s t e.accepted stepsPerTask :=
    ⟨{ h with }, hfaulty, 5, Nat.le_refl 5, .queued rfl h.begun hholds⟩
  have hsettled := (hqueued.workUnder fun f hf => hfaults f (List.mem_cons_of_mem _ hf)).settle
  obtain ⟨hidle, result, s', hanswer, heffect, hholds'⟩ := hsettled.answered
  refine ⟨_, result, s', ?_, hidle, hholds', heffect, hsettled.faulty⟩
  rw [Engine.performUnder, h.submit t]
  simp only [hanswer, Option.getD_some]

end HybridSearch.Engine

import HybridSearch.Engine.Engine
import HybridSearch.Proofs.Engine.Checks
import Mathlib.Algebra.GroupWithZero.Nat

/-!
# What a step of a worker does

A worker takes the first task of the queue, or goes on with a task that it has begun: it works out the next
write, or it takes the task to a later stage or to its end. Every step leaves less to do.
-/
namespace HybridSearch

theorem eq_take_cons_drop {α : Type} {xs : List α} {place : Nat} {x : α} (h : xs[place]? = some x) :
    xs = xs.take place ++ x :: xs.drop (place + 1) := by
  obtain ⟨hlt, hx⟩ := List.getElem?_eq_some_iff.mp h
  rw [← hx, List.getElem_cons_drop, List.take_append_drop]

/-- A write that a change may work out, whatever the vector index and its store hold. -/
def VectorChange.WorksOut (config : VectorConfig) (c : VectorChange) (commit : Commit) : Prop :=
  ∃ ix store, ix.config = config ∧ (c.prepare ix store).2 = .ok (some commit)

/-- What a change of the vector index may come to. -/
inductive VectorChange.Gives (config : VectorConfig) (c : VectorChange) : Except VectorError Unit → Prop
  | nothing {ix : VectorIndex} {store : StoreHandle} (hconfig : ix.config = config)
      (hprepare : (c.prepare ix store).2 = .ok none) : Gives config c (.ok ())
  | refused {ix : VectorIndex} {store : StoreHandle} {cause : VectorError} (hconfig : ix.config = config)
      (hprepare : (c.prepare ix store).2 = .error cause) : Gives config c (.error cause)
  | written {commit : Commit} (hcommit : c.WorksOut config commit) (ix : VectorIndex)
      (store : StoreHandle) : Gives config c (c.write ix store commit).result

/-- What the execution of a task comes to, whatever others do with the indexes between its parts. -/
inductive Task.Comes (config : VectorConfig) (t : Task) : Progress → Prop
  | starts {ixs : Indexes} (hconfig : ixs.vector.config = config) : Comes config t (ixs.start t).2
  | proceeds {ixs : Indexes} {stage : Stage} {changed : Except VectorError Unit}
      (hconfig : ixs.vector.config = config) (hstage : Comes config t (.reached stage))
      (hchanged : stage.change.Gives config changed) : Comes config t (ixs.proceed stage changed).2

variable {config : VectorConfig} {t : Task}

theorem VectorChange.Gives.isInternal {c : VectorChange} {changed : Except VectorError Unit}
    (h : c.Gives config changed) (hallowed : c.Allowed config) {cause : VectorError}
    (hcause : changed = .error cause) : cause.IsInternal := by
  cases h with
  | nothing _ _ => cases hcause
  | refused hconfig hprepare =>
    obtain rfl := Except.error.inj hcause
    exact prepare_isInternal (hconfig ▸ hallowed) hprepare
  | written _ _ _ => exact write_isInternal hcause

namespace Task.Comes

theorem proper {progress : Progress} (h : t.Comes config progress) (ht : t.Proper config) :
    ∃ left, progress.Proper config left := by
  induction h with
  | starts hconfig =>
    obtain ⟨text, progress, hstart, hprogress⟩ := Indexes.start_proper (hconfig ▸ ht)
    rw [hstart]
    exact ⟨4, hconfig ▸ hprogress⟩
  | proceeds hconfig _ hchanged ih =>
    obtain ⟨left, hleft⟩ := ih
    cases hleft with
    | reached hstage _ =>
      obtain ⟨text, progress, hproceed, hprogress⟩ := Indexes.proceed_proper (hconfig ▸ hstage)
        fun cause => hchanged.isInternal hstage.change
      rw [hproceed]
      exact ⟨_, hconfig ▸ hprogress⟩

theorem refused {progress : Progress} (h : t.Comes config progress) (ht : ¬t.Proper config) :
    ∃ e, e.isValidation = true ∧ progress = .finished (.error e) := by
  induction h with
  | starts hconfig =>
    obtain ⟨e, he, hstart⟩ := Indexes.start_refused (hconfig ▸ ht)
    exact ⟨e, he, congrArg Prod.snd hstart⟩
  | proceeds _ _ _ ih =>
    obtain ⟨e, -, hstage⟩ := ih
    cases hstage

theorem proper_of_reached {stage : Stage} (h : t.Comes config (.reached stage)) :
    t.Proper config ∧ stage.Proper config := by
  by_cases ht : t.Proper config
  · obtain ⟨left, hleft⟩ := h.proper ht
    cases hleft with
    | reached hstage _ => exact ⟨ht, hstage⟩
  · obtain ⟨e, -, hstage⟩ := h.refused ht
    cases hstage

/-- A task comes to a validation error exactly when its checks refuse it. -/
theorem isValidation_iff {e : EngineError} (h : t.Comes config (.finished (.error e))) :
    e.isValidation = true ↔ ¬t.Proper config := by
  refine ⟨fun he ht => ?_, fun ht => ?_⟩
  · obtain ⟨left, hleft⟩ := h.proper ht
    cases hleft with
    | finished hresult =>
      have hfailure := (hresult e rfl).isValidation_eq
      rw [he] at hfailure
      cases hfailure
  · obtain ⟨cause, hcause, hresult⟩ := h.refused ht
    cases hresult
    exact hcause

theorem not_isRefusal {e : EngineError} (h : t.Comes config (.finished (.error e))) : ¬e.IsRefusal := by
  intro hrefusal
  by_cases ht : t.Proper config
  · obtain ⟨left, hleft⟩ := h.proper ht
    cases hleft with
    | finished hresult => exact (hresult e rfl).not_isRefusal hrefusal
  · have hvalidation := h.isValidation_iff.mpr ht
    rw [hrefusal.isValidation_eq] at hvalidation
    cases hvalidation

end Task.Comes

/-- A task that a worker has begun is at one of its stages; what it is about to write was worked out there. -/
structure Assignment.Carries (config : VectorConfig) (a : Assignment) (t : Task) : Prop where
  stage : t.Comes config (.reached a.stage)
  commit : ∀ commit, a.commit = some commit → a.stage.change.WorksOut config commit

/-- The steps that are left for a task that has been begun. -/
def Assignment.stepsLeft (a : Assignment) : Nat :=
  match a.commit with
  | some _ => a.stage.stepsLeft - 1
  | none => a.stage.stepsLeft

namespace Engine

variable {e e' : Engine} {number depth left : Nat}

def stepsLeft (e : Engine) : Nat :=
  stepsPerTask * e.queue.length + (e.begun.map Assignment.stepsLeft).sum

/-- What no worker changes. -/
structure SameSettings (e e' : Engine) : Prop where
  config : e'.config = e.config
  isHeld : e'.isHeld = e.isHeld
  embeddings : e'.indexes.vector.config = e.indexes.vector.config

theorem SameSettings.refl (e : Engine) : e.SameSettings e := ⟨rfl, rfl, rfl⟩

theorem SameSettings.trans {e₁ e₂ e₃ : Engine} (h : e₁.SameSettings e₂) (h' : e₂.SameSettings e₃) :
    e₁.SameSettings e₃ :=
  ⟨h'.config.trans h.config, h'.isHeld.trans h.isHeld, h'.embeddings.trans h.embeddings⟩

/-- A part of a task has been done, and the indexes are as it left them: the task stops at a stage, or it has
come to its end. -/
inductive GoesOn (t : Task) (number depth left : Nat) (e : Engine) : Engine → Prop
  | reached {stage : Stage} (hcomes : t.Comes e.indexes.vector.config (.reached stage))
      (hleft : stage.stepsLeft ≤ left) :
      GoesOn t number depth left e { e with begun := e.begun ++ [⟨number, depth, stage, none⟩] }
  | finished {result : TaskResult} (hcomes : t.Comes e.indexes.vector.config (.finished result)) :
      GoesOn t number depth left e (e.finish number depth result)

theorem goesOn_resume (ixs : Indexes) {progress : Progress} (hcomes : t.Comes ixs.vector.config progress)
    (hprogress : progress.Proper ixs.vector.config left) (e : Engine) :
    GoesOn t number depth left { e with indexes := ixs } (e.resume number depth (ixs, progress)) := by
  cases hprogress with
  | reached _ hleft => exact .reached hcomes hleft
  | finished _ => exact .finished hcomes

/-- The tasks that have been begun, and those that have been answered. -/
def numbers (e : Engine) : List Nat := e.begun.map Assignment.number ++ e.answers.map Prod.fst

theorem mem_answers_of_answer? {result : Except EngineError Unit} (h : e.answer? number = some result) :
    (number, result) ∈ e.answers := by
  obtain ⟨before, after, hanswers, -⟩ := List.lookup_eq_some_iff.mp h
  exact hanswers ▸ List.mem_append_right _ List.mem_cons_self

theorem answer?_isSome (h : number ∈ e.answers.map Prod.fst) : (e.answer? number).isSome = true := by
  rw [Option.isSome_iff_ne_none]
  intro hnone
  obtain ⟨answer, hmem, rfl⟩ := List.mem_map.mp h
  have hother := List.lookup_eq_none_iff.mp hnone answer hmem
  rw [bne_self_eq_false] at hother
  cases hother

namespace GoesOn

variable (h : GoesOn t number depth left e e')
include h

theorem frame : ∃ begun answers statistics, e' = { e with begun, answers, statistics } := by
  cases h with
  | reached _ _ => exact ⟨_, _, _, rfl⟩
  | finished _ => exact ⟨_, _, _, rfl⟩

theorem numbers_perm : e'.numbers.Perm (number :: e.numbers) := by
  cases h with
  | reached _ _ =>
    rw [numbers, numbers, List.map_append, List.append_assoc]
    exact List.perm_middle
  | finished _ => exact List.perm_middle

theorem length_begun : e'.begun.length ≤ e.begun.length + 1 := by
  cases h with
  | reached _ _ => exact Nat.le_of_eq List.length_append
  | finished _ => exact Nat.le_succ _

theorem of_mem_begun {a : Assignment} (ha : a ∈ e'.begun) :
    a ∈ e.begun ∨ a.number = number ∧ a.Carries e.indexes.vector.config t := by
  cases h with
  | reached hcomes _ =>
    rcases List.mem_append.mp ha with hold | hnew
    · exact .inl hold
    · obtain rfl := List.mem_singleton.mp hnew
      exact .inr ⟨rfl, hcomes, fun commit hcommit => by cases hcommit⟩
  | finished _ => exact .inl ha

theorem of_mem_answers {answer : Nat × Except EngineError Unit} (hanswer : answer ∈ e'.answers) :
    answer ∈ e.answers ∨ answer.1 = number ∧ ∃ result,
      t.Comes e.indexes.vector.config (.finished result) ∧ answer.2 = result.map fun _ => () := by
  cases h with
  | reached _ _ => exact .inl hanswer
  | finished hcomes =>
    rcases List.mem_cons.mp hanswer with rfl | hold
    · exact .inr ⟨rfl, _, hcomes, rfl⟩
    · exact .inl hold

theorem mem_answers {answer : Nat × Except EngineError Unit} (hanswer : answer ∈ e.answers) :
    answer ∈ e'.answers := by
  cases h with
  | reached _ _ => exact hanswer
  | finished _ => exact List.mem_cons_of_mem _ hanswer

theorem stepsLeft_le : e'.stepsLeft ≤ e.stepsLeft + left := by
  cases h with
  | reached _ hleft =>
    simp only [stepsLeft, List.map_append, List.map_cons, List.map_nil, List.sum_append,
      List.sum_singleton, Assignment.stepsLeft]
    omega
  | finished _ => exact Nat.le_add_right _ _

end GoesOn

theorem takeTask_eq {job : Job} {rest : List Job} (hidle : e.begun.length < e.config.workers)
    (hqueue : e.queue = job :: rest) : e.takeTask =
      ({ e with queue := rest } : Engine).resume job.number rest.length (e.indexes.start job.task) := by
  rw [takeTask, if_pos hidle, hqueue]

theorem takeTask_refused {job : Job} {rest : List Job} (hidle : e.begun.length < e.config.workers)
    (hqueue : e.queue = job :: rest) (h : ¬job.task.Proper e.indexes.vector.config) :
    ∃ cause, cause.isValidation = true ∧ e.takeTask = { e with
      queue := rest
      answers := (job.number, .error cause) :: e.answers
      statistics := e.statistics.recordFailure rest.length } := by
  obtain ⟨cause, hcause, hstart⟩ := Indexes.start_refused h
  refine ⟨cause, hcause, ?_⟩
  rw [takeTask_eq hidle hqueue, hstart]
  rfl

theorem takeTask_goesOn {job : Job} {rest : List Job} (hidle : e.begun.length < e.config.workers)
    (hqueue : e.queue = job :: rest) : ∃ text, GoesOn job.task job.number rest.length 4
      { e with queue := rest, indexes := { e.indexes with text } } e.takeTask := by
  have hcomes : job.task.Comes e.indexes.vector.config (e.indexes.start job.task).2 := .starts rfl
  rw [takeTask_eq hidle hqueue]
  by_cases h : job.task.Proper e.indexes.vector.config
  · obtain ⟨text, progress, hstart, hprogress⟩ := Indexes.start_proper h
    rw [hstart] at hcomes ⊢
    exact ⟨text, goesOn_resume { e.indexes with text } hcomes hprogress { e with queue := rest }⟩
  · obtain ⟨cause, -, hstart⟩ := Indexes.start_refused h
    rw [hstart] at hcomes ⊢
    exact ⟨e.indexes.text, .finished hcomes⟩

theorem takeTask_sameSettings {job : Job} {rest : List Job} (hidle : e.begun.length < e.config.workers)
    (hqueue : e.queue = job :: rest) : e.SameSettings e.takeTask := by
  obtain ⟨text, hgoes⟩ := takeTask_goesOn hidle hqueue
  obtain ⟨begun, answers, statistics, hframe⟩ := hgoes.frame
  rw [hframe]
  exact ⟨rfl, rfl, rfl⟩

variable {a : Assignment}

theorem proceed_goesOn (ixs : Indexes) (hconfig : ixs.vector.config = e.indexes.vector.config)
    (ha : a.Carries e.indexes.vector.config t) {changed : Except VectorError Unit}
    (hchanged : a.stage.change.Gives e.indexes.vector.config changed) (others : List Assignment) :
    ∃ ixs', ixs'.vector.config = e.indexes.vector.config ∧
      GoesOn t a.number a.depth (a.stage.stepsLeft - 2) { e with
        indexes := ixs'
        begun := others } (({ e with begun := others } : Engine).resume a.number a.depth
          (ixs.proceed a.stage changed)) := by
  have hproper := ha.stage.proper_of_reached.2
  have hcomes : t.Comes e.indexes.vector.config (ixs.proceed a.stage changed).2 :=
    .proceeds hconfig ha.stage hchanged
  obtain ⟨text, progress, hproceed, hprogress⟩ := Indexes.proceed_proper (hconfig ▸ hproper)
    fun cause => hchanged.isInternal hproper.change
  rw [hproceed] at hcomes ⊢
  exact ⟨{ ixs with text }, hconfig, goesOn_resume { ixs with text } (hconfig ▸ hcomes) hprogress
    { e with begun := others }⟩

theorem prepareWrite_cases (ha : a.Carries e.indexes.vector.config t) (before after : List Assignment) :
    (∃ vector commit, vector.config = e.indexes.vector.config ∧
      a.stage.change.WorksOut e.indexes.vector.config commit ∧ e.prepareWrite a before after = { e with
        indexes := { e.indexes with vector }
        begun := before ++ { a with commit := some commit } :: after }) ∨
    ∃ ixs, ixs.vector.config = e.indexes.vector.config ∧
      GoesOn t a.number a.depth (a.stage.stepsLeft - 2) { e with
        indexes := ixs
        begun := before ++ after } (e.prepareWrite a before after) := by
  have hconfig := a.stage.change.prepare_config e.indexes.vector e.indexes.store
  rw [prepareWrite]
  split
  · next vector commit hprepare =>
    rw [hprepare] at hconfig
    exact .inl ⟨vector, commit, hconfig, ⟨_, _, rfl, congrArg Prod.snd hprepare⟩, rfl⟩
  · next vector hprepare =>
    rw [hprepare] at hconfig
    exact .inr (proceed_goesOn { e.indexes with vector } hconfig ha
      (.nothing rfl (congrArg Prod.snd hprepare)) _)
  · next vector cause hprepare =>
    rw [hprepare] at hconfig
    exact .inr (proceed_goesOn { e.indexes with vector } hconfig ha
      (.refused rfl (congrArg Prod.snd hprepare)) _)

theorem performWrite_goesOn (ha : a.Carries e.indexes.vector.config t) {commit : Commit}
    (hcommit : a.commit = some commit) (others : List Assignment) :
    ∃ ixs, ixs.vector.config = e.indexes.vector.config ∧
      GoesOn t a.number a.depth (a.stage.stepsLeft - 2) { e with
        indexes := ixs
        begun := others } (e.performWrite a commit others) := by
  let o := a.stage.change.write e.indexes.vector e.indexes.store commit
  have hconfig : o.index.config = e.indexes.vector.config := a.stage.change.write_config _ _ commit
  exact proceed_goesOn { e.indexes with vector := o.index, store := o.store } hconfig ha
    (.written (ha.commit commit hcommit) _ _) others

theorem moveWorker_cases {position : Nat} (hposition : e.begun[position]? = some a)
    (hmove : e.canMove a = true) (ha : a.Carries e.indexes.vector.config t) :
    ∃ before after, e.begun = before ++ a :: after ∧
      ((∃ vector commit, a.commit = none ∧ vector.config = e.indexes.vector.config ∧
        a.stage.change.WorksOut e.indexes.vector.config commit ∧
        e.moveWorker position = { e with
          indexes := { e.indexes with vector }
          begun := before ++ { a with commit := some commit } :: after }) ∨
      ∃ ixs, ixs.vector.config = e.indexes.vector.config ∧
        GoesOn t a.number a.depth (a.stage.stepsLeft - 2) { e with
          indexes := ixs
          begun := before ++ after } (e.moveWorker position)) := by
  refine ⟨e.begun.take position, e.begun.drop (position + 1), eq_take_cons_drop hposition, ?_⟩
  rw [moveWorker, hposition]
  simp only [hmove, ↓reduceIte]
  cases hcommit : a.commit with
  | some commit => exact .inr (performWrite_goesOn ha hcommit _)
  | none =>
    rcases prepareWrite_cases ha (e.begun.take position) (e.begun.drop (position + 1)) with
      ⟨vector, commit, hconfig, hworked, hprepare⟩ | hgoes
    · exact .inl ⟨vector, commit, rfl, hconfig, hworked, hprepare⟩
    · exact .inr hgoes

theorem moveWorker_sameSettings {position : Nat} (hposition : e.begun[position]? = some a)
    (hmove : e.canMove a = true) (ha : a.Carries e.indexes.vector.config t) :
    e.SameSettings (e.moveWorker position) := by
  obtain ⟨before, after, -, hmoved⟩ := moveWorker_cases hposition hmove ha
  rcases hmoved with ⟨vector, commit, -, hconfig, -, hmoved⟩ | ⟨ixs, hconfig, hgoes⟩
  · rw [hmoved]
    exact ⟨rfl, rfl, hconfig⟩
  · obtain ⟨begun, answers, statistics, hframe⟩ := hgoes.frame
    rw [hframe]
    exact ⟨rfl, rfl, hconfig⟩

end Engine

end HybridSearch

import HybridSearch.Proofs.Engine.Order

/-!
# The workers come to an end

Every step of a worker leaves fewer of them. While the store takes writes some worker can go on for as long as
a task is left; so each accepted task is answered after a bounded number of steps, unless it is discarded.
-/
namespace HybridSearch

theorem Stage.two_le_stepsLeft (stage : Stage) : 2 ≤ stage.stepsLeft := by
  cases stage with
  | entryWritten d => exact Nat.le_refl 2
  | entryRemoved id replacement => exact Nat.le_add_left 2 2

theorem Stage.stepsLeft_lt (stage : Stage) : stage.stepsLeft < Engine.stepsPerTask := by
  cases stage with
  | entryWritten d => exact Nat.lt_add_of_pos_left (show 0 < 3 by decide)
  | entryRemoved id replacement => exact Nat.lt_succ_self 4

theorem Assignment.stepsLeft_pos (a : Assignment) : 0 < a.stepsLeft := by
  have htwo := a.stage.two_le_stepsLeft
  rw [Assignment.stepsLeft]
  split <;> omega

theorem Assignment.stepsLeft_le (a : Assignment) : a.stepsLeft ≤ Engine.stepsPerTask := by
  have hlt := a.stage.stepsLeft_lt
  rw [Assignment.stepsLeft]
  split <;> omega

namespace Engine

variable {e : Engine} {t : Task}

theorem stepsLeft_le (e : Engine) : e.stepsLeft ≤ stepsPerTask * (e.queue.length + e.begun.length) := by
  have hbegun : (e.begun.map Assignment.stepsLeft).sum ≤ stepsPerTask * e.begun.length := by
    induction e.begun with
    | nil => exact Nat.le_refl 0
    | cons a rest ih =>
      have ha := a.stepsLeft_le
      rw [List.map_cons, List.sum_cons, List.length_cons, Nat.mul_succ]
      omega
  rw [stepsLeft, Nat.mul_add]
  exact Nat.add_le_add_left hbegun _

theorem eq_nil_of_stepsLeft (h : e.stepsLeft = 0) : e.queue = [] ∧ e.begun = [] := by
  obtain ⟨hqueue, hbegun⟩ := Nat.add_eq_zero_iff.mp h
  refine ⟨List.length_eq_zero_iff.mp ?_, ?_⟩
  · rw [stepsPerTask] at hqueue
    omega
  · cases hcons : e.begun with
    | nil => rfl
    | cons a rest =>
      have hpos := a.stepsLeft_pos
      rw [hcons, List.map_cons, List.sum_cons] at hbegun
      omega

theorem takeTask_stepsLeft_lt {job : Job} {rest : List Job} (hidle : e.begun.length < e.config.workers)
    (hqueue : e.queue = job :: rest) : e.takeTask.stepsLeft < e.stepsLeft := by
  obtain ⟨text, hgoes⟩ := takeTask_goesOn hidle hqueue
  refine Nat.lt_of_le_of_lt hgoes.stepsLeft_le ?_
  simp only [stepsLeft, hqueue, List.length_cons, stepsPerTask]
  omega

theorem moveWorker_stepsLeft_lt {position : Nat} {a : Assignment} (hposition : e.begun[position]? = some a)
    (hmove : e.canMove a = true) (ha : a.Carries e.indexes.vector.config t) :
    (e.moveWorker position).stepsLeft < e.stepsLeft := by
  have htwo := a.stage.two_le_stepsLeft
  obtain ⟨before, after, hbegun, hmoved⟩ := moveWorker_cases hposition hmove ha
  have hsum : (e.begun.map Assignment.stepsLeft).sum =
      ((before ++ after).map Assignment.stepsLeft).sum + a.stepsLeft := by
    rw [hbegun]
    simp only [List.map_append, List.map_cons, List.sum_append, List.sum_cons]
    omega
  rcases hmoved with ⟨vector, commit, hcommit, -, -, hmoved⟩ | ⟨ixs, -, hgoes⟩
  · rw [hmoved]
    simp only [Assignment.stepsLeft, hcommit] at hsum
    simp only [stepsLeft, hsum, List.map_append, List.map_cons, List.sum_append, List.sum_cons,
      Assignment.stepsLeft]
    omega
  · have hless := hgoes.stepsLeft_le
    have hleft : a.stage.stepsLeft - 1 ≤ a.stepsLeft := by
      rw [Assignment.stepsLeft]
      split <;> omega
    simp only [stepsLeft, hsum] at hless ⊢
    omega

theorem exists_canMove (hheld : e.isHeld = false) (hbegun : e.begun ≠ []) :
    ∃ a ∈ e.begun, e.canMove a = true := by
  cases hwriting : e.isWriting with
  | true =>
    obtain ⟨a, ha, hcommit⟩ := List.any_eq_true.mp hwriting
    obtain ⟨commit, hcommit⟩ := Option.isSome_iff_exists.mp hcommit
    refine ⟨a, ha, ?_⟩
    rw [canMove, hcommit, hheld]
    rfl
  | false =>
    obtain ⟨a, ha⟩ := List.exists_mem_of_ne_nil _ hbegun
    have hnone := List.any_eq_false.mp hwriting a ha
    rw [Bool.not_eq_true, Option.isSome_eq_false_iff, Option.isNone_iff_eq_none] at hnone
    refine ⟨a, ha, ?_⟩
    rw [canMove, hnone, hwriting]
    rfl

end Engine

namespace Service

variable {s s' : Service}

/-- The events by which the workers get on. -/
inductive Event.IsWork : Event → Prop
  | take : IsWork .take
  | move (position : Nat) : IsWork (.move position)
  | leave : IsWork .leave
  | letGo : IsWork .letGo

/-- The steps that are left for the workers: those for the tasks, and one each for stopping and letting go. -/
def stepsLeft (s : Service) : Nat :=
  s.engine.stepsLeft + (s.workers - s.left) + (s.workers - s.gone)

theorem Orderly.stepsLeft_lt (h : s.Orderly) {event : Event} (hwork : event.IsWork)
    (hafter : s.after event = some s') : s'.stepsLeft < s.stepsLeft := by
  cases hwork with
  | take =>
    obtain ⟨job, rest, hqueue, hidle, rfl⟩ := of_after_take hafter
    have hfree : s.engine.begun.length + s.left < s.engine.config.workers := of_decide_eq_true hidle
    have hbusy := Nat.lt_of_le_of_lt (Nat.le_add_right _ _) hfree
    have hless := Engine.takeTask_stepsLeft_lt hbusy hqueue
    simp only [stepsLeft, workers, (Engine.takeTask_sameSettings hbusy hqueue).config]
    omega
  | move position =>
    obtain ⟨a, hposition, hmove, rfl⟩ := of_after_move hafter
    obtain ⟨t, -, hcarries⟩ := h.begun a (List.mem_of_getElem? hposition)
    have hless := Engine.moveWorker_stepsLeft_lt hposition hmove hcarries
    simp only [stepsLeft, workers, (Engine.moveWorker_sameSettings hposition hmove hcarries).config]
    omega
  | leave =>
    obtain ⟨-, -, hidle, rfl⟩ := of_after_leave hafter
    have hfree : s.engine.begun.length + s.left < s.workers := of_decide_eq_true hidle
    show s.engine.stepsLeft + (s.workers - (s.left + 1)) + (s.workers - s.gone) < s.stepsLeft
    rw [stepsLeft]
    omega
  | letGo =>
    obtain ⟨hleft, rfl⟩ := of_after_letGo hafter
    have hbusy := h.busy
    have hsteps : s.letGo.stepsLeft ≤
        s.engine.stepsLeft + (s.workers - s.left) + (s.workers - (s.gone + 1)) := by
      rw [Service.letGo]
      dsimp only
      split
      · simp only [stepsLeft, Engine.stepsLeft, workers, List.length_nil]
        omega
      · exact Nat.le_refl _
    refine Nat.lt_of_le_of_lt hsteps ?_
    rw [stepsLeft]
    omega

/-- Each accepted task has been answered or discarded when none waits and none has been begun. -/
theorem Orderly.answered_or_discarded (h : s.Orderly) (hqueue : s.engine.queue = [])
    (hbegun : s.engine.begun = []) {number : Nat} (haccepted : number < s.tasks.length) :
    number ∈ s.engine.answers.map Prod.fst ∨ number ∈ s.discarded := by
  by_cases htaken : number < s.taken.length
  · have hmem := h.toQueued.mem_taken_iff_lt.mpr htaken
    rcases h.toAccounted.mem_taken_iff.mp hmem with hfalse | hanswer
    · rw [hbegun] at hfalse
      cases hfalse
    · exact .inl hanswer
  · have hpending := mem_pending_iff.mpr ⟨Nat.le_of_not_lt htaken, haccepted⟩
    cases hdeserted : s.isDeserted with
    | true =>
      rw [h.discarded, hdeserted, if_pos rfl]
      exact .inr hpending
    | false =>
      have hnone := h.queue
      rw [hdeserted, if_neg Bool.false_ne_true, hqueue] at hnone
      rw [← hnone] at hpending
      cases hpending

/-- When no worker can go on although the store takes writes, no task is left; and once the engine is closed,
all workers have let go. -/
theorem Orderly.settled (h : s.Orderly) (hheld : s.engine.isHeld = false)
    (hstuck : ∀ event : Event, event.IsWork → s.after event = none) :
    s.engine.queue = [] ∧ s.engine.begun = [] ∧ (s.engine.isOpen = false → s.isDeserted = true) := by
  have hbegun : s.engine.begun = [] := by
    by_contra hsome
    obtain ⟨a, ha, hmove⟩ := Engine.exists_canMove hheld hsome
    obtain ⟨position, hposition⟩ := List.mem_iff_getElem?.mp ha
    have hnone := hstuck _ (.move position)
    rw [Service.after, hposition] at hnone
    dsimp only at hnone
    rw [if_pos hmove] at hnone
    cases hnone
  have hbusy := h.busy
  have hworkers := h.workers
  have hgone : s.gone = s.left := by
    refine Nat.le_antisymm h.gone_le (Nat.le_of_not_lt fun hlt => ?_)
    have hnone := hstuck _ .letGo
    rw [Service.after, if_pos hlt] at hnone
    cases hnone
  have hidle : s.hasIdle = true ∨ s.isDeserted = true := by
    rcases Nat.lt_or_ge s.left s.workers with hlt | hge
    · refine .inl (decide_eq_true ?_)
      rw [hbegun, List.length_nil, Nat.zero_add]
      exact hlt
    · exact .inr (beq_iff_eq.mpr (by omega))
  have hqueue : s.engine.queue = [] := by
    rcases hidle with hidle | hdeserted
    · cases hcons : s.engine.queue with
      | nil => rfl
      | cons job rest =>
        have hnone := hstuck _ .take
        rw [Service.after, hcons] at hnone
        dsimp only at hnone
        rw [if_pos hidle] at hnone
        cases hnone
    · rw [h.queue, hdeserted, if_pos rfl]
  refine ⟨hqueue, hbegun, fun hclosed => ?_⟩
  rcases hidle with hidle | hdeserted
  · have hnone := hstuck _ .leave
    rw [Service.after, hclosed, hqueue, hidle] at hnone
    cases hnone
  · exact hdeserted

/-- A worker takes a task or goes on with one. -/
inductive Event.IsTurn : Event → Prop
  | take : IsTurn .take
  | move (position : Nat) : IsTurn (.move position)

/-- What a turn leaves alone, and that it gets on with the tasks. -/
structure Turned (s s' : Service) : Prop extends s.engine.SameSettings s'.engine where
  tasks : s'.tasks = s.tasks
  left : s'.left = s.left
  isOpen : s'.engine.isOpen = s.engine.isOpen
  answers : ∀ answer ∈ s.engine.answers, answer ∈ s'.engine.answers
  stepsLeft : s'.engine.stepsLeft < s.engine.stepsLeft

theorem Orderly.turned (h : s.Orderly) {event : Event} (hturn : event.IsTurn) (hafter : s.after event = some s') :
    s.Turned s' := by
  cases hturn with
  | take =>
    obtain ⟨job, rest, hqueue, hidle, rfl⟩ := of_after_take hafter
    have hfree : s.engine.begun.length + s.left < s.engine.config.workers := of_decide_eq_true hidle
    have hbusy := Nat.lt_of_le_of_lt (Nat.le_add_right _ _) hfree
    obtain ⟨text, hgoes⟩ := Engine.takeTask_goesOn hbusy hqueue
    refine ⟨Engine.takeTask_sameSettings hbusy hqueue, rfl, rfl, ?_, fun _ => hgoes.mem_answers,
      Engine.takeTask_stepsLeft_lt hbusy hqueue⟩
    obtain ⟨begun, answers, statistics, hframe⟩ := hgoes.frame
    rw [hframe]
  | move position =>
    obtain ⟨a, hposition, hmove, rfl⟩ := of_after_move hafter
    obtain ⟨t, -, hcarries⟩ := h.begun a (List.mem_of_getElem? hposition)
    have hsettings := Engine.moveWorker_sameSettings hposition hmove hcarries
    have hsteps := Engine.moveWorker_stepsLeft_lt hposition hmove hcarries
    obtain ⟨before, after, -, hmoved⟩ := Engine.moveWorker_cases hposition hmove hcarries
    rcases hmoved with ⟨vector, commit, -, -, -, hmoved⟩ | ⟨ixs, -, hgoes⟩
    · refine ⟨hsettings, rfl, rfl, ?_, fun answer hanswer => ?_, hsteps⟩
      all_goals rw [hmoved]
      exact hanswer
    · refine ⟨hsettings, rfl, rfl, ?_, fun _ => hgoes.mem_answers, hsteps⟩
      obtain ⟨begun, answers, statistics, hframe⟩ := hgoes.frame
      rw [hframe]

/-- As long as a task has no answer, some worker of an open engine can take a turn, unless the store is held. -/
theorem Orderly.exists_turn (h : s.Orderly) (hopen : s.engine.isOpen = true) (hheld : s.engine.isHeld = false)
    {number : Nat} (haccepted : number < s.tasks.length) (hanswer : s.engine.answer? number = none) :
    ∃ event s', event.IsTurn ∧ s.after event = some s' := by
  by_contra hnone
  push Not at hnone
  have hleft := (h.isOpen hopen).1
  have hstuck : ∀ event : Event, event.IsWork → s.after event = none := by
    intro event hwork
    refine Option.eq_none_iff_forall_ne_some.mpr fun s' hafter => ?_
    cases hwork with
    | take => exact hnone .take s' .take hafter
    | move position => exact hnone (.move position) s' (.move position) hafter
    | leave =>
      rw [(of_after_leave hafter).1] at hopen
      cases hopen
    | letGo =>
      have hgone := (of_after_letGo hafter).1
      omega
  obtain ⟨hqueue, hbegun, -⟩ := h.settled hheld hstuck
  rcases h.answered_or_discarded hqueue hbegun haccepted with hanswered | hlost
  · have hsome := Engine.answer?_isSome hanswered
    rw [hanswer] at hsome
    cases hsome
  · rw [h.discarded, h.toStaffed.not_deserted_of_left hleft, if_neg Bool.false_ne_true] at hlost
    cases hlost

/-- What becomes of a service when its workers take turns and nothing else happens. -/
inductive Turns (s : Service) : Service → Prop
  | still : Turns s s
  | turn {s' s'' : Service} (h : Turns s s') {event : Event} (hturn : event.IsTurn)
      (hafter : s'.after event = some s'') : Turns s s''

theorem Turns.reached (h : s.Turns s') (hs : Reached s) : Reached s' := by
  induction h with
  | still => exact hs
  | turn _ _ hafter ih => exact ih.step _ hafter

theorem Turns.trans {s'' : Service} (h : s.Turns s') (h' : s'.Turns s'') : s.Turns s'' := by
  induction h' with
  | still => exact h
  | turn _ hturn hafter ih => exact ih.turn hturn hafter

theorem Reached.work (h : Reached s) (hleft : s.left = 0) : ∃ s', s.Turns s' ∧
    s'.engine = s.engine.work ∧ s'.tasks = s.tasks ∧ s'.left = 0 ∧ s.engine.SameSettings s'.engine ∧
      (s.engine.isHeld = false → s'.engine.stepsLeft ≤ s.engine.stepsLeft - 1) := by
  rw [Engine.work]
  split
  · next position hfound =>
    obtain ⟨hlt, hmove, -⟩ := List.findIdx?_eq_some_iff_getElem.mp hfound
    have hposition := List.getElem?_eq_getElem hlt
    obtain ⟨t, -, hcarries⟩ := h.orderly.begun _ (List.getElem_mem hlt)
    refine ⟨{ s with engine := s.engine.moveWorker position },
      Turns.still.turn (.move position) ?_, rfl, rfl, hleft,
      Engine.moveWorker_sameSettings hposition hmove hcarries,
      fun _ => Nat.le_sub_one_of_lt (Engine.moveWorker_stepsLeft_lt hposition hmove hcarries)⟩
    rw [after, hposition]
    exact if_pos hmove
  · next hnone =>
    have hbegun : s.engine.isHeld = false → s.engine.begun = [] := by
      intro hheld
      by_contra hsome
      obtain ⟨a, ha, hmove⟩ := Engine.exists_canMove hheld hsome
      have hcannot := List.findIdx?_eq_none_iff.mp hnone a ha
      rw [hmove] at hcannot
      cases hcannot
    by_cases hidle : s.engine.begun.length < s.engine.config.workers
    · cases hqueue : s.engine.queue with
      | nil =>
        refine ⟨s, .still, ?_, rfl, hleft, .refl _, fun hheld => ?_⟩
        · rw [Engine.takeTask, hqueue, ite_self]
        · have hsteps := s.engine.stepsLeft_le
          rw [hqueue, hbegun hheld] at hsteps
          exact Nat.le_trans hsteps (Nat.zero_le _)
      | cons job rest =>
        have hfree : s.hasIdle = true := decide_eq_true (hleft.symm ▸ hidle)
        refine ⟨{ s with engine := s.engine.takeTask, taken := s.taken ++ [job.number] },
          Turns.still.turn .take ?_, rfl, rfl, hleft, Engine.takeTask_sameSettings hidle hqueue,
          fun _ => Nat.le_sub_one_of_lt (Engine.takeTask_stepsLeft_lt hidle hqueue)⟩
        rw [after, hqueue]
        exact if_pos hfree
    · refine ⟨s, .still, (if_neg hidle).symm, rfl, hleft, .refl _, fun hheld => ?_⟩
      rw [hbegun hheld] at hidle
      exact absurd h.orderly.workers hidle

theorem Reached.workFor (h : Reached s) (hleft : s.left = 0) (steps : Nat) : ∃ s', s.Turns s' ∧
    s'.engine = Engine.workFor steps s.engine ∧ s'.tasks = s.tasks ∧ s'.left = 0 ∧
      s.engine.SameSettings s'.engine ∧
      (s.engine.isHeld = false → s'.engine.stepsLeft ≤ s.engine.stepsLeft - steps) := by
  induction steps generalizing s with
  | zero => exact ⟨s, .still, rfl, rfl, hleft, .refl _, fun _ => Nat.le_refl _⟩
  | succ steps ih =>
    obtain ⟨s₁, h₁, hengine, htasks, hleft₁, hsettings, hless⟩ := h.work hleft
    obtain ⟨s₂, h₂, hengine₂, htasks₂, hleft₂, hsettings₂, hless₂⟩ := ih (h₁.reached h) hleft₁
    refine ⟨s₂, h₁.trans h₂, by rw [hengine₂, hengine, Engine.workFor], htasks₂.trans htasks, hleft₂,
      hsettings.trans hsettings₂, fun hfree => ?_⟩
    have hfirst := hless hfree
    have hrest := hless₂ (hsettings.isHeld.trans hfree)
    omega

/-- An engine settles by turns of its workers. While the store takes writes, nothing is left
to do there. -/
theorem Reached.settle (h : Reached s) (hleft : s.left = 0) : ∃ s', s.Turns s' ∧
    s'.engine = s.engine.settle ∧ s'.tasks = s.tasks ∧ s'.left = 0 ∧ s.engine.SameSettings s'.engine ∧
      (s.engine.isHeld = false → s'.engine.queue = [] ∧ s'.engine.begun = []) := by
  obtain ⟨s', h', hengine, htasks, hleft', hsettings, hless⟩ :=
    h.workFor hleft (Engine.stepsPerTask * (s.engine.queue.length + s.engine.begun.length))
  refine ⟨s', h', hengine, htasks, hleft', hsettings, fun hfree => Engine.eq_nil_of_stepsLeft ?_⟩
  have hall := s.engine.stepsLeft_le
  have hnone := hless hfree
  omega

theorem Orderly.submit (h : s.Orderly) (hopen : s.engine.isOpen = true)
    (hroom : s.engine.queue.length < s.engine.config.queueSize) (task : Task) :
    s.engine.submit task = .ok (s.engine.enqueue task, s.tasks.length) ∧
      s.offer false task = .ok (s.accept task) := by
  have hstaffed := h.toStaffed.not_deserted_of_left (h.isOpen hopen).1
  constructor
  · rw [Engine.submit, if_pos hopen, Engine.send, Engine.hasStopped, hopen, ← h.accepted]
    exact if_neg (Nat.not_le_of_lt hroom)
  · rw [offer, hopen, hstaffed]
    exact if_neg (Nat.not_le_of_lt hroom)

/-- A call that an open engine has room for is accepted and then worked on, until its task has been answered,
unless the store is held. -/
theorem Reached.perform_turns (h : Reached s) (hopen : s.engine.isOpen = true)
    (hroom : s.engine.queue.length < s.engine.config.queueSize) (task : Task) : ∃ s', (s.accept task).Turns s' ∧
    s.engine.perform task = (s'.engine, (s'.engine.answer? s.tasks.length).getD (.error .shutDown)) ∧
      s'.tasks[s.tasks.length]? = some task ∧ s.engine.SameSettings s'.engine ∧
        (s.engine.isHeld = false → ∃ result, s'.engine.answer? s.tasks.length = some result) := by
  obtain ⟨hsubmit, hoffer⟩ := h.orderly.submit hopen hroom task
  have haccepted : Reached (s.accept task) := by
    refine h.step (.call false task) ?_
    rw [after, hoffer]
    rfl
  have hleft : (s.accept task).left = 0 := (h.orderly.isOpen hopen).1
  obtain ⟨s', hturns, hengine, htasks, hleft', hsettings, hsettled⟩ := haccepted.settle hleft
  have h' := hturns.reached haccepted
  have htask : s'.tasks[s.tasks.length]? = some task := by
    rw [htasks]
    exact List.getElem?_concat_length
  refine ⟨s', hturns, ?_, htask, ⟨hsettings.config, hsettings.isHeld, hsettings.embeddings⟩, fun hheld => ?_⟩
  · rw [Engine.perform, hsubmit, hengine]
    rfl
  · obtain ⟨hqueue, hbegun⟩ := hsettled hheld
    have hnew := (List.getElem?_eq_some_iff.mp htask).1
    rcases h'.orderly.answered_or_discarded hqueue hbegun hnew with hanswer | hlost
    · exact Option.isSome_iff_exists.mp (Engine.answer?_isSome hanswer)
    · have hstaffed := h'.orderly.toStaffed.not_deserted_of_left hleft'
      rw [h'.orderly.discarded, hstaffed, if_neg Bool.false_ne_true] at hlost
      cases hlost

theorem Reached.perform (h : Reached s) (hopen : s.engine.isOpen = true)
    (hroom : s.engine.queue.length < s.engine.config.queueSize) (task : Task) : ∃ s', Reached s' ∧
    s.engine.perform task = (s'.engine, (s'.engine.answer? s.tasks.length).getD (.error .shutDown)) ∧
      s'.tasks[s.tasks.length]? = some task ∧ s.engine.SameSettings s'.engine ∧
        (s.engine.isHeld = false → ∃ result, s'.engine.answer? s.tasks.length = some result) := by
  obtain ⟨s', hturns, hperform⟩ := h.perform_turns hopen hroom task
  refine ⟨s', hturns.reached (h.step (.call false task) ?_), hperform⟩
  rw [after, (h.orderly.submit hopen hroom task).2]
  rfl

end Service

end HybridSearch

import HybridSearch.Proofs.Engine.Current
import HybridSearch.Proofs.Engine.Settling

/-!
# What callers can rely on

Whatever callers, workers, the store and `close` do one after another: calls are admitted as long as the queue
has room, what was admitted is executed once and in order, its caller is told what came of it, and the first
call of `close` waits for everything that was admitted before it. Later calls of it wait for nothing.
-/
namespace HybridSearch

def Statistics.counters (s : Statistics) : Statistics := s.setQueueDepth 0

namespace Service

/-- The indexes are used from elsewhere than the workers. -/
def Event.IsUse : Event → Prop
  | .search _ _ _ => True
  | .elsewhere _ _ _ => True
  | _ => False

/-- The task that a worker takes up or goes on with. -/
def worksFor? (s : Service) : Event → Option Nat
  | .take => s.engine.queue.head?.map Job.number
  | .move position => s.engine.begun[position]?.map Assignment.number
  | _ => none

/-- How calls are admitted. -/
structure Admits (s : Service) : Prop where
  bounded : s.engine.queue.length ≤ s.engine.config.queueSize
  /-- A call that is not late is a submission to the engine. -/
  submit : ∀ task, s.offer false task = (s.engine.submit task).map fun sent =>
    { s with engine := sent.1, tasks := s.tasks ++ [task] }
  queueFull : ∀ late task, (∀ d, task ≠ .index d) → (s.offer late task = .error .queueFull ↔
    (s.engine.isOpen = true ∨ late = true) ∧ s.engine.queue.length = s.engine.config.queueSize)
  enqueueTimeout : ∀ late d, s.offer late (.index d) =
      .error (.enqueueTimeout s.engine.config.enqueueTimeout) ↔
    (s.engine.isOpen = true ∨ late = true) ∧ s.engine.queue.length = s.engine.config.queueSize
  /-- A call that is turned away changes nothing at all. -/
  refused : ∀ late task e, s.offer late task = .error e →
    e.IsRefusal ∧ s.after (.call late task) = some s

/-- How accepted tasks are executed. -/
structure Executes (s : Service) : Prop where
  order : s.taken = List.range s.taken.length
  /-- A task waits, has been begun, has been answered or is discarded. -/
  once : (s.engine.queue.map Job.number ++ s.engine.begun.map Assignment.number ++
    s.engine.answers.map Prod.fst ++ s.discarded).Perm (List.range s.tasks.length)
  queued : ∀ job ∈ s.engine.queue, s.tasks[job.number]? = some job.task
  begun : ∀ a ∈ s.engine.begun, a.number ∈ s.taken ∧ s.HasBegun s.engine.indexes.vector.config a
  answered : ∀ answer ∈ s.engine.answers,
    answer.1 ∈ s.taken ∧ s.HasAnswered s.engine.indexes.vector.config answer
  /-- Only by its execution does a call change an index or a counter. -/
  changes : ∀ event s', s.after event = some s' → event.IsUse ∨
    (∃ number ∈ s'.taken, s.worksFor? event = some number) ∨
      s'.engine.indexes = s.engine.indexes ∧
        s'.engine.statistics.counters = s.engine.statistics.counters
  /-- The workers do not go on for ever. -/
  progress : ∀ event : Event, event.IsWork → ∀ s', s.after event = some s' → s'.stepsLeft < s.stepsLeft
  /-- They do not stop before they have finished, either. -/
  finished : s.engine.isHeld = false → (∀ event : Event, event.IsWork → s.after event = none) →
    ∀ number < s.tasks.length, number ∈ s.engine.answers.map Prod.fst ∨ number ∈ s.discarded

/-- What the callers of accepted tasks are told. -/
structure Replies (s : Service) : Prop where
  outcome : ∀ number result, (number, result) ∈ s.told → result ≠ .error .shutDown →
    (number, result) ∈ s.engine.answers
  /-- A task that is answered like a call that was turned away has not been executed. -/
  refused : ∀ number e, (number, .error e) ∈ s.told → e.IsRefusal →
    e = .shutDown ∧ number ∈ s.discarded ∧ number ∉ s.taken
  single : (s.told.map Prod.fst).Nodup
  tells : ∀ number, number ∈ s.engine.answers.map Prod.fst ∨ number ∈ s.discarded →
    number ∉ s.told.map Prod.fst → ∃ s', s.after (.tell number) = some s'

/-- How the engine is closed. The first call of `close` returns when all that was accepted before it has been
executed. -/
structure Closes (s : Service) : Prop where
  returned : s.hasClosed = true → ∃ count, s.closedAt = some count ∧
    ∀ number < count, number ∈ s.engine.answers.map Prod.fst
  /-- Only what was accepted after `close` is discarded. -/
  kept : ∀ number ∈ s.discarded, ∃ count, s.closedAt = some count ∧ count ≤ number
  returns : s.engine.isOpen = false → s.engine.isHeld = false →
    (∀ event : Event, event.IsWork → s.after event = none) →
      s.after .closed = some { s with hasClosed := true }
  first : s.engine.isOpen = true →
    s.after .close = some { s with engine := s.engine.close, closedAt := some s.tasks.length }
  /-- A later call returns at once and has no effect, also while the first still waits. -/
  again : s.engine.isOpen = false → s.after .close = some { s with againAt := s.tasks.length :: s.againAt }

structure Dependable (s : Service) : Prop where
  admits : s.Admits
  executes : s.Executes
  replies : s.Replies
  closes : s.Closes

variable {s s' : Service}

theorem fullQueueError_ne_shutDown (config : EngineConfig) (task : Task) :
    Engine.fullQueueError config task ≠ .shutDown := by
  cases task <;> nofun

theorem Orderly.offer_full_iff (h : s.Orderly) (late : Bool) (task : Task) :
    s.offer late task = .error (Engine.fullQueueError s.engine.config task) ↔
      (s.engine.isOpen = true ∨ late = true) ∧ s.engine.queue.length = s.engine.config.queueSize := by
  have hother := fullQueueError_ne_shutDown s.engine.config task
  rw [offer, ← Bool.or_eq_true_iff]
  cases hopen : s.engine.isOpen || late with
  | false =>
    refine ⟨fun hshut => absurd (Except.error.inj hshut).symm hother, fun hfull => ?_⟩
    cases hfull.1
  | true =>
    cases hdeserted : s.isDeserted with
    | true =>
      refine ⟨fun hshut => absurd (Except.error.inj hshut).symm hother, fun hfull => ?_⟩
      have hroom := h.room
      rw [h.queue, hdeserted, if_pos rfl, List.length_nil] at hfull
      omega
    | false =>
      rw [Bool.not_true, if_neg Bool.false_ne_true, if_neg Bool.false_ne_true]
      split
      · next hfull => exact ⟨fun _ => ⟨rfl, Nat.le_antisymm h.bounded hfull⟩, fun _ => rfl⟩
      · next hroom =>
        refine ⟨fun hok => (by cases hok), fun hfull => ?_⟩
        exact absurd (Nat.le_of_eq hfull.2.symm) hroom

theorem isRefusal_of_offer {late : Bool} {task : Task} {e : EngineError}
    (h : s.offer late task = .error e) : e.IsRefusal := by
  rw [offer] at h
  split at h
  · exact Except.error.inj h ▸ trivial
  · split at h
    · exact Except.error.inj h ▸ trivial
    · split at h
      · rw [← Except.error.inj h]
        cases task <;> trivial
      · cases h

theorem Orderly.offer_eq_submit (h : s.Orderly) (task : Task) :
    s.offer false task = (s.engine.submit task).map fun sent =>
      { s with engine := sent.1, tasks := s.tasks ++ [task] } := by
  cases hopen : s.engine.isOpen with
  | false =>
    rw [offer, Engine.submit, hopen]
    rfl
  | true =>
    have hstaffed := h.toStaffed.not_deserted_of_left (h.isOpen hopen).1
    rw [offer, Engine.submit, Engine.send, Engine.hasStopped, hopen, hstaffed]
    rw [Bool.or_false, Bool.not_true, Bool.false_and, Bool.false_and, if_neg Bool.false_ne_true,
      if_neg Bool.false_ne_true, if_pos rfl, if_neg Bool.false_ne_true]
    split
    · rfl
    · rfl

theorem Orderly.admits (h : s.Orderly) : s.Admits where
  bounded := h.bounded
  submit := h.offer_eq_submit
  queueFull late task htask := by
    have hfull := h.offer_full_iff late task
    cases task with
    | index d => exact absurd rfl (htask d)
    | update d => exact hfull
    | delete id => exact hfull
  enqueueTimeout late d := h.offer_full_iff late (.index d)
  refused late task e he := by
    refine ⟨isRefusal_of_offer he, ?_⟩
    rw [Service.after, he]
    rfl

theorem Queued.taken_append_pending (h : s.Queued) :
    s.taken ++ s.pending.map Job.number = List.range s.tasks.length := by
  rw [pending, List.map_drop, numbers_jobs]
  conv => lhs; lhs; rw [h.taken, ← Nat.min_eq_left h.taken_le, ← List.take_range]
  exact List.take_append_drop _ _

theorem Orderly.numbers_perm (h : s.Orderly) : (s.engine.queue.map Job.number ++
    s.engine.begun.map Assignment.number ++ s.engine.answers.map Prod.fst ++ s.discarded).Perm
      (List.range s.tasks.length) := by
  rw [← h.toQueued.taken_append_pending, h.queue, h.discarded, List.append_assoc _ _ (List.map Prod.fst _),
    ← Engine.numbers]
  cases s.isDeserted with
  | true => exact h.assigned.append_right _
  | false =>
    rw [if_neg Bool.false_ne_true, if_neg Bool.false_ne_true, List.append_nil]
    exact List.perm_append_comm.trans (h.assigned.append_right _)

theorem Orderly.queued (h : s.Orderly) {job : Job} (hjob : job ∈ s.engine.queue) :
    s.tasks[job.number]? = some job.task := by
  have hpending : job ∈ s.jobs := by
    rw [h.queue] at hjob
    split at hjob
    · cases hjob
    · exact List.mem_of_mem_drop hjob
  obtain ⟨position, hposition⟩ := List.mem_iff_getElem?.mp hpending
  rw [getElem?_jobs] at hposition
  obtain ⟨task, htask, rfl⟩ := Option.map_eq_some_iff.mp hposition
  exact htask

/-- Without a step of a worker nothing is answered, and an index or a counter only changes when the indexes
are used from elsewhere. -/
theorem of_worksFor?_eq_none {event : Event} (hafter : s.after event = some s')
    (hnobody : s.worksFor? event = none) : s'.engine.answers = s.engine.answers ∧
      (event.IsUse ∨ s'.engine.indexes = s.engine.indexes ∧
        s'.engine.statistics.counters = s.engine.statistics.counters) := by
  cases event with
  | call late task =>
    obtain rfl := Option.some_inj.mp hafter
    rcases s.offer_cases late task with ⟨e, hoffer⟩ | ⟨-, -, hoffer⟩
    · rw [hoffer]
      exact ⟨rfl, .inr ⟨rfl, rfl⟩⟩
    · rw [hoffer]
      exact ⟨rfl, .inr ⟨rfl, rfl⟩⟩
  | take =>
    obtain ⟨job, rest, hqueue, -⟩ := of_after_take hafter
    rw [worksFor?, hqueue] at hnobody
    cases hnobody
  | move position =>
    obtain ⟨a, hposition, -⟩ := of_after_move hafter
    rw [worksFor?, hposition] at hnobody
    cases hnobody
  | leave =>
    obtain ⟨-, -, -, rfl⟩ := of_after_leave hafter
    exact ⟨rfl, .inr ⟨rfl, rfl⟩⟩
  | letGo =>
    obtain ⟨-, rfl⟩ := of_after_letGo hafter
    rw [letGo]
    dsimp only
    split
    · exact ⟨rfl, .inr ⟨rfl, rfl⟩⟩
    · exact ⟨rfl, .inr ⟨rfl, rfl⟩⟩
  | hold =>
    obtain rfl := Option.some_inj.mp hafter
    exact ⟨rfl, .inr ⟨rfl, rfl⟩⟩
  | release =>
    obtain rfl := Option.some_inj.mp hafter
    exact ⟨rfl, .inr ⟨rfl, rfl⟩⟩
  | close =>
    obtain ⟨-, rfl⟩ | ⟨-, rfl⟩ := of_after_close hafter
    · exact ⟨rfl, .inr ⟨rfl, rfl⟩⟩
    · exact ⟨rfl, .inr ⟨rfl, rfl⟩⟩
  | closed =>
    obtain ⟨-, -, rfl⟩ := of_after_closed hafter
    exact ⟨rfl, .inr ⟨rfl, rfl⟩⟩
  | tell number =>
    obtain ⟨-, -, reply, -, rfl⟩ := of_after_tell hafter
    exact ⟨rfl, .inr ⟨rfl, rfl⟩⟩
  | search cancelled request nanos =>
    obtain rfl := Option.some_inj.mp hafter
    obtain ⟨vector, statistics, -, hsearch⟩ := s.engine.search_snd cancelled request nanos
    rw [hsearch]
    exact ⟨rfl, .inl trivial⟩
  | elsewhere text vector store =>
    obtain ⟨-, rfl⟩ := of_after_elsewhere hafter
    exact ⟨rfl, .inl trivial⟩

theorem Orderly.mem_taken_of_worksFor? (h : s.Orderly) {event : Event} (hafter : s.after event = some s')
    {number : Nat} (hworks : s.worksFor? event = some number) : number ∈ s'.taken := by
  cases event with
  | take =>
    obtain ⟨job, rest, hqueue, -, rfl⟩ := of_after_take hafter
    rw [worksFor?, hqueue] at hworks
    obtain rfl := Option.some_inj.mp hworks
    exact List.mem_append_right _ (List.mem_singleton.mpr rfl)
  | move position =>
    obtain ⟨a, hposition, -, rfl⟩ := of_after_move hafter
    rw [worksFor?, hposition] at hworks
    obtain rfl := Option.some_inj.mp hworks
    exact h.toAccounted.mem_taken_iff.mpr (.inl (List.mem_map_of_mem (List.mem_of_getElem? hposition)))
  | _ => cases hworks

/-- An event only changes an index or a counter when a worker works for a task that has been taken, or when
the indexes are used from elsewhere. -/
theorem Orderly.changes (h : s.Orderly) {event : Event} (hafter : s.after event = some s') :
    event.IsUse ∨ (∃ number ∈ s'.taken, s.worksFor? event = some number) ∨
      s'.engine.indexes = s.engine.indexes ∧
        s'.engine.statistics.counters = s.engine.statistics.counters := by
  cases hworks : s.worksFor? event with
  | none =>
    rcases (of_worksFor?_eq_none hafter hworks).2 with huse | hsame
    · exact .inl huse
    · exact .inr (.inr hsame)
  | some number => exact .inr (.inl ⟨number, h.mem_taken_of_worksFor? hafter hworks, rfl⟩)

theorem Orderly.executes (h : s.Orderly) : s.Executes where
  order := h.taken
  once := h.numbers_perm
  queued _ hjob := h.queued hjob
  begun a ha :=
    ⟨h.toAccounted.mem_taken_iff.mpr (.inl (List.mem_map_of_mem ha)), h.begun a ha⟩
  answered answer hanswer :=
    ⟨h.toAccounted.mem_taken_iff.mpr (.inr (List.mem_map_of_mem hanswer)), h.answers answer hanswer⟩
  changes _ _ hafter := h.changes hafter
  progress _ hwork _ hafter := h.stepsLeft_lt hwork hafter
  finished hheld hstuck number haccepted := by
    obtain ⟨hqueue, hbegun, -⟩ := h.settled hheld hstuck
    exact h.answered_or_discarded hqueue hbegun haccepted

theorem Orderly.not_mem_taken (h : s.Orderly) {number : Nat} (hlost : number ∈ s.discarded) :
    number ∉ s.taken ∧ number < s.tasks.length := by
  rw [h.discarded] at hlost
  split at hlost
  · obtain ⟨hlate, haccepted⟩ := mem_pending_iff.mp hlost
    exact ⟨fun htaken => Nat.not_lt_of_le hlate (h.toQueued.mem_taken_iff_lt.mp htaken), haccepted⟩
  · cases hlost

theorem Orderly.not_isRefusal (h : s.Orderly) {number : Nat} {e : EngineError}
    (hanswer : (number, .error e) ∈ s.engine.answers) : ¬e.IsRefusal := by
  obtain ⟨task, result, -, hcomes, hresult⟩ := h.answers _ hanswer
  cases result with
  | ok outcome => cases hresult
  | error cause => exact Except.error.inj hresult ▸ hcomes.not_isRefusal

theorem Orderly.lt_of_answered (h : s.Orderly) {number : Nat}
    (hanswer : number ∈ s.engine.answers.map Prod.fst) : number < s.tasks.length := by
  have htaken := h.toAccounted.mem_taken_iff.mpr (.inr hanswer)
  exact Nat.lt_of_lt_of_le (h.toQueued.mem_taken_iff_lt.mp htaken) h.taken_le

theorem Orderly.replies (h : s.Orderly) : s.Replies where
  outcome number result htold hresult := by
    rcases h.told _ htold with hanswer | ⟨hshut, -⟩
    · exact hanswer
    · exact absurd hshut hresult
  refused number e htold he := by
    rcases h.told _ htold with hanswer | ⟨hshut, hlost⟩
    · exact absurd he (h.not_isRefusal hanswer)
    · exact ⟨Except.error.inj hshut, hlost, (h.not_mem_taken hlost).1⟩
  single := h.once
  tells number hdone hfirst := by
    have haccepted : number < s.tasks.length := by
      rcases hdone with hanswer | hlost
      · exact h.lt_of_answered hanswer
      · exact (h.not_mem_taken hlost).2
    have hreply : ∃ reply, s.reply? number = some reply := by
      rw [reply?]
      cases hanswer : s.engine.answer? number with
      | some result => exact ⟨result, rfl⟩
      | none =>
        rcases hdone with hdone | hlost
        · have hsome := Engine.answer?_isSome hdone
          rw [hanswer] at hsome
          cases hsome
        · dsimp only
          rw [List.contains_iff_mem.mpr hlost]
          exact ⟨_, rfl⟩
    obtain ⟨reply, hreply⟩ := hreply
    refine ⟨{ s with told := (number, reply) :: s.told }, ?_⟩
    rw [Service.after, if_pos ⟨haccepted, hfirst⟩, hreply]
    rfl

theorem Orderly.drained_of_deserted (h : s.Orderly) (hdeserted : s.isDeserted = true) :
    ∃ count, s.closedAt = some count ∧ count ≤ s.taken.length := by
  have hgone : s.gone = s.workers := eq_of_beq hdeserted
  have hworkers := h.workers
  have hle := h.gone_le
  have hshut : s.engine.isOpen = false := by
    rw [← Bool.not_eq_true]
    intro hopen
    have hleft := (h.isOpen hopen).1
    omega
  obtain ⟨count, hcount, -⟩ := h.isClosed hshut
  exact ⟨count, hcount, h.drained (by omega) count hcount⟩

theorem Orderly.closes (h : s.Orderly) : s.Closes where
  returned hclosed := by
    have hdeserted := h.hasClosed hclosed
    obtain ⟨count, hcount, hdrained⟩ := h.drained_of_deserted hdeserted
    refine ⟨count, hcount, fun number hnumber => ?_⟩
    have htaken := h.toQueued.mem_taken_iff_lt.mpr (Nat.lt_of_lt_of_le hnumber hdrained)
    rcases h.toAccounted.mem_taken_iff.mp htaken with hbegun | hanswer
    · rw [h.toStaffed.begun_of_deserted hdeserted] at hbegun
      cases hbegun
    · exact hanswer
  kept number hlost := by
    rw [h.discarded] at hlost
    split at hlost
    · next hdeserted =>
      obtain ⟨count, hcount, hdrained⟩ := h.drained_of_deserted hdeserted
      exact ⟨count, hcount, Nat.le_trans hdrained (mem_pending_iff.mp hlost).1⟩
    · cases hlost
  returns hshut hheld hstuck := by
    obtain ⟨-, -, hdeserted⟩ := h.settled hheld hstuck
    rw [Service.after, hshut, hdeserted hshut]
    rfl
  first hopen := by
    rw [Service.after, if_pos hopen, h.accepted]
  again hshut := by
    rw [Service.after, if_neg (ne_true_of_eq_false hshut), h.accepted]

/-- Whatever has happened, the queue is bounded and says so, each accepted task is executed once and in turn
and its caller told the outcome, and the first call of `close` has waited for all that was accepted before. -/
theorem Reached.dependable (h : Reached s) : s.Dependable :=
  ⟨h.orderly.admits, h.orderly.executes, h.orderly.replies, h.orderly.closes⟩

/-- The service after several events, if they can happen one after another. -/
def afterAll (s : Service) (events : List Event) : Option Service := events.foldlM after s

theorem Reached.afterAll (h : Reached s) {events : List Event} (hafter : s.afterAll events = some s') :
    Reached s' := by
  induction events generalizing s with
  | nil => exact Option.some_inj.mp hafter ▸ h
  | cons event events ih =>
    obtain ⟨s₁, hfirst, hrest⟩ := Option.bind_eq_some_iff.mp hafter
    exact ih (h.step event hfirst) hrest

/-- One worker, and room for one task in the queue. -/
def narrowConfig : EngineConfig :=
  { workers := 1, queueSize := 1, textWeight := Binary64.one, vectorWeight := Binary64.one }

def narrowService : Service where
  engine := { config := narrowConfig, indexes := smallEngine.indexes }

theorem open_narrowConfig : Engine.open narrowConfig smallEngine.indexes = .ok narrowService.engine := by
  obtain ⟨u, hvalid⟩ := exists_of_isOk (show narrowConfig.validate.isOk = true by decide +kernel)
  rw [Engine.open, hvalid]
  rfl

theorem reached_narrowService : Reached narrowService := .opened open_narrowConfig

/-- A removal is under way when a document is offered twice; the second offer finds the queue full. After
`close` the worker goes on with the document. Another removal is too late. -/
def narrowEvents : List Event :=
  [.call false (.delete "a"), .take, .call false (.update smallDocument),
    .call false (.update smallDocument), .close, .move 0, .take, .move 0, .move 0, .move 0, .leave,
    .call true (.delete "b"), .letGo, .closed, .tell 0, .tell 1, .tell 2]

theorem dependable_narrow : ∃ s, narrowService.afterAll narrowEvents = some s ∧ Reached s ∧
    s.told.map (fun reply => (reply.1, reply.2.isOk)) = [(2, false), (1, true), (0, true)] ∧
      s.Dependable := by
  have htold : (narrowService.afterAll narrowEvents).map
      (fun s => s.told.map fun reply => (reply.1, reply.2.isOk)) =
        some [(2, false), (1, true), (0, true)] := by decide +kernel
  obtain ⟨s, hafter, htold⟩ := Option.map_eq_some_iff.mp htold
  have hreached := reached_narrowService.afterAll hafter
  exact ⟨s, hafter, hreached, htold, hreached.dependable⟩

/-- Every call of `close` that has returned has waited for all that was accepted before it. -/
structure AwaitsAll (s : Service) : Prop where
  closed : s.hasClosed = true → ∃ count, s.closedAt = some count ∧
    ∀ number < count, number ∈ s.engine.answers.map Prod.fst
  again : ∀ count ∈ s.againAt, ∀ number < count, number ∈ s.engine.answers.map Prod.fst

/-- A worker waits for the store with a document while `close` is called twice. -/
def heldEvents : List Event :=
  [.hold, .call false (.index smallDocument), .take, .move 0, .close, .close]

/-- The second call has returned, and the document is still waiting. -/
theorem not_awaitsAll_held :
    ∃ s, narrowService.afterAll heldEvents = some s ∧ Reached s ∧ ¬s.AwaitsAll := by
  have hreturned : (narrowService.afterAll heldEvents).map (fun s =>
      (s.againAt, s.engine.answers.map Prod.fst)) = some ([1], []) := by decide +kernel
  obtain ⟨s, hafter, hreturned⟩ := Option.map_eq_some_iff.mp hreturned
  refine ⟨s, hafter, reached_narrowService.afterAll hafter, fun hawaits => ?_⟩
  have hagain : s.againAt = [1] := congrArg Prod.fst hreturned
  have hanswers : s.engine.answers.map Prod.fst = [] := congrArg Prod.snd hreturned
  have hdone := hawaits.again 1 (hagain ▸ List.mem_singleton_self 1) 0 Nat.one_pos
  rw [hanswers] at hdone
  cases hdone

end Service

end HybridSearch

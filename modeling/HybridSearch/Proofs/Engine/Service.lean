import HybridSearch.Proofs.Engine.History
import HybridSearch.Proofs.Engine.Workers

/-!
# The engine and its callers

A caller finds the engine open, then offers its task to the queue, and waits for what the task comes to. The
queue takes a task for as long as a worker holds on to it; what is left in it when the last worker lets go is
discarded. Once the engine is closed a worker stops taking tasks when it finds the queue empty, and lets go of
the queue later: a caller that found the engine open may still offer its task in between. The first call of
`close` returns when all workers have let go, if its caller still waits; later calls return at once.
-/
namespace HybridSearch

/-- An engine with what its callers know and with the workers that have stopped. The tasks are those that were
accepted, by their numbers; `left` counts the workers that have stopped taking tasks and `gone` those of them
that have let go of the queue. `closedAt` is the number of tasks that were accepted before the first call of
`close`, and `againAt` has these numbers for the later calls, which have all returned. -/
structure Service where
  engine : Engine
  tasks : List Task := []
  taken : List Nat := []
  left : Nat := 0
  gone : Nat := 0
  discarded : List Nat := []
  closedAt : Option Nat := none
  hasClosed : Bool := false
  againAt : List Nat := []
  told : List (Nat × Except EngineError Unit) := []

namespace Service

/-- What can happen at a time. A call is `late` when its caller found the engine open before it was closed.
The indexes may also be used elsewhere. -/
inductive Event where
  | call (late : Bool) (task : Task)
  | take
  | move (position : Nat)
  | leave
  | letGo
  | hold
  | release
  | close
  | closed
  | tell (number : Nat)
  | search (cancelled : Bool) (request : SearchRequest) (nanos : Nat)
  | elsewhere (text : TextIndex) (vector : VectorIndex) (store : StoreHandle)

def workers (s : Service) : Nat := s.engine.config.workers

def hasIdle (s : Service) : Bool := s.engine.begun.length + s.left < s.workers

/-- Nobody will ever take a task. -/
def isDeserted (s : Service) : Bool := s.gone == s.workers

def accept (s : Service) (task : Task) : Service :=
  { s with engine := s.engine.enqueue task, tasks := s.tasks ++ [task] }

def offer (s : Service) (late : Bool) (task : Task) : Except EngineError Service :=
  if !(s.engine.isOpen || late) then .error .shutDown
  else if s.isDeserted then .error .shutDown
  else if s.engine.config.queueSize ≤ s.engine.queue.length then
    .error (Engine.fullQueueError s.engine.config task)
  else .ok (s.accept task)

/-- A worker lets go of the queue; the last one discards what is in it. -/
def letGo (s : Service) : Service :=
  let s := { s with gone := s.gone + 1 }
  if s.isDeserted then
    { s with
      engine := { s.engine with queue := [] }
      discarded := s.engine.queue.map Job.number }
  else s

/-- What the caller of an accepted task is told, once there is something to tell. -/
def reply? (s : Service) (number : Nat) : Option (Except EngineError Unit) :=
  match s.engine.answer? number with
  | some result => some result
  | none => if s.discarded.contains number || s.hasClosed then some (.error .shutDown) else none

/-- The service after an event, if it can happen. -/
def after (s : Service) : Event → Option Service
  | .call late task => some ((s.offer late task).toOption.getD s)
  | .take =>
    match s.engine.queue with
    | [] => none
    | job :: _ =>
      if s.hasIdle then
        some { s with engine := s.engine.takeTask, taken := s.taken ++ [job.number] }
      else none
  | .move position =>
    match s.engine.begun[position]? with
    | none => none
    | some a => if s.engine.canMove a then some { s with engine := s.engine.moveWorker position } else none
  | .leave =>
    if !s.engine.isOpen && s.engine.queue.isEmpty && s.hasIdle then some { s with left := s.left + 1 }
    else none
  | .letGo => if s.gone < s.left then some s.letGo else none
  | .hold => some { s with engine := s.engine.hold }
  | .release => some { s with engine := s.engine.release }
  | .close =>
    if s.engine.isOpen then
      some { s with engine := s.engine.close, closedAt := some s.engine.accepted }
    else some { s with againAt := s.engine.accepted :: s.againAt }
  | .closed => if !s.engine.isOpen && s.isDeserted then some { s with hasClosed := true } else none
  | .tell number =>
    if number < s.tasks.length ∧ number ∉ s.told.map Prod.fst then
      (s.reply? number).map fun reply => { s with told := (number, reply) :: s.told }
    else none
  | .search cancelled request nanos =>
    some { s with engine := (s.engine.search cancelled request nanos).2 }
  | .elsewhere text vector store =>
    if vector.config = s.engine.indexes.vector.config then
      some { s with engine := { s.engine with indexes := ⟨text, vector, store⟩ } }
    else none

/-- Services of an engine that was opened over any indexes, and what becomes of them. -/
inductive Reached : Service → Prop
  | opened {config : EngineConfig} {ixs : Indexes} {e : Engine} (hopen : Engine.open config ixs = .ok e) :
      Reached { engine := e }
  | step {s s' : Service} (h : Reached s) (event : Event) (hafter : s.after event = some s') : Reached s'

variable {s s' : Service}

theorem of_after_take (h : s.after .take = some s') : ∃ job rest, s.engine.queue = job :: rest ∧
    s.hasIdle = true ∧
      s' = { s with engine := s.engine.takeTask, taken := s.taken ++ [job.number] } := by
  rw [after] at h
  split at h
  · cases h
  · next job rest hqueue =>
    obtain ⟨hidle, hafter⟩ := Option.ite_none_right_eq_some.mp h
    exact ⟨job, rest, hqueue, hidle, (Option.some_inj.mp hafter).symm⟩

theorem of_after_move {position : Nat} (h : s.after (.move position) = some s') :
    ∃ a, s.engine.begun[position]? = some a ∧ s.engine.canMove a = true ∧
      s' = { s with engine := s.engine.moveWorker position } := by
  rw [after] at h
  split at h
  · cases h
  · next a hposition =>
    obtain ⟨hmove, hafter⟩ := Option.ite_none_right_eq_some.mp h
    exact ⟨a, hposition, hmove, (Option.some_inj.mp hafter).symm⟩

theorem of_after_leave (h : s.after .leave = some s') : s.engine.isOpen = false ∧ s.engine.queue = [] ∧
    s.hasIdle = true ∧ s' = { s with left := s.left + 1 } := by
  obtain ⟨hleave, hafter⟩ := Option.ite_none_right_eq_some.mp h
  obtain ⟨hclosed, hidle⟩ := Bool.and_eq_true_iff.mp hleave
  obtain ⟨hclosed, hempty⟩ := Bool.and_eq_true_iff.mp hclosed
  exact ⟨(Bool.not_eq_true' _).mp hclosed, List.isEmpty_iff.mp hempty, hidle,
    (Option.some_inj.mp hafter).symm⟩

theorem of_after_letGo (h : s.after .letGo = some s') : s.gone < s.left ∧ s' = s.letGo := by
  obtain ⟨hleft, hafter⟩ := Option.ite_none_right_eq_some.mp h
  exact ⟨hleft, (Option.some_inj.mp hafter).symm⟩

theorem of_after_close (h : s.after .close = some s') :
    s.engine.isOpen = true ∧
        s' = { s with engine := s.engine.close, closedAt := some s.engine.accepted } ∨
      s.engine.isOpen = false ∧ s' = { s with againAt := s.engine.accepted :: s.againAt } := by
  rw [after] at h
  split at h
  · next hopen => exact .inl ⟨hopen, (Option.some_inj.mp h).symm⟩
  · next hshut => exact .inr ⟨eq_false_of_ne_true hshut, (Option.some_inj.mp h).symm⟩

theorem of_after_closed (h : s.after .closed = some s') : s.engine.isOpen = false ∧
    s.isDeserted = true ∧ s' = { s with hasClosed := true } := by
  obtain ⟨hclosed, hafter⟩ := Option.ite_none_right_eq_some.mp h
  obtain ⟨hclosed, hdeserted⟩ := Bool.and_eq_true_iff.mp hclosed
  exact ⟨(Bool.not_eq_true' _).mp hclosed, hdeserted, (Option.some_inj.mp hafter).symm⟩

theorem of_after_tell {number : Nat} (h : s.after (.tell number) = some s') :
    number < s.tasks.length ∧ number ∉ s.told.map Prod.fst ∧
      ∃ reply, s.reply? number = some reply ∧ s' = { s with told := (number, reply) :: s.told } := by
  obtain ⟨⟨haccepted, hfirst⟩, hafter⟩ := Option.ite_none_right_eq_some.mp h
  obtain ⟨reply, hreply, rfl⟩ := Option.map_eq_some_iff.mp hafter
  exact ⟨haccepted, hfirst, reply, hreply, rfl⟩

theorem of_after_elsewhere {text : TextIndex} {vector : VectorIndex} {store : StoreHandle}
    (h : s.after (.elsewhere text vector store) = some s') :
    vector.config = s.engine.indexes.vector.config ∧
      s' = { s with engine := { s.engine with indexes := ⟨text, vector, store⟩ } } := by
  obtain ⟨hconfig, hafter⟩ := Option.ite_none_right_eq_some.mp h
  exact ⟨hconfig, (Option.some_inj.mp hafter).symm⟩

def jobs (s : Service) : List Job := s.tasks.zipIdx.map fun entry => ⟨entry.2, entry.1⟩

def pending (s : Service) : List Job := s.jobs.drop s.taken.length

/-- Whoever holds on to the queue finds in it what is pending, in order of acceptance. -/
structure Queued (s : Service) : Prop where
  room : 0 < s.engine.config.queueSize
  bounded : s.engine.queue.length ≤ s.engine.config.queueSize
  queue : s.engine.queue = if s.isDeserted then [] else s.pending
  discarded : s.discarded = if s.isDeserted then s.pending.map Job.number else []
  accepted : s.engine.accepted = s.tasks.length
  taken : s.taken = List.range s.taken.length
  taken_le : s.taken.length ≤ s.tasks.length

/-- No more workers are busy or gone than there are, and they stop only when the engine is closed and they
have taken all that was accepted before. -/
structure Staffed (s : Service) : Prop where
  workers : 0 < s.workers
  busy : s.engine.begun.length + s.left ≤ s.workers
  gone_le : s.gone ≤ s.left
  isOpen : s.engine.isOpen = true → s.left = 0 ∧ s.closedAt = none
  isClosed : s.engine.isOpen = false → ∃ count, s.closedAt = some count ∧ count ≤ s.tasks.length
  drained : 0 < s.left → ∀ count, s.closedAt = some count → count ≤ s.taken.length
  hasClosed : s.hasClosed = true → s.isDeserted = true

/-- What a worker has begun is an accepted task. -/
def HasBegun (s : Service) (config : VectorConfig) (a : Assignment) : Prop :=
  ∃ task, s.tasks[a.number]? = some task ∧ a.Carries config task

/-- An answer is what the execution of an accepted task came to. -/
def HasAnswered (s : Service) (config : VectorConfig) (answer : Nat × Except EngineError Unit) : Prop :=
  ∃ task result, s.tasks[answer.1]? = some task ∧ task.Comes config (.finished result) ∧
    answer.2 = result.map fun _ => ()

/-- Each task that was taken has been begun or answered, once. -/
structure Accounted (s : Service) : Prop where
  assigned : s.engine.numbers.Perm s.taken
  begun : ∀ a ∈ s.engine.begun, s.HasBegun s.engine.indexes.vector.config a
  answers : ∀ answer ∈ s.engine.answers, s.HasAnswered s.engine.indexes.vector.config answer

/-- A caller is told once what its task came to, or that nobody will do it. -/
structure Informed (s : Service) : Prop where
  told : ∀ reply ∈ s.told, reply ∈ s.engine.answers ∨
    reply.2 = .error .shutDown ∧ reply.1 ∈ s.discarded
  once : (s.told.map Prod.fst).Nodup

structure Orderly (s : Service) : Prop extends s.Queued, s.Staffed, s.Accounted, s.Informed

theorem length_jobs (s : Service) : s.jobs.length = s.tasks.length := by simp [jobs]

theorem numbers_jobs (s : Service) : s.jobs.map Job.number = List.range s.tasks.length := by
  rw [jobs, List.map_map]
  exact (List.zipIdx_map_snd 0 s.tasks).trans List.range_eq_range'.symm

theorem getElem?_jobs (s : Service) (number : Nat) :
    s.jobs[number]? = s.tasks[number]?.map fun task => ⟨number, task⟩ := by
  simp only [jobs, List.getElem?_map, List.getElem?_zipIdx, Option.map_map, Nat.zero_add]
  rfl

theorem length_accept (s : Service) (task : Task) :
    (s.accept task).tasks.length = s.tasks.length + 1 := List.length_append

theorem jobs_accept (s : Service) (task : Task) :
    (s.accept task).jobs = s.jobs ++ [⟨s.tasks.length, task⟩] := by
  simp [jobs, accept, List.zipIdx_append]

theorem pending_cons {job : Job} {rest : List Job} (h : s.pending = job :: rest) :
    job.number = s.taken.length ∧ s.tasks[job.number]? = some job.task ∧
      rest = s.jobs.drop (s.taken.length + 1) := by
  have hjob : s.jobs[s.taken.length]? = some job := by
    rw [← List.head?_drop, ← pending, h]
    rfl
  rw [getElem?_jobs] at hjob
  obtain ⟨task, htask, rfl⟩ := Option.map_eq_some_iff.mp hjob
  refine ⟨rfl, htask, ?_⟩
  rw [← List.drop_drop, ← pending, h]
  rfl

end Service

end HybridSearch

import HybridSearch.Engine.Search

/-!
# The engine

Writes wait in a queue of bounded length for one of a fixed number of workers, which take them in the
order in which they were accepted. The vector index serves one worker at a time, and its store may be
held, which makes the worker that has something to write wait. Searches do not go through the queue.
Closing the engine lets the workers finish what was accepted and refuses everything else.
-/
namespace HybridSearch

/-- An accepted task; tasks are numbered in the order of acceptance. -/
structure Job where
  number : Nat
  task : Task
  deriving Repr

/-- A task that a worker has begun. It waits for its turn at the vector index, or, with a commit, for the
store. `depth` is the length of the queue after the task was taken. -/
structure Assignment where
  number : Nat
  depth : Nat
  stage : Stage
  commit : Option Commit := none
  deriving Repr

/-- `answers` holds what the tasks came to, the last finished first. -/
structure Engine where
  config : EngineConfig
  indexes : Indexes
  queue : List Job := []
  begun : List Assignment := []
  accepted : Nat := 0
  answers : List (Nat × Except EngineError Unit) := []
  statistics : Statistics := {}
  isOpen : Bool := true
  isHeld : Bool := false

namespace Engine

def «open» (config : EngineConfig) (indexes : Indexes) : Except EngineError Engine :=
  match config.validate with
  | .error fault => .error (.invalidConfig fault)
  | .ok () => .ok { config, indexes }

def hasStopped (e : Engine) : Bool := !e.isOpen && e.queue.isEmpty && e.begun.isEmpty

/-- What a task is told when the queue stays full; only indexing waits for room. -/
def fullQueueError (c : EngineConfig) : Task → EngineError
  | .index _ => .enqueueTimeout c.enqueueTimeout
  | _ => .queueFull

/-- Puts a task behind the others and gives it a number. -/
def enqueue (e : Engine) (task : Task) : Engine :=
  let queue := e.queue ++ [⟨e.accepted, task⟩]
  { e with
    queue
    accepted := e.accepted + 1
    statistics := e.statistics.setQueueDepth queue.length }

/-- Accepts a task if there is room for it and someone to work on it; gives its number, too. -/
def send (e : Engine) (task : Task) : Except EngineError (Engine × Nat) :=
  if e.hasStopped then .error .shutDown
  else if e.config.queueSize ≤ e.queue.length then .error (fullQueueError e.config task)
  else .ok (e.enqueue task, e.accepted)

def submit (e : Engine) (task : Task) : Except EngineError (Engine × Nat) :=
  if e.isOpen then e.send task else .error .shutDown

def answer? (e : Engine) (number : Nat) : Option (Except EngineError Unit) := e.answers.lookup number

def finish (e : Engine) (number depth : Nat) (result : TaskResult) : Engine :=
  { e with
    answers := (number, result.map fun _ => ()) :: e.answers
    statistics := match result with
      | .ok outcome => e.statistics.recordWrite outcome depth
      | .error _ => e.statistics.recordFailure depth }

def resume (e : Engine) (number depth : Nat) (part : Indexes × Progress) : Engine :=
  let e := { e with indexes := part.1 }
  match part.2 with
  | .reached stage => { e with begun := e.begun ++ [⟨number, depth, stage, none⟩] }
  | .finished result => e.finish number depth result

def takeTask (e : Engine) : Engine :=
  if e.begun.length < e.config.workers then
    match e.queue with
    | [] => e
    | job :: queue =>
      ({ e with queue }).resume job.number queue.length (e.indexes.start job.task)
  else e

/-- Whether some worker has the vector index for itself. -/
def isWriting (e : Engine) : Bool := e.begun.any (·.commit.isSome)

def canMove (e : Engine) (a : Assignment) : Bool :=
  match a.commit with
  | some _ => !e.isHeld
  | none => !e.isWriting

/-- Works out the next write of a task; without one it goes on at once. -/
def prepareWrite (e : Engine) (a : Assignment) (before after : List Assignment) : Engine :=
  match a.stage.change.prepare e.indexes.vector e.indexes.store with
  | (vector, .ok (some commit)) =>
    { e with
      indexes := { e.indexes with vector }
      begun := before ++ { a with commit := some commit } :: after }
  | (vector, .ok none) =>
    ({ e with begun := before ++ after }).resume a.number a.depth
      (({ e.indexes with vector }).proceed a.stage (.ok ()))
  | (vector, .error cause) =>
    ({ e with begun := before ++ after }).resume a.number a.depth
      (({ e.indexes with vector }).proceed a.stage (.error cause))

def performWrite (e : Engine) (a : Assignment) (commit : Commit) (others : List Assignment) : Engine :=
  let o := a.stage.change.write e.indexes.vector e.indexes.store commit
  ({ e with begun := others }).resume a.number a.depth
    (({ e.indexes with vector := o.index, store := o.store }).proceed a.stage o.result)

/-- The worker at a position goes on, if it can. -/
def moveWorker (e : Engine) (position : Nat) : Engine :=
  match e.begun[position]? with
  | none => e
  | some a =>
    let before := e.begun.take position
    let after := e.begun.drop (position + 1)
    if e.canMove a then
      match a.commit with
      | some commit => e.performWrite a commit (before ++ after)
      | none => e.prepareWrite a before after
    else e

/-- The first worker that can go on does so; when none can, the next task is taken. -/
def work (e : Engine) : Engine :=
  match e.begun.findIdx? e.canMove with
  | some position => e.moveWorker position
  | none => e.takeTask

def workFor : Nat → Engine → Engine
  | 0, e => e
  | steps + 1, e => workFor steps e.work

/-- A task takes at most this many steps: it is taken, and changes the vector index twice, each time in
two steps. -/
def stepsPerTask : Nat := 5

def settle (e : Engine) : Engine := workFor (stepsPerTask * (e.queue.length + e.begun.length)) e

/-- Submits a task and waits for its answer. A task that no worker will run is told so. -/
def perform (e : Engine) (task : Task) : Engine × Except EngineError Unit :=
  match e.submit task with
  | .error cause => (e, .error cause)
  | .ok (e, number) =>
    let e := e.settle
    (e, (e.answer? number).getD (.error .shutDown))

def hold (e : Engine) : Engine := { e with isHeld := true }

def release (e : Engine) : Engine := { e with isHeld := false }

def close (e : Engine) : Engine := { e with isOpen := false }

/-- A search that takes some time to answer; only an answered one is counted. -/
def search (e : Engine) (cancelled : Bool) (r : SearchRequest) (nanos : Nat) :
    Except EngineError SearchPage × Engine :=
  if !e.isOpen then (.error .shutDown, e)
  else
    let (answer, indexes) := e.indexes.search e.config cancelled r
    let e := { e with indexes }
    match answer with
    | .error cause => (.error cause, e)
    | .ok page => (.ok page, { e with statistics := e.statistics.recordSearch nanos })

def document (e : Engine) (id tenant : String) : Except EngineError Document :=
  e.indexes.document id tenant

def tenantDocuments (e : Engine) (tenant : String) (limit offset : Nat) :
    Except EngineError (List Document) :=
  e.indexes.tenantDocuments e.config tenant limit offset

def currentStatistics (e : Engine) : Statistics := e.statistics.setQueueDepth e.queue.length

def textStatistics (e : Engine) : Except EngineError TextStatistics :=
  e.indexes.text.statistics.mapError .text

def withText (e : Engine) (next : Except TextError TextIndex) : Except EngineError Engine :=
  match next with
  | .ok text => .ok { e with indexes := { e.indexes with text } }
  | .error cause => .error (.text cause)

def optimize (e : Engine) : Except EngineError Engine := e.withText e.indexes.text.optimize

/-- Discards all text entries. Embeddings stay, but are not found before they are indexed again. -/
def rebuildText (e : Engine) : Except EngineError Engine := e.withText e.indexes.text.rebuild

end Engine

end HybridSearch

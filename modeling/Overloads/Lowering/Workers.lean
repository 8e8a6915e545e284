import Overloads.Lowering.Program

/-! Lowering of a program by several workers. They take types from a shared queue and keep the
results to themselves; the diagnostics of a type go to a shared buffer, all of them at once. Who
takes which type, and whose diagnostics arrive first, is left open. -/

namespace Overloads

/-- A type that is to be lowered, with its position in the program. -/
abbrev Job := TypeDecl × Nat

def Completed.of (s : Setting) (job : Job) : Completed := ⟨job.2, job.1.lower s⟩

inductive WorkerState
  | idle
  | lowering (job : Job)
  | stopped

/-- A worker with its own results, the latest one last. -/
structure Worker where
  state : WorkerState := .idle
  results : List Completed := []

def Worker.isStopped (w : Worker) : Bool :=
  match w.state with
  | .stopped => true
  | _ => false

/-- The types that wait, the workers, and what went to the buffer so far, in the order of its
arrival. -/
structure Pool where
  queue : List Job
  workers : List Worker
  reports : List Completed := []

/-- There is at least one worker, and there are no more of them than types. -/
def Program.workerCount (p : Program) (available : Nat) : Nat :=
  max 1 (min available p.types.length)

namespace Pool

/-- What a worker may do next. Without success, it may try again. -/
inductive Event
  | take (worker position : Nat)
  | retry (worker : Nat)
  | finish (worker : Nat)
  | stop (worker : Nat)

def Event.isRetry : Event → Bool
  | .retry _ => true
  | _ => false

def start (p : Program) (available : Nat) : Pool :=
  { queue := p.types.zipIdx
    workers := List.replicate (p.workerCount available) {} }

/-- An idle worker takes any type that waits, and stops once there is none. A type leaves the queue
when it is taken. -/
def step? (s : Setting) (pool : Pool) : Event → Option Pool
  | .take worker position =>
    match pool.workers[worker]?, pool.queue[position]? with
    | some ⟨.idle, results⟩, some job =>
      some { pool with
        queue := pool.queue.eraseIdx position
        workers := pool.workers.set worker ⟨.lowering job, results⟩ }
    | _, _ => none
  | .retry worker =>
    match pool.workers[worker]? with
    | some ⟨.idle, _⟩ => some pool
    | _ => none
  | .finish worker =>
    match pool.workers[worker]? with
    | some ⟨.lowering job, results⟩ =>
      some { pool with
        workers := pool.workers.set worker ⟨.idle, results ++ [.of s job]⟩
        reports := pool.reports ++ [.of s job] }
    | _ => none
  | .stop worker =>
    match pool.workers[worker]?, pool.queue with
    | some ⟨.idle, results⟩, [] =>
      some { pool with workers := pool.workers.set worker ⟨.stopped, results⟩ }
    | _, _ => none

def run? (s : Setting) (pool : Pool) (events : List Event) : Option Pool :=
  events.foldlM (step? s) pool

def isJoined (pool : Pool) : Bool := pool.workers.all Worker.isStopped

end Pool
end Overloads

import PolicyWatch.Reprocess.Request

/-!
# Workers

A worker takes IDs from the queue and reprocesses their deployments, one after
the other, until it is cancelled or the queue is closed and drained.
-/

namespace PolicyWatch.Reprocess

inductive Occupation where
  | seeking (popper : Popper)
  | running (request : Request)
  deriving DecidableEq

/-- A worker: the task that it is, what it does and what it has counted. -/
structure Worker where
  task : Nat
  occupation : Occupation
  summary : PoolSummary
  deriving DecidableEq

/-- How a worker ends: with its counts, or by a crash in which they are lost. -/
abbrev WorkerEnd := Option PoolSummary

namespace Worker

def new (task : Nat) : Worker := ⟨task, .seeking .starting, .empty⟩

/-- The ID that a worker has taken and not counted. -/
def current? (worker : Worker) : Option String :=
  match worker.occupation with
  | .seeking _ => none
  | .running request => some request.id

def alarm? (worker : Worker) : Option Alarm :=
  match worker.occupation with
  | .seeking _ => none
  | .running request => request.alarm?

/-- Go on with something else. -/
def turnTo (worker : Worker) (occupation : Occupation) (pipeline : Pipeline) :
    Option (Progress Worker WorkerEnd × Pipeline) :=
  some (.going { worker with occupation }, pipeline)

/-- Count a result and seek the next ID. -/
def record (worker : Worker) (result : Result) (pipeline : Pipeline) :
    Option (Progress Worker WorkerEnd × Pipeline) :=
  some (.going ⟨worker.task, .seeking .starting, worker.summary.record result⟩, pipeline)

/-- The next step of a worker, unless it waits on. -/
def step? (isCancelled : Bool) (pipeline : Pipeline) (worker : Worker) :
    Option (Progress Worker WorkerEnd × Pipeline) :=
  match worker.occupation with
  | .seeking popper =>
      if isCancelled then
        let (woken, inbox) := popper.leave worker.task pipeline.inbox
        some (.over (some worker.summary), { pipeline with inbox }.wakeNext woken)
      else
        match popper.step? worker.task pipeline.inbox with
        | none => none
        | some (.going next, inbox) => worker.turnTo (.seeking next) { pipeline with inbox }
        | some (.over none, inbox) => some (.over (some worker.summary), { pipeline with inbox })
        | some (.over (some id), inbox) =>
            worker.turnTo (.running (.new worker.task id)) { pipeline with inbox }
  | .running request =>
      match request.step? isCancelled pipeline with
      | none => none
      | some (.going next, changed) => worker.turnTo (.running next) changed
      | some (.over (.finished result), changed) => worker.record result changed
      | some (.over .crashed, changed) => some (.over none, changed)

end Worker

end PolicyWatch.Reprocess

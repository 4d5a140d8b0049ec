import PolicyWatch.Failure
import PolicyWatch.Reprocess.Gate

/-!
# Outcomes of reprocessing

A request to reprocess a deployment ends well, also if the deployment is gone, or
with an error that names the step that ended it.
-/

namespace PolicyWatch.Reprocess

/-- The good end of a request. -/
inductive Outcome where
  /-- The risk was reprocessed with so many alerts. -/
  | completed (alerts : Nat)
  | notFound
  deriving DecidableEq, Repr

/-- Why a request failed. -/
inductive ReprocessError where
  | admission (error : AdmissionError)
  | cancelled (id : String)
  | fetch (id : String) (cause : Failure)
  | risk (id : String) (cause : Failure)
  deriving DecidableEq, Repr

/-- The state in which a request ends. -/
inductive FinalState where
  | completed
  | failed
  | timedOut
  | cancelled
  deriving DecidableEq, Repr

def FinalState.name : FinalState → String
  | completed => "completed"
  | failed => "failed"
  | timedOut => "timed_out"
  | cancelled => "cancelled"

namespace ReprocessError

def message : ReprocessError → String
  | admission error => error.message
  | cancelled id => "cancelled while reprocessing deployment '" ++ id ++ "'"
  | fetch id _ => "failed to fetch deployment '" ++ id ++ "'"
  | risk id _ => "risk reprocessing failed for deployment '" ++ id ++ "'"

def cause? : ReprocessError → Option Failure
  | fetch _ cause => some cause
  | risk _ cause => some cause
  | _ => none

def state : ReprocessError → FinalState
  | admission (.timedOut _) => .timedOut
  | admission .cancelled => .cancelled
  | cancelled _ => .cancelled
  | _ => .failed

end ReprocessError

inductive Result where
  | success (outcome : Outcome)
  | failure (error : ReprocessError)
  deriving DecidableEq, Repr

/-- The counts of a pool's results, one for each way to end. -/
structure PoolSummary where
  completed : Nat
  notFound : Nat
  failed : Nat
  timedOut : Nat
  cancelled : Nat
  deriving DecidableEq, Repr

namespace PoolSummary

def empty : PoolSummary := ⟨0, 0, 0, 0, 0⟩

def record (summary : PoolSummary) (result : Result) : PoolSummary :=
  match result with
  | .success (.completed _) => { summary with completed := summary.completed + 1 }
  | .success .notFound => { summary with notFound := summary.notFound + 1 }
  | .failure error =>
      match error.state with
      | .timedOut => { summary with timedOut := summary.timedOut + 1 }
      | .cancelled => { summary with cancelled := summary.cancelled + 1 }
      | _ => { summary with failed := summary.failed + 1 }

def merge (summary others : PoolSummary) : PoolSummary where
  completed := summary.completed + others.completed
  notFound := summary.notFound + others.notFound
  failed := summary.failed + others.failed
  timedOut := summary.timedOut + others.timedOut
  cancelled := summary.cancelled + others.cancelled

def total (summary : PoolSummary) : Nat :=
  summary.completed + summary.notFound + summary.failed + summary.timedOut + summary.cancelled

end PoolSummary

end PolicyWatch.Reprocess

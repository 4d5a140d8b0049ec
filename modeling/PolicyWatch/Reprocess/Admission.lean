import PolicyWatch.Reprocess.Pipeline

/-!
# Waiting for admission

A task asks the gate for a slot and, if none is free, waits until it is given
one, is cancelled, has waited too long or finds the gate closed.
-/

namespace PolicyWatch.Reprocess

/-- Where a task stands that wants a slot. -/
inductive Admission where
  | arriving
  /-- It waits, at most until an alarm if there is one. -/
  | waiting (deadline : Option Alarm)
  deriving DecidableEq, Repr

namespace Admission

def alarm? : Admission → Option Alarm
  | arriving => none
  | waiting deadline => deadline

/-- The next step of a task that wants a slot, unless it waits on. -/
def step? (task : Nat) (isCancelled : Bool) (pipeline : Pipeline) :
    Admission → Option (Progress Admission Verdict × Pipeline)
  | arriving =>
      match pipeline.gate.arrive task isCancelled with
      | (some verdict, gate) => some (.over verdict, { pipeline with gate })
      | (none, gate) =>
          let (deadline, timed) := { pipeline with gate }.setAlarm gate.waitLimit
          some (.going (.waiting deadline), timed)
  | waiting deadline =>
      match pipeline.gate.resume task isCancelled (deadline.any pipeline.hasElapsed) with
      | (some verdict, next, gate) =>
          some (.over verdict, { pipeline with gate }.wakeNext next)
      | (none, _, _) => none

/-- A task goes away without waiting any longer. -/
def leave (task : Nat) (pipeline : Pipeline) : Admission → Pipeline
  | arriving => pipeline
  | waiting _ =>
      let (next, gate) := pipeline.gate.withdraw task
      { pipeline with gate }.wakeNext next

end Admission

end PolicyWatch.Reprocess

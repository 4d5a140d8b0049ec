import PolicyWatch.Detector.Evaluation
import PolicyWatch.Reprocess.Schedule

/-!
# Reprocessing stored deployments

The deployments of a file, or those of one cluster, are queued and reprocessed by
a pool of workers behind the gate.  For each of them a line is put out.
-/

namespace PolicyWatch.Detector

open Reprocess (Gate Pipeline PoolSummary Schedule Store)

/-- What the system says of a directory that is read like a file. -/
def directoryFault : String := "Is a directory (os error 21)"

/-- Store the deployments of the lines of a file, the first of which has a number.
A line that is none is a failure. -/
def readDeployments (path : String) : Nat → Store → List (List Char) → Except Failure Store
  | _, store, [] => .ok store
  | number, store, line :: rest =>
      if isBlankLine line then readDeployments path (number + 1) store rest
      else
        match Json.readDeployment? line with
        | none =>
            .error (.ofMessage ("invalid deployment on line " ++ toString number ++ " of " ++ path))
        | some deployment => readDeployments path (number + 1) (store.insert deployment) rest

def loadDeployments (files : FileTree) (path : String) : Except Failure Store :=
  match files.entry? path with
  | none => .error (.ofMessage ("failed to open deployments file: " ++ path))
  | some (.directory _) => .error (.ofMessage directoryFault)
  | some (.spoiled front) => do
      let _ ← readDeployments path 1 Store.empty (Text.lines front.toList)
      .error (.ofMessage FileEntry.spoiledFault)
  | some (.file text) => readDeployments path 1 Store.empty (Text.lines text.toList)

/-- The pipeline over stored deployments, with nothing in its queue. -/
def pipeline (detector : Detector) (store : Store) (gate : Gate) : Pipeline where
  collaborators := .prompt
  registry := detector.registry
  answers := detector.answers
  instant := detector.now
  store := store
  gate := gate
  inbox := .empty
  clock := 0
  alarms := 0
  ready := []
  calls := []

/-- Queue the deployments of a cluster, or all of them, and close the queue. -/
def fill (pipeline : Pipeline) (cluster? : Option String) : Pipeline :=
  let filled := match cluster? with
    | some clusterId => (pipeline.reconcile clusterId).2
    | none => (pipeline.extend pipeline.store.ids).2
  filled.closeQueue

def runPool (pipeline : Pipeline) (workers : Nat) : Schedule :=
  ((Schedule.new pipeline).start "pool" "interrupt" (.opening workers)).run

def poolSummary (schedule : Schedule) : PoolSummary :=
  match schedule.results with
  | [(_, .supervised summary)] => summary
  | _ => .empty

/-- The lines that a run has put out, in order. -/
def linesOf (pipeline : Pipeline) : List OutputLine :=
  pipeline.calls.reverse.filterMap fun
    | .riskEnded _ deployment alerts => some (.reprocessed deployment alerts)
    | _ => none

def closingRecords (summary : PoolSummary) (timeouts : Nat) : List LogRecord :=
  .info "risk reprocessing finished"
      [("completed", Json.ofNat summary.completed),
        ("not_found", Json.ofNat summary.notFound),
        ("failed", Json.ofNat summary.failed),
        ("timed_out", Json.ofNat summary.timedOut),
        ("cancelled", Json.ofNat summary.cancelled),
        ("gate_timeouts", Json.ofNat timeouts)] ::
    if summary.failed = 0 then []
    else [.warn "some deployments failed to reprocess" [("failed", Json.ofNat summary.failed)]]

def reprocessStore (detector : Detector) (settings : ReprocessingSettings) (store : Store)
    (gate : Gate) (cluster? : Option String) : RunReport :=
  let starting := LogRecord.info "risk reprocessing starting"
    [("deployments", Json.ofNat store.size),
      ("max_concurrency", Json.ofNat gate.capacity),
      ("semaphore_wait_secs", Json.ofNat (gate.waitLimit / 1000)),
      ("workers", Json.ofNat settings.workers)]
  let final := runPool (fill (detector.pipeline store gate) cluster?) settings.workers
  ⟨linesOf final.pipeline,
    starting :: closingRecords (poolSummary final) final.pipeline.gate.timeouts,
    .success⟩

/-- Reprocess the deployments of a file.  A gate that cannot be built brings the
program down. -/
def reprocess (detector : Detector) (files : FileTree) (settings : ReprocessingSettings)
    (path : String) (cluster? : Option String) : RunReport :=
  match loadDeployments files path with
  | .error failure => .failed failure
  | .ok store =>
      match Gate.build? settings.maxConcurrency settings.waitMilliseconds with
      | none => ⟨[], [], .crash⟩
      | some gate => detector.reprocessStore settings store gate cluster?

end PolicyWatch.Detector

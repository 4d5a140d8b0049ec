import PolicyWatch.Detector.Output
import PolicyWatch.Proofs.Batch.Run
import PolicyWatch.Proofs.Detector.Selection
import PolicyWatch.Proofs.Json.Rearrangement
import PolicyWatch.Proofs.Queue.QueueSystem
import PolicyWatch.Regex.Size

/-!
# Every selected deployment is reported once

What a run that reprocesses a file of deployments puts out.  Main statement: for any policies,
settings and file, one line for each ID whose last deployment is in the cluster, with the alerts
for that deployment, whatever turns the workers take, or no line if the file cannot be read.
-/

namespace PolicyWatch

open Reprocess (Gate Pipeline Queue Schedule Store workersFor)

namespace Reprocess

/-! ## Filling the queue -/

namespace Pipeline

variable {pipeline : Pipeline}

/-- While nobody waits at the queue, to queue an ID changes nothing but the inbox. -/
theorem push_of_quiet (quiet : pipeline.inbox.notify.waiters = []) (id : String) :
    ∃ inbox, (pipeline.push id).2 = { pipeline with inbox } ∧ inbox.notify.waiters = [] := by
  unfold push Inbox.push
  cases pipeline.inbox.queue.push id with
  | mk taken queue =>
      cases taken with
      | false => exact ⟨_, rfl, quiet⟩
      | true =>
          unfold Notify.notifyOne
          rw [quiet]
          exact ⟨_, rfl, rfl⟩

theorem extend_of_quiet (quiet : pipeline.inbox.notify.waiters = []) (ids : List String) :
    ∃ inbox, (extend ids pipeline).2 = { pipeline with inbox } ∧ inbox.notify.waiters = [] := by
  induction ids generalizing pipeline with
  | nil => exact ⟨_, rfl, quiet⟩
  | cons id rest ih =>
      obtain ⟨between, pushed, stillQuiet⟩ := push_of_quiet quiet id
      obtain ⟨inbox, frame, quietAfter⟩ := @ih { pipeline with inbox := between } stillQuiet
      refine ⟨inbox, ?_, quietAfter⟩
      change (extend rest (pipeline.push id).2).2 = _
      rw [pushed]
      exact frame

theorem closeQueue_of_quiet (quiet : pipeline.inbox.notify.waiters = []) :
    pipeline.closeQueue = { pipeline with inbox := pipeline.inbox.close.2 } := by
  unfold closeQueue Inbox.close Notify.notifyWaiters
  rw [quiet]
  rfl

end Pipeline

end Reprocess

namespace Detector

variable (detector : Detector) (store : Store) (gate : Gate) (cluster? : Option String)

/-- A queue that is filled holds the IDs that are selected, and nothing else has changed. -/
theorem fill_eq (distinct : (store.idsInClusters cluster?).Nodup) :
    ∃ inbox, fill (detector.pipeline store gate) cluster? =
        { detector.pipeline store gate with inbox } ∧
      inbox.queue.order = store.idsInClusters cluster? ∧ inbox.queue.isClosed = true := by
  have fresh : (detector.pipeline store gate).inbox.notify.waiters = [] := rfl
  obtain ⟨inbox, frame, quiet⟩ :=
    Pipeline.extend_of_quiet fresh (store.idsInClusters cluster?)
  have filled : fill (detector.pipeline store gate) cluster? =
      (Pipeline.extend (store.idsInClusters cluster?)
        (detector.pipeline store gate)).2.closeQueue := by
    cases cluster? <;> rfl
  have queue := (Pipeline.extend_queue (store.idsInClusters cluster?)
    (detector.pipeline store gate)).2
  have order : (Queue.extend (store.idsInClusters cluster?) .empty).2.order =
      store.idsInClusters cluster? := by
    rw [(Queue.inStep_empty.extend rfl distinct).order]
    exact List.filter_eq_self.2 fun _ _ => rfl
  rw [frame] at queue
  rw [filled, frame, Pipeline.closeQueue_of_quiet quiet]
  exact ⟨inbox.close.2, rfl, (congrArg Queue.order queue).trans order, rfl⟩

theorem isBatch_fill {maxConcurrency waitLimit : Nat}
    (built : Gate.build? maxConcurrency waitLimit = some gate)
    (distinct : (store.idsInClusters cluster?).Nodup) :
    (fill (detector.pipeline store gate) cluster?).IsBatch maxConcurrency waitLimit := by
  obtain ⟨inbox, filled, _, isClosed⟩ := detector.fill_eq store gate cluster? distinct
  rw [filled]
  exact ⟨built, rfl, isClosed⟩

/-! ## What is reported -/

/-- Whether a deployment is to be reported: it is the last under its ID, and in the cluster, if
there is one. -/
def IsSelected (deployments : List Deployment) (cluster? : Option String)
    (deployment : Deployment) : Prop :=
  IsLast deployments deployment ∧
    ∀ clusterId, cluster? = some clusterId → deployment.clusterId = clusterId

def alertsFor (detector : Detector) (deployment : Deployment) : List Alert :=
  (detector.matchAll (.deployment deployment)).alerts

/-- Whether a text tells of a deployment by its ID, name and cluster, with the alerts for it, each
with an ID of its own and the time of the run.  The members of every object in it, also of those
inside the alerts, stand in ascending order of names. -/
def IsReport (detector : Detector) (deployment : Deployment) (text : String) : Prop :=
  ∃ (ids : List Entropy) (line : Json),
    ids.length = (detector.alertsFor deployment).length ∧
    Json.Rearranged
      (.object [("deployment_id", .string deployment.id),
        ("deployment_name", .string deployment.name),
        ("cluster_id", .string deployment.clusterId),
        ("alerts",
          .array (List.zipWith (stamp detector.now) ids (detector.alertsFor deployment)))])
      line ∧
    line.IsSorted ∧
    text = line.write

/-- Whether lines report the deployments that are to be reported, each once, also when they are
written with any random bytes. -/
def ReportsSelected (detector : Detector) (deployments : List Deployment)
    (cluster? : Option String) (lines : List OutputLine) : Prop :=
  ∃ chosen : List Deployment, (chosen.map Deployment.id).Nodup ∧
    (∀ deployment, deployment ∈ chosen ↔ IsSelected deployments cluster? deployment) ∧
    (lines = chosen.map fun deployment =>
      .reprocessed deployment (detector.alertsFor deployment)) ∧
    ∀ bytes, List.Forall₂ detector.IsReport chosen (writeLines detector.now bytes lines)

variable {detector store gate cluster?}

theorem linesOf_eq (pipeline : Pipeline) :
    linesOf pipeline = pipeline.told.map fun entry => .reprocessed entry.1 entry.2 := by
  unfold linesOf Pipeline.told
  rw [List.map_filterMap]
  refine List.filterMap_congr fun call _ => ?_
  cases call <;> rfl

theorem stampAll_eq (time : Instant) (alerts : List Alert) (bytes : Entropy) :
    ∃ ids : List Entropy, ids.length = alerts.length ∧
      (stampAll time bytes alerts).1 = List.zipWith (stamp time) ids alerts := by
  induction alerts generalizing bytes with
  | nil => exact ⟨[], rfl, rfl⟩
  | cons alert rest ih =>
      obtain ⟨ids, length, stamped⟩ := ih (bytes.drop idLength)
      refine ⟨bytes.take idLength :: ids, congrArg Nat.succ length, ?_⟩
      exact congrArg (stamp time (bytes.take idLength) alert :: ·) stamped

theorem writeLines_isReport (detector : Detector) (chosen : List Deployment) (bytes : Entropy) :
    List.Forall₂ detector.IsReport chosen (writeLines detector.now bytes
      (chosen.map fun deployment => .reprocessed deployment (detector.alertsFor deployment))) := by
  induction chosen generalizing bytes with
  | nil => exact .nil
  | cons deployment rest ih =>
      obtain ⟨ids, length, stamped⟩ :=
        stampAll_eq detector.now (detector.alertsFor deployment) bytes
      refine .cons ⟨ids, _, length, Json.rearranged_sorted _, Json.isSorted_sorted _, ?_⟩ (ih _)
      rw [← stamped]
      rfl

theorem mem_inClusters_ofList {deployments : List Deployment} {deployment : Deployment} :
    deployment ∈ (Store.ofList deployments).inClusters cluster? ↔
      IsSelected deployments cluster? deployment := by
  unfold Store.inClusters IsSelected
  rw [List.mem_filter, Store.mem_ofList]
  cases cluster? with
  | none =>
      refine and_congr_right fun _ => ⟨fun _ clusterId impossible => ?_, fun _ => rfl⟩
      cases impossible
  | some clusterId =>
      refine and_congr_right fun _ => ⟨fun same other named => ?_, fun same => ?_⟩
      · cases named
        exact beq_iff_eq.1 same
      · exact beq_iff_eq.2 (same clusterId rfl)

theorem distinct_inClusters (deployments : List Deployment) (cluster? : Option String) :
    (((Store.ofList deployments).inClusters cluster?).map Deployment.id).Nodup :=
  (Store.distinct_ofList deployments).sublist (List.filter_sublist.map _)

theorem distinct_idsInClusters (deployments : List Deployment) (cluster? : Option String) :
    ((Store.ofList deployments).idsInClusters cluster?).Nodup :=
  (Store.idsInClusters_perm _ _).nodup_iff.2 (distinct_inClusters deployments cluster?)

theorem length_idsInClusters_le (deployments : List Deployment) (cluster? : Option String) :
    ((Store.ofList deployments).idsInClusters cluster?).length ≤ deployments.length := by
  rw [(Store.idsInClusters_perm _ _).length_eq, List.length_map]
  exact Nat.le_trans (List.length_filter_le _ _) (Store.length_ofList_le deployments)

/-- What the risk manager is told of the IDs that are queued is what is selected, each deployment
with its alerts. -/
theorem filterMap_report?_perm (deployments : List Deployment) :
    (((Store.ofList deployments).idsInClusters cluster?).filterMap
        (fill (detector.pipeline (.ofList deployments) gate) cluster?).report?).Perm
      (((Store.ofList deployments).inClusters cluster?).map fun deployment =>
        (deployment, detector.alertsFor deployment)) := by
  obtain ⟨inbox, filled, _, _⟩ := detector.fill_eq (.ofList deployments) gate cluster?
    (distinct_idsInClusters deployments cluster?)
  refine ((Store.idsInClusters_perm _ _).filterMap _).trans (.of_eq ?_)
  rw [List.filterMap_map, filled]
  refine List.filterMap_eq_map_iff_forall_eq_some.2 fun deployment member => ?_
  have stored := (Store.distinct_ofList deployments).get?_eq_some_iff.2
    ⟨List.mem_of_mem_filter member, rfl⟩
  exact congrArg (Option.map fun found => (found, detector.alertsFor found)) stored

theorem reportsSelected_of_told {deployments : List Deployment} {pipeline : Pipeline}
    (told : pipeline.told.Perm (((Store.ofList deployments).inClusters cluster?).map
      fun deployment => (deployment, detector.alertsFor deployment))) :
    detector.ReportsSelected deployments cluster? (linesOf pipeline) := by
  have chosen : (pipeline.told.map Prod.fst).Perm
      ((Store.ofList deployments).inClusters cluster?) := by
    refine (told.map Prod.fst).trans (.of_eq ?_)
    rw [List.map_map]
    exact List.map_id _
  have lines : linesOf pipeline = (pipeline.told.map Prod.fst).map fun deployment =>
      .reprocessed deployment (detector.alertsFor deployment) := by
    rw [linesOf_eq, List.map_map]
    refine List.map_congr_left fun entry listed => ?_
    obtain ⟨deployment, _, rfl⟩ := List.mem_map.1 (told.mem_iff.1 listed)
    rfl
  refine ⟨pipeline.told.map Prod.fst, ?_, fun deployment => ?_, lines, fun bytes => ?_⟩
  · exact (chosen.map Deployment.id).nodup_iff.2 (distinct_inClusters deployments cluster?)
  · exact chosen.mem_iff.trans mem_inClusters_ofList
  · rw [lines]
    exact writeLines_isReport detector _ bytes

/-! ## Whole runs -/

/-- What can become of the pool that a run opens, after so many turns of its tasks, whichever of
them take turns and whenever. -/
def PoolRuns (detector : Detector) (files : FileTree) (settings : ReprocessingSettings)
    (path : String) (cluster? : Option String) (turns : Nat) (schedule : Schedule) : Prop :=
  ∃ store gate, loadDeployments files path = .ok store ∧
    Gate.build? settings.maxConcurrency settings.waitMilliseconds = some gate ∧
    ((fill (detector.pipeline store gate) cluster?).atOpening "pool" "interrupt"
      settings.workers).Runs turns schedule

section File

variable {files : FileTree} {settings : ReprocessingSettings} {path text : String}
  (isFile : files.entry? path = some (.file text))

include isFile

theorem loadDeployments_of_isFile :
    loadDeployments files path = readDeployments path 1 .empty (Text.lines text.toList) := by
  unfold loadDeployments
  rw [isFile]

theorem loadDeployments_eq_ok
    (wellFormed : ∀ line ∈ Text.lines text.toList, isMalformed line = false) :
    loadDeployments files path = .ok (.ofList (deploymentsOf (Text.lines text.toList))) :=
  (loadDeployments_of_isFile isFile).trans (readDeployments_eq_ok path 1 .empty wellFormed)

theorem eq_ofList_of_loadDeployments (loaded : loadDeployments files path = .ok store) :
    store = .ofList (deploymentsOf (Text.lines text.toList)) := by
  by_cases malformed : ∃ line ∈ Text.lines text.toList, isMalformed line = true
  · rw [loadDeployments_of_isFile isFile,
      readDeployments_eq_error path 1 .empty malformed] at loaded
    cases loaded
  · have wellFormed := loadDeployments_eq_ok isFile fun line member =>
      Bool.eq_false_iff.2 fun bad => malformed ⟨line, member, bad⟩
    exact Except.ok.inj (loaded.symm.trans wellFormed)

/-- Whatever turns the tasks of its pool take, a run comes to report each selected deployment
once. -/
theorem PoolRuns.reports {turns : Nat} {schedule : Schedule}
    (runs : detector.PoolRuns files settings path cluster? turns schedule) :
    turns ≤ 3 * workersFor settings.workers + 1 +
        8 * (deploymentsOf (Text.lines text.toList)).length ∧
      ((∀ number, schedule.step? number = none) → schedule.HasEnded) ∧
      (schedule.HasEnded → schedule.pipeline.gate.timeouts = 0 →
        detector.ReportsSelected (deploymentsOf (Text.lines text.toList)) cluster?
          (linesOf schedule.pipeline)) := by
  obtain ⟨store, gate, loaded, built, led⟩ := runs
  cases eq_ofList_of_loadDeployments isFile loaded
  have distinct := distinct_idsInClusters (deploymentsOf (Text.lines text.toList)) cluster?
  have isBatch := detector.isBatch_fill _ gate cluster? built distinct
  obtain ⟨inbox, filled, order, _⟩ := detector.fill_eq _ gate cluster? distinct
  have sameOrder := congrArg (fun source => source.inbox.queue.order) filled
  refine ⟨?_, led.hasEnded isBatch, fun hasEnded noTimeouts => ?_⟩
  · have bound := led.turns_le isBatch
    have few := length_idsInClusters_le (deploymentsOf (Text.lines text.toList)) cluster?
    rw [Schedule.remaining_atOpening, sameOrder.trans order] at bound
    omega
  · have told := led.told isBatch hasEnded noTimeouts
    have noneBefore : (fill (detector.pipeline (.ofList _) gate) cluster?).told = [] :=
      congrArg Pipeline.told filled
    rw [noneBefore, sameOrder.trans order] at told
    exact reportsSelected_of_told (told.trans (filterMap_report?_perm _))

theorem exists_poolRuns (fits : settings.maxConcurrency ≤ Gate.greatestCapacity)
    (wellFormed : ∀ line ∈ Text.lines text.toList, isMalformed line = false) :
    ∃ turns schedule, detector.PoolRuns files settings path cluster? turns schedule ∧
      schedule.HasEnded ∧ schedule.pipeline.gate.timeouts = 0 ∧
      (detector.reprocess files settings path cluster?).lines = linesOf schedule.pipeline ∧
      (detector.reprocess files settings path cluster?).ending = .success := by
  have loaded := loadDeployments_eq_ok isFile wellFormed
  obtain ⟨gate, built⟩ := (Gate.exists_build?_iff settings.waitMilliseconds).2 fits
  have distinct := distinct_idsInClusters (deploymentsOf (Text.lines text.toList)) cluster?
  have isBatch := detector.isBatch_fill _ gate cluster? built distinct
  obtain ⟨inbox, filled, _, _⟩ := detector.fill_eq _ gate cluster? distinct
  have rested : (fill (detector.pipeline (.ofList _) gate) cluster?).ready = [] :=
    congrArg Pipeline.ready filled
  obtain ⟨invariant, hasEnded⟩ := Schedule.run_atOpening isBatch rested
  obtain ⟨turns, led⟩ := invariant.led
  refine ⟨turns, _, ⟨_, gate, loaded, built, led⟩, hasEnded, invariant.noTimeouts, ?_⟩
  unfold reprocess
  rw [loaded, built]
  exact ⟨rfl, rfl⟩

end File

/-- What it means that a run reports what it is to report of the lines of a file. -/
structure ReportsOnce (detector : Detector) (files : FileTree) (settings : ReprocessingSettings)
    (path : String) (cluster? : Option String) (lines : List (List Char)) : Prop where
  /-- If every line is blank or a deployment, the run succeeds and reports each selected deployment
  once. -/
  reported : (∀ line ∈ lines, isMalformed line = false) →
    (detector.reprocess files settings path cluster?).ending = .success ∧
      detector.ReportsSelected (deploymentsOf lines) cluster?
        (detector.reprocess files settings path cluster?).lines
  /-- It is one in which no request waits too long. -/
  taken : (∀ line ∈ lines, isMalformed line = false) →
    ∃ turns schedule, detector.PoolRuns files settings path cluster? turns schedule ∧
      schedule.HasEnded ∧ schedule.pipeline.gate.timeouts = 0 ∧
      (detector.reprocess files settings path cluster?).lines = linesOf schedule.pipeline
  /-- So it would whatever turns the tasks of its pool took: the pool is done after a bounded number
  of turns, some task can take a turn until it is, and then, unless a request has waited too long,
  what the run has put out is the same report. -/
  anyOrder : ∀ turns schedule, detector.PoolRuns files settings path cluster? turns schedule →
    turns ≤ 3 * workersFor settings.workers + 1 + 8 * (deploymentsOf lines).length ∧
      ((∀ number, schedule.step? number = none) → schedule.HasEnded) ∧
      (schedule.HasEnded → schedule.pipeline.gate.timeouts = 0 →
        detector.ReportsSelected (deploymentsOf lines) cluster? (linesOf schedule.pipeline))
  /-- If some line is neither, the run fails for the first such line and puts out nothing. -/
  refused : (∃ line ∈ lines, isMalformed line = true) →
    detector.reprocess files settings path cluster? =
      .failed (.ofMessage ("invalid deployment on line " ++
        toString (1 + lines.findIdx isMalformed) ++ " of " ++ path))

/-- A run reports each selected deployment of a file once, for any policies, settings and
cluster. -/
theorem reports_once (detector : Detector) {files : FileTree} {settings : ReprocessingSettings}
    {path text : String} (cluster? : Option String) (isFile : files.entry? path = some (.file text))
    (fits : settings.maxConcurrency ≤ Gate.greatestCapacity) :
    detector.ReportsOnce files settings path cluster? (Text.lines text.toList) := by
  refine ⟨fun wellFormed => ?_, fun wellFormed => ?_,
    fun turns schedule runs => runs.reports isFile, fun malformed => ?_⟩
  · obtain ⟨turns, schedule, runs, hasEnded, noTimeouts, lines, ending⟩ :=
      exists_poolRuns isFile fits wellFormed
    rw [lines]
    exact ⟨ending, (runs.reports isFile).2.2 hasEnded noTimeouts⟩
  · obtain ⟨turns, schedule, runs, hasEnded, noTimeouts, lines, _⟩ :=
      exists_poolRuns isFile fits wellFormed
    exact ⟨turns, schedule, runs, hasEnded, noTimeouts, lines⟩
  · unfold reprocess
    rw [loadDeployments_of_isFile isFile, readDeployments_eq_error path 1 .empty malformed]

def scaledDown : Policy :=
  ⟨"scaled-down", "Scaled down", none, .low, false, [.deploy], .notApplicable, [],
    [⟨none, [⟨"Replicas", ["0"], false, none⟩]⟩], [], [], []⟩

def lineOf (id name clusterId : String) : String :=
  (Json.object [("id", .string id), ("name", .string name),
    ("cluster_id", .string clusterId)]).write

/-- A file with a blank line, in which one of two deployments is named anew. -/
def renamedLater : String :=
  "\n".intercalate [lineOf "web" "old" "east", "", lineOf "db" "db" "west",
    lineOf "web" "new" "east"]

/-- Of the deployment in the cluster only the later line is reported, with its alert. -/
theorem renamedLater_reported_once :
    let files : FileTree := ⟨fun _ => some (.file renamedLater)⟩
    let detector := (ofPolicies .default ⟨2024, 2, 29, 12, 0, 0, 0⟩ [scaledDown]).1
    let latest : Deployment := ⟨"web", "new", "east", "", "", 0, .empty, []⟩
    files.entry? "deployments" = some (.file renamedLater) ∧ 2 ≤ Gate.greatestCapacity ∧
      detector.ReportsOnce files ⟨2, 30, 3⟩ "deployments" (some "east")
        (Text.lines renamedLater.toList) ∧
      (∀ line ∈ Text.lines renamedLater.toList, isMalformed line = false) ∧
      (detector.reprocess files ⟨2, 30, 3⟩ "deployments" (some "east")).lines =
        [.reprocessed latest (detector.alertsFor latest)] ∧
      (detector.alertsFor latest).length = 1 := by
  intro files detector latest
  have fits : 2 ≤ Gate.greatestCapacity := by decide +kernel
  exact ⟨rfl, fits, reports_once detector (some "east") rfl fits, by decide +kernel,
    by decide +kernel, by decide +kernel⟩

end Detector

end PolicyWatch

import Mathlib.Data.List.Permutation
import PolicyWatch.Proofs.Pool.Others
import PolicyWatch.Proofs.Queue.Order
import PolicyWatch.Proofs.Request.Life
import PolicyWatch.Proofs.Store.Changes

/-!
# Reconciling a cluster

What is queued when the deployments of a cluster are.  Main statement: the queue gets just the IDs
of the deployments that are stored in the cluster and do not wait yet, in the order of their bytes
behind those that wait, and gets nothing if it is closed, if all of them wait or if the store cannot
search.
-/

namespace PolicyWatch.Reprocess

namespace Pipeline

variable {pipeline : Pipeline} {ids : List String}

/-- A push that is refused changes nothing and wakes nobody. -/
theorem push_of_refused {id : String} (refused : (pipeline.inbox.queue.push id).1 = false) :
    pipeline.push id = (false, pipeline) := by
  unfold push Inbox.push
  rw [Queue.push_of_refused refused]
  rfl

theorem extend_of_refused
    (refused : ∀ id ∈ ids, (pipeline.inbox.queue.push id).1 = false) :
    extend ids pipeline = (0, pipeline) := by
  induction ids with
  | nil => rfl
  | cons id rest ih =>
      rw [extend, push_of_refused (refused id List.mem_cons_self)]
      dsimp only
      rw [ih fun other member => refused other (List.mem_cons_of_mem id member)]
      rfl

/-- To queue IDs changes the inbox and wakes tasks. -/
theorem extend_frame (ids : List String) (pipeline : Pipeline) :
    (extend ids pipeline).2 = { pipeline with
      inbox := (extend ids pipeline).2.inbox, ready := (extend ids pipeline).2.ready } := by
  induction ids generalizing pipeline with
  | nil => rfl
  | cons id rest ih =>
      have pushed := congrArg (fun before : Pipeline => { before with
        inbox := (extend (id :: rest) pipeline).2.inbox
        ready := (extend (id :: rest) pipeline).2.ready }) (Pool.push_frame pipeline id)
      exact (ih (pipeline.push id).2).trans pushed

def CanSearch (pipeline : Pipeline) (clusterId : String) : Prop :=
  pipeline.collaborators.search pipeline.calls clusterId = none

section Reconcile

variable {clusterId : String}

theorem reconcile_eq (searches : pipeline.CanSearch clusterId) :
    pipeline.reconcile clusterId =
      (.ok (extend (pipeline.store.inCluster clusterId) pipeline).1,
        (extend (pipeline.store.inCluster clusterId) pipeline).2) := by
  unfold reconcile
  rw [searches]

theorem reconcile_of_refused (searches : pipeline.CanSearch clusterId)
    (refused : ∀ id ∈ pipeline.store.inCluster clusterId,
      (pipeline.inbox.queue.push id).1 = false) :
    pipeline.reconcile clusterId = (.ok 0, pipeline) := by
  rw [reconcile_eq searches, extend_of_refused refused]

theorem reconcile_of_waits (searches : pipeline.CanSearch clusterId)
    (inStep : pipeline.inbox.queue.InStep)
    (waits : ∀ id ∈ pipeline.store.inCluster clusterId, id ∈ pipeline.inbox.queue.order) :
    pipeline.reconcile clusterId = (.ok 0, pipeline) := by
  refine reconcile_of_refused searches fun id member => Bool.eq_false_iff.2 fun taken => ?_
  exact ((inStep.push_fst id).1 taken).2 (waits id member)

end Reconcile

/-- What it means that reconciling a cluster queues what is missing and nothing else, where the
stored deployments come from changes of an empty store. -/
structure ReconcilesExactly (changes : List Store.Change) (pipeline : Pipeline)
    (clusterId : String) : Prop where
  /-- An open queue gets IDs behind those that wait, in the order of their bytes: those of the
  deployments that stand in the cluster, unless they wait already.  They are counted, and nobody is
  changed but who is woken. -/
  queued : pipeline.CanSearch clusterId → pipeline.inbox.queue.isClosed = false →
    ∃ added : List String, (pipeline.reconcile clusterId).1 = .ok added.length ∧
      (pipeline.reconcile clusterId).2.inbox.queue.order =
        pipeline.inbox.queue.order ++ added ∧
      added.Pairwise Text.BytesBefore ∧
      (∀ id, id ∈ added ↔ id ∉ pipeline.inbox.queue.order ∧
        ∃ deployment, Store.Stands changes deployment ∧ deployment.id = id ∧
          deployment.clusterId = clusterId) ∧
      (pipeline.reconcile clusterId).2 = { pipeline with
        inbox := (pipeline.reconcile clusterId).2.inbox
        ready := (pipeline.reconcile clusterId).2.ready }
  /-- Doing it again at once changes nothing. -/
  repeated : pipeline.CanSearch clusterId → pipeline.inbox.queue.isClosed = false →
    (pipeline.reconcile clusterId).2.reconcile clusterId =
      (.ok 0, (pipeline.reconcile clusterId).2)
  /-- Nor does doing it again later, while the store is the same and none of the IDs was popped. -/
  repeatedLater : pipeline.CanSearch clusterId → pipeline.inbox.queue.isClosed = false →
    ∀ (later : Pipeline) (system : QueueSystem), later.CanSearch clusterId →
      later.store = pipeline.store →
      QueueSystem.Reachable system → later.inbox.queue = system.queue →
      (∀ id ∈ (pipeline.reconcile clusterId).2.inbox.queue.order,
        id ∈ later.inbox.queue.order) →
      later.reconcile clusterId = (.ok 0, later)
  /-- A closed queue gets nothing. -/
  closed : pipeline.CanSearch clusterId → pipeline.inbox.queue.isClosed = true →
    pipeline.reconcile clusterId = (.ok 0, pipeline)
  /-- A store that cannot search leaves everything as it was. -/
  failed : ∀ failure,
    pipeline.collaborators.search pipeline.calls clusterId = some failure →
      pipeline.reconcile clusterId = (.error failure, pipeline)
  /-- Each deployment that stands is found under its own ID, and nothing else is found. -/
  found : ∀ id deployment, pipeline.store.get? id = some deployment ↔
    Store.Stands changes deployment ∧ deployment.id = id
  /-- A deployment that is put in place of another is in its own cluster and in no other. -/
  moved : ∀ (deployment : Deployment) (id : String),
    id ∈ (pipeline.store.insert deployment).inCluster clusterId ↔
      if id = deployment.id then deployment.clusterId = clusterId
      else id ∈ pipeline.store.inCluster clusterId

/-- Reconciling a cluster queues what is missing and nothing else, whatever the store and the queue
have come to. -/
theorem reconciles_exactly {changes : List Store.Change} {pipeline : Pipeline}
    {system : QueueSystem}
    (stored : pipeline.store = .ofChanges changes) (reached : QueueSystem.Reachable system)
    (sameQueue : pipeline.inbox.queue = system.queue) (clusterId : String) :
    ReconcilesExactly changes pipeline clusterId := by
  have inStep : pipeline.inbox.queue.InStep := sameQueue ▸ reached.kept.recorded.inStep
  have distinct : pipeline.store.IsDistinct := stored ▸ Store.isDistinct_ofChanges changes
  have member : ∀ id, id ∈ pipeline.store.inCluster clusterId ↔
      ∃ deployment, Store.Stands changes deployment ∧ deployment.id = id ∧
        deployment.clusterId = clusterId := by
    intro id
    rw [Store.mem_inCluster, stored]
    simp only [Store.mem_ofChanges]
  obtain ⟨count, queue⟩ := extend_queue (pipeline.store.inCluster clusterId) pipeline
  have extended (isOpen : pipeline.inbox.queue.isClosed = false) :=
    inStep.extend isOpen (Store.nodup_inCluster distinct clusterId)
  have frame := extend_frame (pipeline.store.inCluster clusterId) pipeline
  constructor
  case queued =>
    intro searches isOpen
    rw [reconcile_eq searches]
    refine ⟨pipeline.inbox.queue.newAmong (pipeline.store.inCluster clusterId), ?_, ?_, ?_, ?_,
      frame⟩
    · rw [count, (extended isOpen).count_eq]
    · rw [queue, (extended isOpen).order]
    · exact (Store.inCluster_ascending distinct clusterId).sublist List.filter_sublist
    · intro id
      rw [Queue.mem_newAmong, member, and_comm]
  case repeated =>
    intro searches isOpen
    rw [reconcile_eq searches]
    have sameStore := congrArg Pipeline.store frame
    refine reconcile_of_waits ?_ ?_ ?_
    · rw [frame]
      exact searches
    · rw [queue]
      exact (extended isOpen).inStep
    · intro id inCluster
      rw [sameStore] at inCluster
      rw [queue]
      exact (extended isOpen).waits id inCluster
  case repeatedLater =>
    intro searches isOpen later other searchesLater sameStore reachedLater sameLater stillWaits
    rw [reconcile_eq searches] at stillWaits
    refine reconcile_of_waits searchesLater ?_ ?_
    · rw [sameLater]
      exact reachedLater.kept.recorded.inStep
    · intro id inCluster
      rw [sameStore] at inCluster
      refine stillWaits id ?_
      rw [queue]
      exact (extended isOpen).waits id inCluster
  case closed =>
    intro searches isClosed
    refine reconcile_of_refused searches fun id _ => ?_
    rw [Pool.push_of_isClosed isClosed]
  case failed =>
    intro failure fails
    unfold reconcile
    rw [fails]
  case found =>
    intro id deployment
    rw [stored]
    exact Store.get?_ofChanges
  case moved =>
    intro deployment id
    exact Store.mem_inCluster_insert

def deploymentIn (clusterId id : String) : Deployment := ⟨id, id, clusterId, "", "", 1, .empty, []⟩

/-- Changes by which one deployment moves to another cluster and one goes away. -/
def movedToWest : List Store.Change :=
  [.insert (deploymentIn "east" "web"), .insert (deploymentIn "west" "db"),
    .insert (deploymentIn "west" "gone"), .insert (deploymentIn "west" "cache"),
    .insert (deploymentIn "west" "web"), .remove "gone"]

/-- Behind an ID of the cluster that waits already come the two others. -/
theorem reconciles_exactly_west :
    ∃ (pipeline : Pipeline) (system : QueueSystem), pipeline.store = .ofChanges movedToWest ∧
      QueueSystem.Reachable system ∧ pipeline.inbox.queue = system.queue ∧
      ReconcilesExactly movedToWest pipeline "west" ∧ pipeline.CanSearch "west" ∧
      pipeline.inbox.queue.order = ["db"] ∧ (pipeline.reconcile "west").1 = .ok 2 ∧
      (pipeline.reconcile "west").2.inbox.queue.order = ["db", "cache", "web"] := by
  have reached := (QueueSystem.Reachable.start.step (.come (.push "db"))).turns 0 2
  let system := QueueSystem.turns 0 2 (QueueSystem.opened.joined (.push "db"))
  let pipeline := { Request.storedPipeline with
    store := .ofChanges movedToWest
    inbox := system.inbox }
  exact ⟨pipeline, system, rfl, reached, rfl,
    reconciles_exactly rfl reached rfl "west", rfl, by cbv,
    by cbv, by cbv⟩

end Pipeline

end PolicyWatch.Reprocess

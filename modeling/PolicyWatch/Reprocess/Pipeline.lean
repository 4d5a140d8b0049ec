import PolicyWatch.Registry.Matching
import PolicyWatch.Reprocess.Inbox
import PolicyWatch.Reprocess.Outcome
import PolicyWatch.Reprocess.Store

/-!
# The pipeline

What all requests share: the gate, the inbox, the stored deployments, the
policies, the store and the risk manager that they call, and the time.
-/

namespace PolicyWatch.Reprocess

/-- How a call of a collaborator ends. -/
inductive Ending where
  | normal
  | failing (message : String)
  /-- The call brings down whoever makes it. -/
  | crashing
  deriving DecidableEq, Repr

/-- How long a call takes, in milliseconds, and how it ends. -/
structure Conduct where
  delay : Nat
  ending : Ending
  deriving DecidableEq, Repr

/-- A call that takes no time and ends well. -/
def Conduct.prompt : Conduct := ⟨0, .normal⟩

/-- A call, with the task that made it. -/
inductive Call where
  | fetchBegun (task : Nat) (id : String)
  | riskBegun (task : Nat) (deployment : Deployment) (alerts : List Alert)
  | riskEnded (task : Nat) (deployment : Deployment) (alerts : List Alert)
  deriving DecidableEq

/-- How the collaborators treat calls, which may depend on the calls made so far:
the store a fetch of an ID and the search of a cluster, for which it may have a
failure, and the risk manager the risk of an ID. -/
structure Collaborators where
  fetch : List Call → String → Conduct
  search : List Call → String → Option Failure
  risk : List Call → String → Conduct

/-- Collaborators that take no time and never fail. -/
def Collaborators.prompt : Collaborators :=
  ⟨fun _ _ => .prompt, fun _ _ => none, fun _ _ => .prompt⟩

/-- A moment at which a task wants to be woken.  Of two alarms for one moment the
one with the lower number goes first. -/
structure Alarm where
  due : Nat
  number : Nat
  deriving DecidableEq, Repr

/-- What all requests share.  `instant` is when events are matched, `clock` the
milliseconds gone by; `ready` are the tasks that have been woken, in order, and
`calls` the calls made, newest first. -/
structure Pipeline where
  collaborators : Collaborators
  registry : Registry
  answers : LabelAnswers
  instant : Instant
  store : Store
  gate : Gate
  inbox : Inbox
  clock : Nat
  alarms : Nat
  ready : List Nat
  calls : List Call

namespace Pipeline

def wake (pipeline : Pipeline) (task : Nat) : Pipeline :=
  if pipeline.ready.contains task then pipeline
  else { pipeline with ready := pipeline.ready ++ [task] }

def wakeAll (pipeline : Pipeline) (tasks : List Nat) : Pipeline :=
  tasks.foldl wake pipeline

@[simp] theorem inbox_wakeAll (pipeline : Pipeline) (tasks : List Nat) :
    (pipeline.wakeAll tasks).inbox = pipeline.inbox := by
  unfold wakeAll
  induction tasks generalizing pipeline with
  | nil => rfl
  | cons task rest ih =>
      rw [List.foldl_cons, ih]
      unfold wake
      split <;> rfl

def wakeNext (pipeline : Pipeline) (task : Option Nat) : Pipeline :=
  pipeline.wakeAll task.toList

/-- Set an alarm, unless it would go off at once. -/
def setAlarm (pipeline : Pipeline) (delay : Nat) : Option Alarm × Pipeline :=
  if delay = 0 then (none, pipeline)
  else (some ⟨pipeline.clock + delay, pipeline.alarms⟩,
    { pipeline with alarms := pipeline.alarms + 1 })

def hasElapsed (pipeline : Pipeline) (alarm : Alarm) : Bool :=
  decide (alarm.due ≤ pipeline.clock)

def note (pipeline : Pipeline) (call : Call) : Pipeline :=
  { pipeline with calls := call :: pipeline.calls }

/-- How the store treats a fetch now. -/
def fetchConduct (pipeline : Pipeline) (id : String) : Conduct :=
  pipeline.collaborators.fetch pipeline.calls id

/-- How the risk manager treats the risk of an ID now. -/
def riskConduct (pipeline : Pipeline) (id : String) : Conduct :=
  pipeline.collaborators.risk pipeline.calls id

def release (pipeline : Pipeline) : Pipeline :=
  let (next, gate) := pipeline.gate.release
  { pipeline with gate }.wakeNext next

def closeGate (pipeline : Pipeline) : Pipeline :=
  let (woken, gate) := pipeline.gate.close
  { pipeline with gate }.wakeAll woken

def push (pipeline : Pipeline) (id : String) : Bool × Pipeline :=
  let (taken, woken, inbox) := pipeline.inbox.push id
  (taken, { pipeline with inbox }.wakeNext woken)

theorem push_queue (pipeline : Pipeline) (id : String) :
    (pipeline.push id).1 = (pipeline.inbox.queue.push id).1 ∧
      (pipeline.push id).2.inbox.queue = (pipeline.inbox.queue.push id).2 := by
  simpa [push, wakeNext] using pipeline.inbox.push_queue id

/-- Queue IDs in order, and count those that were taken. -/
def extend : List String → Pipeline → Nat × Pipeline
  | [], pipeline => (0, pipeline)
  | id :: rest, pipeline =>
      let (taken, grown) := pipeline.push id
      let (count, final) := extend rest grown
      (if taken then count + 1 else count, final)

theorem extend_queue (ids : List String) (pipeline : Pipeline) :
    (extend ids pipeline).1 = (Queue.extend ids pipeline.inbox.queue).1 ∧
      (extend ids pipeline).2.inbox.queue = (Queue.extend ids pipeline.inbox.queue).2 := by
  induction ids generalizing pipeline with
  | nil => exact ⟨rfl, rfl⟩
  | cons id rest ih =>
      obtain ⟨taken, grown⟩ := pipeline.push_queue id
      obtain ⟨count, final⟩ := ih (pipeline.push id).2
      simp [extend, Queue.extend, taken, count, final, grown]

def closeQueue (pipeline : Pipeline) : Pipeline :=
  let (woken, inbox) := pipeline.inbox.close
  { pipeline with inbox }.wakeAll woken

/-- Queue the deployments of a cluster, and count those that were taken.  If the
store cannot search, nothing is queued. -/
def reconcile (pipeline : Pipeline) (clusterId : String) : Except Failure Nat × Pipeline :=
  match pipeline.collaborators.search pipeline.calls clusterId with
  | some failure => (.error failure, pipeline)
  | none =>
      let (count, grown) := extend (pipeline.store.inCluster clusterId) pipeline
      (.ok count, grown)

def alertsFor (pipeline : Pipeline) (deployment : Deployment) : List Alert :=
  (pipeline.registry.matchAll pipeline.answers pipeline.instant (.deployment deployment)).1.alerts

end Pipeline

end PolicyWatch.Reprocess

import PolicyWatch.Proofs.Gate.Queueing
import PolicyWatch.Proofs.Pool.Turn

/-!
# Acts of a worker on a batch

A batch is a queue that takes no more IDs, worked on behind an open gate with collaborators that
take no time and never fail.  Main statement: what one step of a worker on a batch can be.
-/

namespace PolicyWatch.Reprocess

/-! ## The pipeline of a batch -/

/-- Whether a pipeline serves the batch that another started with: nobody has exchanged what it
works with, the queue is closed and the gate is open. -/
structure Pipeline.Serves (source pipeline : Pipeline) : Prop where
  prompt : source.collaborators = .prompt
  frame : pipeline = { source with
    gate := pipeline.gate, inbox := pipeline.inbox, clock := pipeline.clock,
    alarms := pipeline.alarms, ready := pipeline.ready, calls := pipeline.calls }
  isClosed : pipeline.inbox.queue.isClosed = true
  isOpen : pipeline.gate.isClosed = false

namespace Pipeline.Serves

variable {source pipeline : Pipeline} (serves : source.Serves pipeline)

include serves

theorem fetchConduct_eq (id : String) : pipeline.fetchConduct id = .prompt := by
  rw [serves.frame, fetchConduct, serves.prompt]
  rfl

theorem riskConduct_eq (id : String) : pipeline.riskConduct id = .prompt := by
  rw [serves.frame, riskConduct, serves.prompt]
  rfl

theorem store_eq : pipeline.store = source.store := by
  rw [serves.frame]

theorem alertsFor_eq (deployment : Deployment) :
    pipeline.alertsFor deployment = source.alertsFor deployment := by
  rw [serves.frame]
  rfl

end Pipeline.Serves

/-! ## Where a worker stands -/

/-- Where a request for an ID of a batch may stand: what it has fetched is what is stored, and it
waits for no answer. -/
inductive Stage.Stands (source : Pipeline) (id : String) : Stage → Prop where
  | queued (admission : Admission) : Stands source id (.queued admission)
  | admitted : Stands source id .admitted
  | fetching : Stands source id (.fetching none)
  | evaluating {deployment : Deployment} (found : source.store.get? id = some deployment) :
      Stands source id (.evaluating deployment)
  | assessing {deployment : Deployment} (found : source.store.get? id = some deployment) :
      Stands source id (.assessing none deployment (source.alertsFor deployment))

namespace Occupation

/-- What the worker that is a task may be doing.  Nobody waits at a queue that is closed. -/
inductive Stands (source : Pipeline) (number : Nat) : Occupation → Prop where
  | starting : Stands source number (.seeking .starting)
  | listening (broadcasts : Nat) : Stands source number (.seeking (.listening broadcasts))
  | running {id : String} {stage : Stage} (stands : stage.Stands source id) :
      Stands source number (.running ⟨number, id, stage⟩)

def isWaiting : Occupation → Bool
  | .running ⟨_, _, .queued admission⟩ => admission.isWaiting
  | _ => false

/-- What one step of the worker that is a task may be: what it does next, unless it leaves, and
the ID that it counts, with the result. -/
inductive Act (source : Pipeline) (number : Nat) (before : Pipeline) :
    Occupation → Option Occupation → Option (String × Result) → Pipeline → Prop where
  | listen :
      Act source number before (.seeking .starting)
        (some (.seeking (.listening before.inbox.notify.broadcasts))) none before
  | take {broadcasts : Nat} {id : String} {inbox : Inbox}
      (first : before.inbox.queue.order = id :: inbox.queue.order)
      (isClosed : inbox.queue.isClosed = before.inbox.queue.isClosed) :
      Act source number before (.seeking (.listening broadcasts))
        (some (.running (.new number id))) none
        { before with inbox }
  | leave {broadcasts : Nat} (isEmpty : before.inbox.queue.order = []) :
      Act source number before (.seeking (.listening broadcasts)) none none before
  | wait {id : String} {deadline : Option Alarm} {after : Pipeline}
      (moved : Admission.arriving.step? number false before =
        some (.going (.waiting deadline), after)) :
      Act source number before (.running ⟨number, id, .queued .arriving⟩)
        (some (.running ⟨number, id, .queued (.waiting deadline)⟩)) none after
  | enter {id : String} {admission : Admission} {after : Pipeline}
      (moved : admission.step? number false before = some (.over .admitted, after)) :
      Act source number before (.running ⟨number, id, .queued admission⟩)
        (some (.running ⟨number, id, .admitted⟩)) none after
  | timeOut {id : String} {alarm : Alarm} {waited : Nat} {after : Pipeline}
      (isLate : alarm.due ≤ before.clock)
      (moved : (Admission.waiting (some alarm)).step? number false before =
        some (.over (.refused (.timedOut waited)), after)) :
      Act source number before (.running ⟨number, id, .queued (.waiting (some alarm))⟩)
        (some (.seeking .starting)) (some (id, .failure (.admission (.timedOut waited)))) after
  | fetch {id : String} :
      Act source number before (.running ⟨number, id, .admitted⟩)
        (some (.running ⟨number, id, .fetching none⟩)) none (before.note (.fetchBegun number id))
  | find {id : String} {deployment : Deployment}
      (found : source.store.get? id = some deployment) :
      Act source number before (.running ⟨number, id, .fetching none⟩)
        (some (.running ⟨number, id, .evaluating deployment⟩)) none before
  | notFound {id : String} (missing : source.store.get? id = none) :
      Act source number before (.running ⟨number, id, .fetching none⟩)
        (some (.seeking .starting)) (some (id, .success .notFound)) before.release
  | assess {id : String} {deployment : Deployment}
      (found : source.store.get? id = some deployment) :
      Act source number before (.running ⟨number, id, .evaluating deployment⟩)
        (some (.running ⟨number, id, .assessing none deployment (source.alertsFor deployment)⟩))
        none (before.note (.riskBegun number deployment (source.alertsFor deployment)))
  | complete {id : String} {deployment : Deployment} {alerts : List Alert}
      (alerts_eq : alerts = source.alertsFor deployment)
      (found : source.store.get? id = some deployment) :
      Act source number before (.running ⟨number, id, .assessing none deployment alerts⟩)
        (some (.seeking .starting)) (some (id, .success (.completed alerts.length)))
        (before.note (.riskEnded number deployment alerts)).release

end Occupation

/-! ## Every step is an act -/

namespace Request

variable {source before after : Pipeline} {number : Nat} {id : String} {stage : Stage}
  {progress : Progress Request RequestEnd}

/-- What a step of a worker that runs a request is, by what its request does. -/
inductive Outcome (source : Pipeline) (number : Nat) (id : String) (before : Pipeline)
    (stage : Stage) (after : Pipeline) : Progress Request RequestEnd → Prop where
  | going {next : Stage}
      (act : Occupation.Act source number before (.running ⟨number, id, stage⟩)
        (some (.running ⟨number, id, next⟩)) none after) :
      Outcome source number id before stage after (.going ⟨number, id, next⟩)
  | finished {result : Result}
      (act : Occupation.Act source number before (.running ⟨number, id, stage⟩)
        (some (.seeking .starting)) (some (id, result)) after) :
      Outcome source number id before stage after (.over (.finished result))

theorem outcome_of_step? (serves : source.Serves before) (stands : stage.Stands source id)
    (moved : (Request.mk number id stage).step? false before = some (progress, after)) :
    Outcome source number id before stage after progress := by
  cases stands with
  | queued admission =>
      rw [step?_of_queued rfl] at moved
      split at moved
      · cases moved
      · rename_i waiting changed seeking
        cases moved
        obtain ⟨_, _, rfl, deadline, rfl, _⟩ := Admission.full_of_step? seeking
        exact .going (.wait seeking)
      · rename_i seeking
        cases moved
        exact .going (.enter seeking)
      · rename_i error changed seeking
        cases moved
        obtain ⟨impossible, _⟩ | ⟨_, closed, _⟩ | ⟨_, _, ⟨_, _, ends⟩ | ⟨isLate, _, ends⟩ |
          ⟨_, _, _, _, ends, _⟩ | ends⟩ :=
          Admission.step?_cases admission number false before
        · cases impossible
        · cases closed.symm.trans serves.isOpen
        · cases ends.symm.trans seeking
        · cases ends.symm.trans seeking
          obtain ⟨alarm, rfl, passed⟩ := isLate
          exact .finished (.timeOut passed seeking)
        · cases ends.symm.trans seeking
        · cases ends.symm.trans seeking
  | admitted =>
      rw [step?_of_admitted rfl, serves.fetchConduct_eq] at moved
      cases moved
      exact .going .fetch
  | fetching =>
      rw [step?_of_fetching rfl, endFetch_eq, Pipeline.fetchAnswer?, serves.fetchConduct_eq,
        serves.store_eq] at moved
      cases stored : source.store.get? id with
      | none =>
          simp only [Conduct.prompt, stored] at moved
          cases moved
          exact .finished (.notFound stored)
      | some deployment =>
          simp only [Conduct.prompt, stored] at moved
          cases moved
          exact .going (.find stored)
  | evaluating found =>
      rw [step?_of_evaluating rfl] at moved
      dsimp only at moved
      rw [serves.riskConduct_eq, serves.alertsFor_eq] at moved
      cases moved
      exact .going (.assess found)
  | assessing found =>
      rw [step?_of_assessing rfl, endRisk_eq, Pipeline.riskAnswer?, serves.riskConduct_eq] at moved
      cases moved
      exact .finished (.complete rfl found)

end Request

namespace Worker

open Occupation (Act)

variable {source before after : Pipeline} {worker : Worker} {number : Nat}
  {progress : Progress Worker WorkerEnd}

/-- What a step of a worker is: an act after which it goes on, or one by which it leaves. -/
inductive Outcome (source : Pipeline) (number : Nat) (worker : Worker) (before after : Pipeline) :
    Progress Worker WorkerEnd → Prop where
  | going {later : Worker} (sameTask : later.task = worker.task)
      (act : Act source number before worker.occupation (some later.occupation)
        (worker.counts? false before) after) :
      Outcome source number worker before after (.going later)
  | left (act : Act source number before worker.occupation none none after) :
      Outcome source number worker before after (.over (some worker.summary))

theorem outcome_of_step? (serves : source.Serves before) (isTask : worker.task = number)
    (stands : worker.occupation.Stands source number)
    (moved : worker.step? false before = some (progress, after)) :
    Outcome source number worker before after progress := by
  obtain ⟨task, occupation, summary⟩ := worker
  change task = number at isTask
  change occupation.Stands source number at stands
  subst isTask
  cases stands with
  | starting =>
      cases moved
      exact .going rfl .listen
  | listening broadcasts =>
      unfold step? at moved
      dsimp only at moved
      rw [if_neg Bool.false_ne_true, Popper.step?_listening (.inr serves.isClosed)] at moved
      cases waits : before.inbox.queue.order with
      | nil =>
          rw [waits, Queue.pop_of_nil waits] at moved
          cases moved
          exact .left (.leave waits)
      | cons first rest =>
          rw [waits, Queue.pop_of_cons waits] at moved
          cases moved
          exact .going rfl (.take waits rfl)
  | running stands =>
      rename_i id stage
      unfold step? at moved
      dsimp only at moved
      split at moved
      · cases moved
      · rename_i next changed stepped
        cases moved
        cases Request.outcome_of_step? serves stands stepped with
        | going act =>
            refine .going rfl ?_
            unfold counts?
            dsimp only
            rw [stepped]
            exact act
      · rename_i result changed stepped
        cases moved
        cases Request.outcome_of_step? serves stands stepped with
        | finished act =>
            refine .going rfl ?_
            unfold counts?
            dsimp only
            rw [stepped]
            exact act
      · rename_i changed stepped
        cases Request.outcome_of_step? serves stands stepped

end Worker

end PolicyWatch.Reprocess

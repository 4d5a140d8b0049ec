import PolicyWatch.Reprocess.Admission

/-!
# Requests

A request takes a slot before it fetches its deployment, so that nobody who waits
for admission holds one, matches the deployment against the policies, hands the
alerts to the risk manager and gives the slot back however it ends.
-/

namespace PolicyWatch.Reprocess

/-- Where a request stands. -/
inductive Stage where
  | queued (admission : Admission)
  | admitted
  | fetching (alarm : Option Alarm)
  | evaluating (deployment : Deployment)
  | assessing (alarm : Option Alarm) (deployment : Deployment) (alerts : List Alert)
  deriving DecidableEq

/-- A request of a task to reprocess the deployment under an ID. -/
structure Request where
  task : Nat
  id : String
  stage : Stage
  deriving DecidableEq

/-- How a request ends: with a result, or by a crash. -/
inductive RequestEnd where
  | finished (result : Result)
  | crashed
  deriving DecidableEq, Repr

namespace Request

def new (task : Nat) (id : String) : Request := ⟨task, id, .queued .arriving⟩

def holdsSlot (request : Request) : Bool :=
  match request.stage with
  | .queued _ => false
  | _ => true

def alarm? (request : Request) : Option Alarm :=
  match request.stage with
  | .queued admission => admission.alarm?
  | .fetching alarm => alarm
  | .assessing alarm _ _ => alarm
  | _ => none

def finish (pipeline : Pipeline) (ending : RequestEnd) :
    Option (Progress Request RequestEnd × Pipeline) :=
  some (.over ending, pipeline.release)

def cancel (pipeline : Pipeline) (request : Request) :
    Option (Progress Request RequestEnd × Pipeline) :=
  finish pipeline (.finished (.failure (.cancelled request.id)))

def proceed (request : Request) (stage : Stage) (pipeline : Pipeline) :
    Option (Progress Request RequestEnd × Pipeline) :=
  some (.going { request with stage }, pipeline)

def endFetch (pipeline : Pipeline) (request : Request) :
    Option (Progress Request RequestEnd × Pipeline) :=
  match (pipeline.fetchConduct request.id).ending with
  | .crashing => finish pipeline .crashed
  | .failing message =>
      finish pipeline (.finished (.failure (.fetch request.id (.ofMessage message))))
  | .normal =>
      match pipeline.store.get? request.id with
      | none => finish pipeline (.finished (.success .notFound))
      | some deployment => request.proceed (.evaluating deployment) pipeline

def endRisk (pipeline : Pipeline) (request : Request) (deployment : Deployment)
    (alerts : List Alert) : Option (Progress Request RequestEnd × Pipeline) :=
  match (pipeline.riskConduct deployment.id).ending with
  | .crashing => finish pipeline .crashed
  | .failing message =>
      finish pipeline (.finished (.failure (.risk request.id (.ofMessage message))))
  | .normal =>
      finish (pipeline.note (.riskEnded request.task deployment alerts))
        (.finished (.success (.completed alerts.length)))

/-- The next step of a request, unless it waits on. -/
def step? (isCancelled : Bool) (pipeline : Pipeline) (request : Request) :
    Option (Progress Request RequestEnd × Pipeline) :=
  match request.stage with
  | .queued admission =>
      match admission.step? request.task isCancelled pipeline with
      | none => none
      | some (.going waiting, next) => request.proceed (.queued waiting) next
      | some (.over .admitted, next) => request.proceed .admitted next
      | some (.over (.refused error), next) =>
          some (.over (.finished (.failure (.admission error))), next)
  | .admitted =>
      if isCancelled then cancel pipeline request
      else
        let (alarm, timed) := pipeline.setAlarm (pipeline.fetchConduct request.id).delay
        request.proceed (.fetching alarm) (timed.note (.fetchBegun request.task request.id))
  | .fetching alarm =>
      if isCancelled then cancel pipeline request
      else if alarm.all pipeline.hasElapsed then endFetch pipeline request
      else none
  | .evaluating deployment =>
      if isCancelled then cancel pipeline request
      else
        let alerts := pipeline.alertsFor deployment
        let (alarm, timed) := pipeline.setAlarm (pipeline.riskConduct deployment.id).delay
        request.proceed (.assessing alarm deployment alerts)
          (timed.note (.riskBegun request.task deployment alerts))
  | .assessing alarm deployment alerts =>
      if isCancelled then cancel pipeline request
      else if alarm.all pipeline.hasElapsed then endRisk pipeline request deployment alerts
      else none

end Request

end PolicyWatch.Reprocess

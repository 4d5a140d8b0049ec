import PolicyWatch.Proofs.Gate.Conservation
import PolicyWatch.Proofs.Gate.Verdict
import PolicyWatch.Reprocess.Request

/-!
# A turn of a request

What one step of a request does: which calls it makes, which answers it receives,
what becomes of its slot and when it is the last.  Main statements: the forms that a step
can take, and the answers that end a request.
-/

namespace PolicyWatch.Reprocess

/-! ## Answers of the collaborators -/

namespace Pipeline

/-- What the store answers to a fetch that ends now: a failure, or the deployment under
the ID if there is one.  It gives no answer if it crashes. -/
def fetchAnswer? (pipeline : Pipeline) (id : String) :
    Option (Except Failure (Option Deployment)) :=
  match (pipeline.fetchConduct id).ending with
  | .crashing => none
  | .failing message => some (.error (.ofMessage message))
  | .normal => some (.ok (pipeline.store.get? id))

/-- What the risk manager answers to a call that ends now. -/
def riskAnswer? (pipeline : Pipeline) (id : String) : Option (Except Failure Unit) :=
  match (pipeline.riskConduct id).ending with
  | .crashing => none
  | .failing message => some (.error (.ofMessage message))
  | .normal => some (.ok ())

theorem setAlarm_eq (pipeline : Pipeline) (delay : Nat) :
    (pipeline.setAlarm delay).2 =
      { pipeline with alarms := (pipeline.setAlarm delay).2.alarms } := by
  unfold setAlarm
  split <;> rfl

end Pipeline

namespace Request

variable {request : Request} {isCancelled : Bool} {before after : Pipeline}
  {progress : Progress Request RequestEnd} {ending : RequestEnd} {made : List Call}

def ReceivesFetch (request : Request) (isCancelled : Bool) (pipeline : Pipeline)
    (answer? : Option (Except Failure (Option Deployment))) : Prop :=
  isCancelled = false ∧ pipeline.fetchAnswer? request.id = answer? ∧
    ∃ alarm, request.stage = .fetching alarm ∧ alarm.all pipeline.hasElapsed = true

/-- Whether a request receives the answer to its risk call for a deployment with alerts when
it looks now. -/
def ReceivesRisk (request : Request) (isCancelled : Bool) (pipeline : Pipeline)
    (deployment : Deployment) (alerts : List Alert) (answer? : Option (Except Failure Unit)) :
    Prop :=
  isCancelled = false ∧ pipeline.riskAnswer? deployment.id = answer? ∧
    ∃ alarm, request.stage = .assessing alarm deployment alerts ∧
      alarm.all pipeline.hasElapsed = true

/-- What must be the case for a request to end in a way when it looks now. -/
def Ends (request : Request) (isCancelled : Bool) (pipeline : Pipeline) : RequestEnd → Prop
  | .finished (.success (.completed count)) => ∃ deployment alerts,
      request.ReceivesRisk isCancelled pipeline deployment alerts (some (.ok ())) ∧
        count = alerts.length
  | .finished (.success .notFound) => request.ReceivesFetch isCancelled pipeline (some (.ok none))
  | .finished (.failure (.admission error)) => ∃ admission after,
      request.stage = .queued admission ∧
        admission.step? request.task isCancelled pipeline =
          some (.over (.refused error), after)
  | .finished (.failure (.cancelled id)) =>
      id = request.id ∧ request.holdsSlot = true ∧ isCancelled = true
  | .finished (.failure (.fetch id cause)) =>
      id = request.id ∧ request.ReceivesFetch isCancelled pipeline (some (.error cause))
  | .finished (.failure (.risk id cause)) =>
      id = request.id ∧ ∃ deployment alerts,
        request.ReceivesRisk isCancelled pipeline deployment alerts (some (.error cause))
  | .crashed => request.ReceivesFetch isCancelled pipeline none ∨
      ∃ deployment alerts, request.ReceivesRisk isCancelled pipeline deployment alerts none

/-! ## The forms of a step -/

/-- What one step of a request is, with the calls that it makes. -/
inductive Transition (request : Request) (isCancelled : Bool) (before : Pipeline) :
    Progress Request RequestEnd → List Call → Pipeline → Prop where
  | wait {admission waiting : Admission} {after : Pipeline}
      (stage : request.stage = .queued admission)
      (moved : admission.step? request.task isCancelled before = some (.going waiting, after)) :
      Transition request isCancelled before
        (.going { request with stage := .queued waiting }) [] after
  | enter {admission : Admission} {after : Pipeline} (stage : request.stage = .queued admission)
      (moved : admission.step? request.task isCancelled before = some (.over .admitted, after)) :
      Transition request isCancelled before (.going { request with stage := .admitted }) [] after
  | refuse {admission : Admission} {after : Pipeline} {error : AdmissionError}
      (stage : request.stage = .queued admission)
      (moved : admission.step? request.task isCancelled before =
        some (.over (.refused error), after)) :
      Transition request isCancelled before
        (.over (.finished (.failure (.admission error)))) [] after
  | fetch (stage : request.stage = .admitted) (uncancelled : isCancelled = false)
      (alarm : Option Alarm) (alarms : Nat) :
      Transition request isCancelled before (.going { request with stage := .fetching alarm })
        [.fetchBegun request.task request.id]
        ({ before with alarms }.note (.fetchBegun request.task request.id))
  | find {deployment : Deployment}
      (heard : request.ReceivesFetch isCancelled before (some (.ok (some deployment)))) :
      Transition request isCancelled before
        (.going { request with stage := .evaluating deployment }) [] before
  | assess {deployment : Deployment} (stage : request.stage = .evaluating deployment)
      (uncancelled : isCancelled = false) (alarm : Option Alarm) (alarms : Nat) :
      Transition request isCancelled before
        (.going { request with
          stage := .assessing alarm deployment (before.alertsFor deployment) })
        [.riskBegun request.task deployment (before.alertsFor deployment)]
        ({ before with alarms }.note
          (.riskBegun request.task deployment (before.alertsFor deployment)))
  | complete {deployment : Deployment} {alerts : List Alert}
      (heard : request.ReceivesRisk isCancelled before deployment alerts (some (.ok ()))) :
      Transition request isCancelled before
        (.over (.finished (.success (.completed alerts.length))))
        [.riskEnded request.task deployment alerts]
        (before.note (.riskEnded request.task deployment alerts)).release
  | finish {ending : RequestEnd} (holds : request.holdsSlot = true)
      (ends : request.Ends isCancelled before ending)
      (incomplete : ∀ count, ending ≠ .finished (.success (.completed count))) :
      Transition request isCancelled before (.over ending) [] before.release

theorem endFetch_eq (pipeline : Pipeline) (request : Request) :
    endFetch pipeline request =
      match pipeline.fetchAnswer? request.id with
      | none => finish pipeline .crashed
      | some (.error cause) => finish pipeline (.finished (.failure (.fetch request.id cause)))
      | some (.ok none) => finish pipeline (.finished (.success .notFound))
      | some (.ok (some deployment)) => request.proceed (.evaluating deployment) pipeline := by
  unfold endFetch Pipeline.fetchAnswer?
  cases (pipeline.fetchConduct request.id).ending with
  | crashing => rfl
  | failing message => rfl
  | normal => cases pipeline.store.get? request.id <;> rfl

theorem endRisk_eq (pipeline : Pipeline) (request : Request) (deployment : Deployment)
    (alerts : List Alert) :
    endRisk pipeline request deployment alerts =
      match pipeline.riskAnswer? deployment.id with
      | none => finish pipeline .crashed
      | some (.error cause) => finish pipeline (.finished (.failure (.risk request.id cause)))
      | some (.ok ()) =>
          finish (pipeline.note (.riskEnded request.task deployment alerts))
            (.finished (.success (.completed alerts.length))) := by
  unfold endRisk Pipeline.riskAnswer?
  cases (pipeline.riskConduct deployment.id).ending <;> rfl

theorem step?_of_cancelled (holds : request.holdsSlot = true) (pipeline : Pipeline) :
    request.step? true pipeline = cancel pipeline request := by
  unfold step?
  unfold holdsSlot at holds
  cases stage : request.stage with
  | queued admission =>
      rw [stage] at holds
      cases holds
  | _ => rfl

theorem step?_of_fetching {alarm : Option Alarm} (stage : request.stage = .fetching alarm)
    (pipeline : Pipeline) :
    request.step? false pipeline =
      if alarm.all pipeline.hasElapsed then endFetch pipeline request else none := by
  unfold step?
  rw [stage]
  rfl

theorem step?_of_assessing {alarm : Option Alarm} {deployment : Deployment}
    {alerts : List Alert} (stage : request.stage = .assessing alarm deployment alerts)
    (pipeline : Pipeline) :
    request.step? false pipeline =
      if alarm.all pipeline.hasElapsed then endRisk pipeline request deployment alerts
      else none := by
  unfold step?
  rw [stage]
  rfl

theorem step?_of_admitted (stage : request.stage = .admitted) (pipeline : Pipeline) :
    request.step? false pipeline =
      let timing := pipeline.setAlarm (pipeline.fetchConduct request.id).delay
      request.proceed (.fetching timing.1)
        (timing.2.note (.fetchBegun request.task request.id)) := by
  unfold step?
  rw [stage]
  rfl

theorem step?_of_evaluating {deployment : Deployment}
    (stage : request.stage = .evaluating deployment) (pipeline : Pipeline) :
    request.step? false pipeline =
      let alerts := pipeline.alertsFor deployment
      let timing := pipeline.setAlarm (pipeline.riskConduct deployment.id).delay
      request.proceed (.assessing timing.1 deployment alerts)
        (timing.2.note (.riskBegun request.task deployment alerts)) := by
  unfold step?
  rw [stage]
  rfl

theorem step?_of_queued {admission : Admission} (stage : request.stage = .queued admission)
    (isCancelled : Bool) (pipeline : Pipeline) :
    request.step? isCancelled pipeline =
      match admission.step? request.task isCancelled pipeline with
      | none => none
      | some (.going waiting, next) => request.proceed (.queued waiting) next
      | some (.over .admitted, next) => request.proceed .admitted next
      | some (.over (.refused error), next) =>
          some (.over (.finished (.failure (.admission error))), next) := by
  unfold step?
  rewrite [stage]
  rfl

theorem Transition.of_queued {admission : Admission} (stage : request.stage = .queued admission)
    (moved : request.step? isCancelled before = some (progress, after)) :
    ∃ made, Transition request isCancelled before progress made after := by
  rw [step?_of_queued stage] at moved
  split at moved
  · cases moved
  · rename_i seeking
    cases moved
    exact ⟨_, .wait stage seeking⟩
  · rename_i seeking
    cases moved
    exact ⟨_, .enter stage seeking⟩
  · rename_i seeking
    cases moved
    exact ⟨_, .refuse stage seeking⟩

theorem Transition.of_fetching {alarm : Option Alarm} (stage : request.stage = .fetching alarm)
    (holds : request.holdsSlot = true)
    (moved : request.step? false before = some (progress, after)) :
    ∃ made, Transition request false before progress made after := by
  rw [step?_of_fetching stage] at moved
  split at moved
  · rename_i elapsed
    have heard : ∀ answer?, before.fetchAnswer? request.id = answer? →
        request.ReceivesFetch false before answer? :=
      fun _ answered => ⟨rfl, answered, alarm, stage, elapsed⟩
    rw [endFetch_eq] at moved
    split at moved
    · rename_i answered
      cases moved
      exact ⟨_, .finish holds (.inl (heard _ answered)) fun _ impossible => by cases impossible⟩
    · rename_i answered
      cases moved
      exact ⟨_, .finish holds ⟨rfl, heard _ answered⟩ fun _ impossible => by cases impossible⟩
    · rename_i answered
      cases moved
      exact ⟨_, .finish holds (heard _ answered) fun _ impossible => by cases impossible⟩
    · rename_i answered
      cases moved
      exact ⟨_, .find (heard _ answered)⟩
  · cases moved

theorem Transition.of_assessing {alarm : Option Alarm} {deployment : Deployment}
    {alerts : List Alert} (stage : request.stage = .assessing alarm deployment alerts)
    (holds : request.holdsSlot = true)
    (moved : request.step? false before = some (progress, after)) :
    ∃ made, Transition request false before progress made after := by
  rw [step?_of_assessing stage] at moved
  split at moved
  · rename_i elapsed
    have heard : ∀ answer?, before.riskAnswer? deployment.id = answer? →
        request.ReceivesRisk false before deployment alerts answer? :=
      fun _ answered => ⟨rfl, answered, alarm, stage, elapsed⟩
    rw [endRisk_eq] at moved
    split at moved
    · rename_i answered
      cases moved
      exact ⟨_, .finish holds (.inr ⟨_, _, heard _ answered⟩)
        fun _ impossible => by cases impossible⟩
    · rename_i answered
      cases moved
      exact ⟨_, .finish holds ⟨rfl, _, _, heard _ answered⟩
        fun _ impossible => by cases impossible⟩
    · rename_i answered
      cases moved
      exact ⟨_, .complete (heard _ answered)⟩
  · cases moved

theorem Transition.of_step?
    (moved : request.step? isCancelled before = some (progress, after)) :
    ∃ made, Transition request isCancelled before progress made after := by
  by_cases holds : request.holdsSlot = true
  · cases isCancelled with
    | true =>
        rw [step?_of_cancelled holds] at moved
        cases moved
        exact ⟨_, .finish holds ⟨rfl, holds, rfl⟩ fun _ impossible => by cases impossible⟩
    | false =>
        cases stage : request.stage with
        | queued admission => exact Transition.of_queued stage moved
        | admitted =>
            rw [step?_of_admitted stage] at moved
            dsimp only at moved
            rw [Pipeline.setAlarm_eq] at moved
            cases moved
            exact ⟨_, .fetch stage rfl _ _⟩
        | evaluating deployment =>
            rw [step?_of_evaluating stage] at moved
            dsimp only at moved
            rw [Pipeline.setAlarm_eq] at moved
            cases moved
            exact ⟨_, .assess stage rfl _ _⟩
        | fetching alarm => exact Transition.of_fetching stage holds moved
        | assessing alarm deployment alerts => exact Transition.of_assessing stage holds moved
  · cases stage : request.stage with
    | queued admission => exact Transition.of_queued stage moved
    | _ =>
        unfold holdsSlot at holds
        rw [stage] at holds
        exact absurd rfl holds

/-! ## When a request ends -/

theorem ReceivesFetch.holdsSlot {answer? : Option (Except Failure (Option Deployment))}
    (heard : request.ReceivesFetch isCancelled before answer?) : request.holdsSlot = true := by
  obtain ⟨_, _, alarm, stage, _⟩ := heard
  unfold Request.holdsSlot
  rw [stage]

theorem ReceivesRisk.holdsSlot {deployment : Deployment} {alerts : List Alert}
    {answer? : Option (Except Failure Unit)}
    (heard : request.ReceivesRisk isCancelled before deployment alerts answer?) :
    request.holdsSlot = true := by
  obtain ⟨_, _, alarm, stage, _⟩ := heard
  unfold Request.holdsSlot
  rw [stage]

theorem ReceivesFetch.step?_eq {answer? : Option (Except Failure (Option Deployment))}
    (heard : request.ReceivesFetch isCancelled before answer?) :
    before.fetchAnswer? request.id = answer? ∧
      request.step? isCancelled before = endFetch before request := by
  obtain ⟨rfl, answered, alarm, stage, elapsed⟩ := heard
  refine ⟨answered, ?_⟩
  rw [step?_of_fetching stage, if_pos elapsed]

theorem ReceivesRisk.step?_eq {deployment : Deployment} {alerts : List Alert}
    {answer? : Option (Except Failure Unit)}
    (heard : request.ReceivesRisk isCancelled before deployment alerts answer?) :
    before.riskAnswer? deployment.id = answer? ∧
      request.step? isCancelled before = endRisk before request deployment alerts := by
  obtain ⟨rfl, answered, alarm, stage, elapsed⟩ := heard
  refine ⟨answered, ?_⟩
  rw [step?_of_assessing stage, if_pos elapsed]

theorem Transition.ends
    (transition : Transition request isCancelled before (.over ending) made after) :
    request.Ends isCancelled before ending := by
  cases transition with
  | refuse stage moved => exact ⟨_, _, stage, moved⟩
  | complete heard => exact ⟨_, _, heard, rfl⟩
  | finish holds ends incomplete => exact ends

theorem Ends.exists_step? (ends : request.Ends isCancelled before ending) :
    ∃ after, request.step? isCancelled before = some (.over ending, after) := by
  cases ending with
  | crashed =>
      rcases ends with heard | ⟨deployment, alerts, heard⟩
      · obtain ⟨answered, next⟩ := heard.step?_eq
        rw [next, endFetch_eq, answered]
        exact ⟨_, rfl⟩
      · obtain ⟨answered, next⟩ := heard.step?_eq
        rw [next, endRisk_eq, answered]
        exact ⟨_, rfl⟩
  | finished result =>
      cases result with
      | success outcome =>
          cases outcome with
          | completed count =>
              obtain ⟨deployment, alerts, heard, rfl⟩ := ends
              obtain ⟨answered, next⟩ := heard.step?_eq
              rw [next, endRisk_eq, answered]
              exact ⟨_, rfl⟩
          | notFound =>
              obtain ⟨answered, next⟩ := ReceivesFetch.step?_eq ends
              rw [next, endFetch_eq, answered]
              exact ⟨_, rfl⟩
      | failure error =>
          cases error with
          | admission error =>
              obtain ⟨admission, changed, stage, refused⟩ := ends
              rw [step?_of_queued stage, refused]
              exact ⟨_, rfl⟩
          | cancelled id =>
              obtain ⟨rfl, holds, rfl⟩ := ends
              rw [step?_of_cancelled holds]
              exact ⟨_, rfl⟩
          | fetch id cause =>
              obtain ⟨rfl, heard⟩ := ends
              obtain ⟨answered, next⟩ := heard.step?_eq
              rw [next, endFetch_eq, answered]
              exact ⟨_, rfl⟩
          | risk id cause =>
              obtain ⟨rfl, deployment, alerts, heard⟩ := ends
              obtain ⟨answered, next⟩ := heard.step?_eq
              rw [next, endRisk_eq, answered]
              exact ⟨_, rfl⟩

/-- A cancelled request ends with its next step, whatever else is the case. -/
theorem exists_step?_of_cancelled (request : Request) (before : Pipeline) :
    ∃ after, request.step? true before =
      some (.over (.finished (.failure
        (if request.holdsSlot then .cancelled request.id else .admission .cancelled))), after) := by
  by_cases holds : request.holdsSlot = true
  · rw [if_pos holds, step?_of_cancelled holds]
    exact ⟨_, rfl⟩
  · rw [if_neg holds]
    cases stage : request.stage with
    | queued admission =>
        obtain ⟨changed, refused, _⟩ := admission.step?_of_cancelled request.task before
        rw [step?_of_queued stage, refused]
        exact ⟨_, rfl⟩
    | _ =>
        unfold holdsSlot at holds
        rw [stage] at holds
        exact absurd rfl holds

theorem alarm_of_step?_none (waits : request.step? isCancelled before = none) :
    isCancelled = false ∧ (request.holdsSlot = true →
      ∃ alarm, request.alarm? = some alarm ∧ before.hasElapsed alarm = false) := by
  cases isCancelled with
  | true =>
      obtain ⟨_, ended⟩ := request.exists_step?_of_cancelled before
      cases ended.symm.trans waits
  | false =>
      refine ⟨rfl, fun holds => ?_⟩
      have early : ∀ {alarm : Option Alarm}, alarm.all before.hasElapsed = false →
          ∃ set, alarm = some set ∧ before.hasElapsed set = false := by
        intro alarm notRung
        cases alarm with
        | none => cases notRung
        | some set => exact ⟨set, rfl, notRung⟩
      cases stage : request.stage with
      | queued admission =>
          unfold holdsSlot at holds
          rw [stage] at holds
          cases holds
      | admitted =>
          rw [step?_of_admitted stage] at waits
          cases waits
      | evaluating deployment =>
          rw [step?_of_evaluating stage] at waits
          cases waits
      | fetching alarm =>
          rw [step?_of_fetching stage] at waits
          have same : request.alarm? = alarm := by
            unfold alarm?
            rw [stage]
          cases elapsed : alarm.all before.hasElapsed with
          | false => exact same ▸ early elapsed
          | true =>
              rw [elapsed, if_pos rfl, endFetch_eq] at waits
              split at waits <;> cases waits
      | assessing alarm deployment alerts =>
          rw [step?_of_assessing stage] at waits
          have same : request.alarm? = alarm := by
            unfold alarm?
            rw [stage]
          cases elapsed : alarm.all before.hasElapsed with
          | false => exact same ▸ early elapsed
          | true =>
              rw [elapsed, if_pos rfl, endRisk_eq] at waits
              split at waits <;> cases waits

/-! ## Slots -/

def slots (request : Request) : Nat := request.holdsSlot.toNat

def slotsAfter : Progress Request RequestEnd → Nat
  | .going request => request.slots
  | .over _ => 0

theorem slots_of_holdsSlot (holds : request.holdsSlot = true) : request.slots = 1 :=
  congrArg Bool.toNat holds

theorem slots_of_queued {admission : Admission} (stage : request.stage = .queued admission) :
    request.slots = 0 := by
  unfold slots holdsSlot
  rw [stage]
  rfl

theorem stage_of_not_holdsSlot (idle : request.holdsSlot = false) :
    ∃ admission, request.stage = .queued admission := by
  unfold holdsSlot at idle
  cases stage : request.stage with
  | queued admission => exact ⟨admission, rfl⟩
  | _ =>
      rw [stage] at idle
      cases idle

end Request

namespace Admission

variable {admission next : Admission} {request : Nat} {isCancelled : Bool}
  {pipeline changed : Pipeline}

/-- A request that begins to wait takes no slot. -/
theorem spare_of_step?_going
    (moved : admission.step? request isCancelled pipeline = some (.going next, changed)) :
    changed.gate.capacity = pipeline.gate.capacity ∧
      changed.gate.tally.spare = pipeline.gate.tally.spare := by
  obtain ⟨_, _, joined⟩ := of_step?_going moved
  rw [joined]
  exact ⟨rfl, rfl⟩

theorem spare_of_step?_admitted
    (moved : admission.step? request isCancelled pipeline = some (.over .admitted, changed)) :
    changed.gate.capacity = pipeline.gate.capacity ∧
      changed.gate.tally.spare + 1 = pipeline.gate.tally.spare := by
  obtain ⟨_, isFree, taken⟩ | ⟨_, given, accepted⟩ := of_step?_admitted moved
  · rw [taken]
    refine ⟨rfl, ?_⟩
    change pipeline.gate.free - 1 + pipeline.gate.granted.length + 1 =
      pipeline.gate.free + pipeline.gate.granted.length
    omega
  · rw [accepted]
    refine ⟨rfl, ?_⟩
    change pipeline.gate.free + (pipeline.gate.granted.erase request).length + 1 =
      pipeline.gate.free + pipeline.gate.granted.length
    have positive : 0 < pipeline.gate.granted.length := List.length_pos_of_mem given
    rw [List.length_erase_of_mem given]
    omega

theorem spare_of_step?_refused {error : AdmissionError}
    (moved : admission.step? request isCancelled pipeline =
      some (.over (.refused error), changed)) :
    changed.gate.capacity = pipeline.gate.capacity ∧
      changed.gate.tally.spare = pipeline.gate.tally.spare := by
  obtain ⟨_, _, same⟩ | ⟨_, withdrawn⟩ := of_step?_refused moved
  · rw [same]
    exact ⟨rfl, rfl⟩
  · rw [withdrawn]
    have counted := congrArg Tally.spare (Gate.tally_withdraw pipeline.gate request)
    exact ⟨Gate.capacity_withdraw _ _, counted⟩

end Admission

namespace Pipeline

/-- A slot that is given back is held by nobody. -/
theorem spare_release (pipeline : Pipeline) :
    pipeline.release.gate.capacity = pipeline.gate.capacity ∧
      pipeline.release.gate.tally.spare = pipeline.gate.tally.spare + 1 := by
  rw [gate_release]
  exact ⟨Gate.capacity_giveSlot _, congrArg Tally.spare (Gate.tally_giveSlot _)⟩

theorem release_eq (pipeline : Pipeline) :
    pipeline.release = { pipeline with
      gate := pipeline.gate.release.2, ready := pipeline.release.ready } := by
  unfold release
  dsimp only
  rw [wakeNext_eq]

end Pipeline

namespace Request

variable {request : Request} {isCancelled : Bool} {before after : Pipeline}
  {progress : Progress Request RequestEnd} {ending : RequestEnd} {made : List Call}

/-- A request takes a slot from those that nobody holds, and puts it back among them
when it ends. -/
theorem Transition.slots_kept
    (transition : Transition request isCancelled before progress made after) :
    after.gate.capacity = before.gate.capacity ∧
      after.gate.tally.spare + slotsAfter progress =
        before.gate.tally.spare + request.slots := by
  cases transition with
  | wait stage moved =>
      rw [slots_of_queued stage]
      exact Admission.spare_of_step?_going moved
  | enter stage moved =>
      rw [slots_of_queued stage]
      exact Admission.spare_of_step?_admitted moved
  | refuse stage moved =>
      rw [slots_of_queued stage]
      exact Admission.spare_of_step?_refused moved
  | fetch stage uncancelled alarm alarms =>
      have held : request.slots = 1 := by
        unfold slots holdsSlot
        rw [stage]
        rfl
      rw [held]
      exact ⟨rfl, rfl⟩
  | find heard =>
      rw [slots_of_holdsSlot heard.holdsSlot]
      exact ⟨rfl, rfl⟩
  | assess stage uncancelled alarm alarms =>
      have held : request.slots = 1 := by
        unfold slots holdsSlot
        rw [stage]
        rfl
      rw [held]
      exact ⟨rfl, rfl⟩
  | complete heard =>
      rw [slots_of_holdsSlot heard.holdsSlot]
      exact (before.note _).spare_release
  | finish holds ends incomplete =>
      rw [slots_of_holdsSlot holds]
      exact before.spare_release

theorem Transition.gate_eq (transition : Transition request isCancelled before progress made after)
    (holds : request.holdsSlot = true) :
    (∀ next, progress = .going next → after.gate = before.gate) ∧
      ∀ ending, progress = .over ending → after.gate = before.gate.release.2 := by
  have impossible : ∀ {admission : Admission}, request.stage ≠ .queued admission := by
    intro admission stage
    unfold holdsSlot at holds
    rw [stage] at holds
    cases holds
  cases transition with
  | wait stage moved => exact absurd stage impossible
  | enter stage moved => exact absurd stage impossible
  | refuse stage moved => exact absurd stage impossible
  | complete heard =>
      refine ⟨fun next going => ?_, fun ending isOver => (before.note _).gate_release⟩
      cases going
  | finish holds ends incomplete =>
      refine ⟨fun next going => ?_, fun ending isOver => before.gate_release⟩
      cases going
  | _ =>
      refine ⟨fun next going => rfl, fun ending isOver => ?_⟩
      cases isOver

/-! ## What a step leaves alone -/

theorem Transition.id_eq {next : Request}
    (transition : Transition request isCancelled before (.going next) made after) :
    next.id = request.id := by
  cases transition <;> rfl

/-- A step of a request changes the gate, the alarms, who is awake and the calls that are
noted, and nothing else. -/
theorem Transition.frame (transition : Transition request isCancelled before progress made after) :
    after = { before with
      gate := after.gate, alarms := after.alarms, ready := after.ready, calls := after.calls } := by
  cases transition with
  | wait stage moved => rw [Admission.step?_frame moved]
  | enter stage moved => rw [Admission.step?_frame moved]
  | refuse stage moved => rw [Admission.step?_frame moved]
  | complete heard =>
      rw [Pipeline.release_eq]
      rfl
  | finish holds ends incomplete => rw [Pipeline.release_eq]
  | _ => rfl

/-! ## Calls -/

/-- The calls of a step are noted, newest first, and no others. -/
theorem Transition.calls_eq
    (transition : Transition request isCancelled before progress made after) :
    after.calls = made ++ before.calls := by
  have seeking : ∀ {admission : Admission} {next : Progress Admission Verdict}
      {changed : Pipeline}, admission.step? request.task isCancelled before = some (next, changed) →
        changed.calls = before.calls := by
    intro admission next changed moved
    rw [Admission.step?_frame moved]
  cases transition with
  | wait stage moved => exact seeking moved
  | enter stage moved => exact seeking moved
  | refuse stage moved => exact seeking moved
  | complete heard =>
      rw [Pipeline.release_eq]
      rfl
  | finish holds ends incomplete =>
      rw [Pipeline.release_eq]
      rfl
  | _ => rfl

theorem Transition.holdsSlot_of_call
    (transition : Transition request isCancelled before progress made after)
    (calls : made ≠ []) : request.holdsSlot = true ∧ isCancelled = false := by
  have inside : ∀ {stage : Stage}, request.stage = stage →
      (∀ admission, stage ≠ .queued admission) → request.holdsSlot = true := by
    intro stage same notQueued
    by_cases holds : request.holdsSlot = true
    · exact holds
    · obtain ⟨admission, queued⟩ := stage_of_not_holdsSlot (Bool.eq_false_iff.2 holds)
      exact absurd (same.symm.trans queued) (notQueued admission)
  cases transition with
  | fetch stage uncancelled alarm alarms =>
      exact ⟨inside stage (fun _ impossible => by cases impossible), uncancelled⟩
  | assess stage uncancelled alarm alarms =>
      exact ⟨inside stage (fun _ impossible => by cases impossible), uncancelled⟩
  | complete heard => exact ⟨heard.holdsSlot, heard.1⟩
  | _ => exact absurd rfl calls

end Request

end PolicyWatch.Reprocess

import PolicyWatch.Reprocess.Admission

/-!
# A gate and its requests

All requests that have to do with one gate, and the steps that they take, in any
order.  Main statements: what a request that seeks a slot can do to the gate, by
what comes of its step.
-/

namespace PolicyWatch.Reprocess

/-- Whether a request was refused because it had waited too long. -/
def AdmissionError.isTimeout : AdmissionError → Bool
  | timedOut _ => true
  | _ => false

def Admission.isWaiting : Admission → Bool
  | arriving => false
  | waiting _ => true

/-! ## Steps at the gate -/

namespace Gate

/-- A request that arrives is admitted to a free slot, is refused and leaves the
gate as it was, or joins those that wait. -/
theorem arrive_cases (gate : Gate) (request : Nat) (isCancelled : Bool) :
    (0 < gate.free ∧ gate.arrive request isCancelled =
        (some .admitted, { gate with free := gate.free - 1, holding := gate.holding + 1 })) ∨
      (∃ error : AdmissionError, error.isTimeout = false ∧
        gate.arrive request isCancelled = (some (.refused error), gate)) ∨
      gate.arrive request isCancelled =
        (none, { gate with
          waiters := gate.waiters ++ [request], queueDepth := gate.queueDepth + 1 }) := by
  unfold arrive
  split
  · exact .inr (.inl ⟨.cancelled, rfl, rfl⟩)
  · split
    · exact .inr (.inl ⟨.closed, rfl, rfl⟩)
    · split
      · exact .inr (.inr rfl)
      · exact .inl ⟨by omega, rfl⟩

/-- A request that looks again waits on, is admitted to the slot that it was
given, or is refused and withdraws. -/
theorem resume_cases (gate : Gate) (request : Nat) (isCancelled isLate : Bool) :
    gate.resume request isCancelled isLate = (none, none, gate) ∨
      (request ∈ gate.granted ∧ gate.resume request isCancelled isLate =
        (some .admitted, none, { gate with
          granted := gate.granted.erase request
          queueDepth := gate.queueDepth - 1
          holding := gate.holding + 1 })) ∨
      ∃ error : AdmissionError, gate.resume request isCancelled isLate =
        (some (.refused error), (gate.withdraw request).1,
          { (gate.withdraw request).2 with
            timeouts := (gate.withdraw request).2.timeouts + error.isTimeout.toNat }) := by
  unfold resume
  split
  · exact .inr (.inr ⟨.cancelled, rfl⟩)
  · split
    · exact .inr (.inr ⟨.closed, rfl⟩)
    · split
      · rename_i given
        exact .inr (.inl ⟨List.contains_iff_mem.1 given, rfl⟩)
      · split
        · exact .inr (.inr ⟨.timedOut gate.waitLimit, rfl⟩)
        · exact .inl rfl

end Gate

/-! ## Steps of a request that seeks a slot -/

namespace Pipeline

@[simp] theorem gate_wakeAll (pipeline : Pipeline) (tasks : List Nat) :
    (pipeline.wakeAll tasks).gate = pipeline.gate := by
  unfold wakeAll
  induction tasks generalizing pipeline with
  | nil => rfl
  | cons task rest ih =>
      rw [List.foldl_cons, ih]
      unfold wake
      split <;> rfl

@[simp] theorem gate_wakeNext (pipeline : Pipeline) (task : Option Nat) :
    (pipeline.wakeNext task).gate = pipeline.gate :=
  gate_wakeAll pipeline task.toList

@[simp] theorem gate_setAlarm (pipeline : Pipeline) (delay : Nat) :
    (pipeline.setAlarm delay).2.gate = pipeline.gate := by
  unfold setAlarm
  split <;> rfl

theorem gate_release (pipeline : Pipeline) : pipeline.release.gate = pipeline.gate.release.2 :=
  gate_wakeNext _ _

theorem gate_closeGate (pipeline : Pipeline) : pipeline.closeGate.gate = pipeline.gate.close.2 :=
  gate_wakeAll _ _

end Pipeline

namespace Admission

variable {admission next : Admission} {request : Nat} {isCancelled : Bool}
  {pipeline changed : Pipeline}

theorem of_step?_going
    (moved : admission.step? request isCancelled pipeline = some (.going next, changed)) :
    admission.isWaiting = false ∧ next.isWaiting = true ∧
      changed.gate = { pipeline.gate with
        waiters := pipeline.gate.waiters ++ [request]
        queueDepth := pipeline.gate.queueDepth + 1 } := by
  cases admission with
  | arriving =>
      obtain ⟨_, arrived⟩ | ⟨_, _, arrived⟩ | arrived :=
        pipeline.gate.arrive_cases request isCancelled
      · rw [step?, arrived] at moved
        cases moved
      · rw [step?, arrived] at moved
        cases moved
      · rw [step?, arrived] at moved
        cases moved
        exact ⟨rfl, rfl, Pipeline.gate_setAlarm _ _⟩
  | waiting deadline =>
      obtain resumed | ⟨_, resumed⟩ | ⟨_, resumed⟩ :=
        pipeline.gate.resume_cases request isCancelled (deadline.any pipeline.hasElapsed)
      · rw [step?, resumed] at moved
        cases moved
      · rw [step?, resumed] at moved
        cases moved
      · rw [step?, resumed] at moved
        cases moved

/-- A request is admitted at once to a free slot, or in the end to the slot that
it was given. -/
theorem of_step?_admitted
    (moved : admission.step? request isCancelled pipeline = some (.over .admitted, changed)) :
    (admission.isWaiting = false ∧ 0 < pipeline.gate.free ∧
        changed.gate = { pipeline.gate with
          free := pipeline.gate.free - 1, holding := pipeline.gate.holding + 1 }) ∨
      (admission.isWaiting = true ∧ request ∈ pipeline.gate.granted ∧
        changed.gate = { pipeline.gate with
          granted := pipeline.gate.granted.erase request
          queueDepth := pipeline.gate.queueDepth - 1
          holding := pipeline.gate.holding + 1 }) := by
  cases admission with
  | arriving =>
      obtain ⟨isFree, arrived⟩ | ⟨_, _, arrived⟩ | arrived :=
        pipeline.gate.arrive_cases request isCancelled
      · rw [step?, arrived] at moved
        cases moved
        exact .inl ⟨rfl, isFree, rfl⟩
      · rw [step?, arrived] at moved
        cases moved
      · rw [step?, arrived] at moved
        cases moved
  | waiting deadline =>
      obtain resumed | ⟨given, resumed⟩ | ⟨_, resumed⟩ :=
        pipeline.gate.resume_cases request isCancelled (deadline.any pipeline.hasElapsed)
      · rw [step?, resumed] at moved
        cases moved
      · rw [step?, resumed] at moved
        cases moved
        exact .inr ⟨rfl, given, Pipeline.gate_wakeNext _ _⟩
      · rw [step?, resumed] at moved
        cases moved

theorem of_step?_refused {error : AdmissionError}
    (moved : admission.step? request isCancelled pipeline =
      some (.over (.refused error), changed)) :
    (admission.isWaiting = false ∧ error.isTimeout = false ∧ changed.gate = pipeline.gate) ∨
      (admission.isWaiting = true ∧ changed.gate =
        { (pipeline.gate.withdraw request).2 with
          timeouts := (pipeline.gate.withdraw request).2.timeouts + error.isTimeout.toNat }) := by
  cases admission with
  | arriving =>
      obtain ⟨_, arrived⟩ | ⟨reason, inTime, arrived⟩ | arrived :=
        pipeline.gate.arrive_cases request isCancelled
      · rw [step?, arrived] at moved
        cases moved
      · rw [step?, arrived] at moved
        cases moved
        exact .inl ⟨rfl, inTime, rfl⟩
      · rw [step?, arrived] at moved
        cases moved
  | waiting deadline =>
      obtain resumed | ⟨_, resumed⟩ | ⟨reason, resumed⟩ :=
        pipeline.gate.resume_cases request isCancelled (deadline.any pipeline.hasElapsed)
      · rw [step?, resumed] at moved
        cases moved
      · rw [step?, resumed] at moved
        cases moved
      · rw [step?, resumed] at moved
        cases moved
        exact .inr ⟨rfl, Pipeline.gate_wakeNext _ _⟩

theorem gate_leave (admission : Admission) (request : Nat) (pipeline : Pipeline) :
    (admission.leave request pipeline).gate =
      if admission.isWaiting then (pipeline.gate.withdraw request).2 else pipeline.gate := by
  cases admission with
  | arriving => rfl
  | waiting deadline => exact Pipeline.gate_wakeNext _ _

end Admission

/-! ## The requests at a gate -/

/-- The requests at a gate, with the pipeline that the gate belongs to: those
that seek a slot, those that hold one, those that were refused, with the reason,
and those that went away while they sought one. -/
structure GateSystem where
  pipeline : Pipeline
  seeking : List (Nat × Admission)
  holders : List Nat
  refused : List (Nat × AdmissionError)
  gone : List Nat

namespace GateSystem

/-- Nobody has come to the gate yet. -/
def empty (pipeline : Pipeline) : GateSystem := ⟨pipeline, [], [], [], []⟩

def gate (system : GateSystem) : Gate := system.pipeline.gate

/-- The requests among those that seek a slot that have begun to wait. -/
def waitingAmong (seeking : List (Nat × Admission)) : List Nat :=
  (seeking.filter fun entry => entry.2.isWaiting).map Prod.fst

def waiting (system : GateSystem) : List Nat := waitingAmong system.seeking

/-- The requests that were refused because they had waited too long. -/
def timedOut (system : GateSystem) : List Nat :=
  (system.refused.filter fun entry => entry.2.isTimeout).map Prod.fst

/-- The requests that ended without ever holding a slot. -/
def turnedAway (system : GateSystem) : List Nat :=
  system.refused.map Prod.fst ++ system.gone

def names (system : GateSystem) : List Nat :=
  system.seeking.map Prod.fst ++ (system.holders ++ system.turnedAway)

/-- One step of anybody: a request comes, begins to wait, is admitted, is refused
or goes away; one that holds a slot ends, in whatever way; the gate is closed; or
something happens that does not concern the gate, such as the passing of time. -/
inductive Step : GateSystem → GateSystem → Prop where
  | come (system : GateSystem) (request : Nat) (isNew : request ∉ system.names) :
      Step system { system with seeking := system.seeking ++ [(request, .arriving)] }
  | wait {system : GateSystem} {request : Nat} {admission next : Admission} {isCancelled : Bool}
      {changed : Pipeline} {earlier later : List (Nat × Admission)}
      (seeks : system.seeking = earlier ++ (request, admission) :: later)
      (moved : admission.step? request isCancelled system.pipeline =
        some (.going next, changed)) :
      Step system { system with
        pipeline := changed
        seeking := earlier ++ (request, next) :: later }
  | enter {system : GateSystem} {request : Nat} {admission : Admission} {isCancelled : Bool}
      {changed : Pipeline} {earlier later : List (Nat × Admission)}
      (seeks : system.seeking = earlier ++ (request, admission) :: later)
      (moved : admission.step? request isCancelled system.pipeline =
        some (.over .admitted, changed)) :
      Step system { system with
        pipeline := changed
        seeking := earlier ++ later
        holders := request :: system.holders }
  | refuse {system : GateSystem} {request : Nat} {admission : Admission} {isCancelled : Bool}
      {error : AdmissionError} {changed : Pipeline} {earlier later : List (Nat × Admission)}
      (seeks : system.seeking = earlier ++ (request, admission) :: later)
      (moved : admission.step? request isCancelled system.pipeline =
        some (.over (.refused error), changed)) :
      Step system { system with
        pipeline := changed
        seeking := earlier ++ later
        refused := (request, error) :: system.refused }
  | abandon {system : GateSystem} {request : Nat} {admission : Admission}
      {earlier later : List (Nat × Admission)}
      (seeks : system.seeking = earlier ++ (request, admission) :: later) :
      Step system { system with
        pipeline := admission.leave request system.pipeline
        seeking := earlier ++ later
        gone := request :: system.gone }
  | finish {system : GateSystem} {request : Nat} {earlier later : List Nat}
      (holds : system.holders = earlier ++ request :: later) :
      Step system { system with
        pipeline := system.pipeline.release
        holders := earlier ++ later }
  | close (system : GateSystem) : Step system { system with pipeline := system.pipeline.closeGate }
  | elsewhere (system : GateSystem) (changed : Pipeline) (sameGate : changed.gate = system.gate) :
      Step system { system with pipeline := changed }

/-- What can become of a new gate and its requests. -/
inductive Reachable (maxConcurrency waitLimit : Nat) : GateSystem → Prop where
  | start (pipeline : Pipeline)
      (built : Gate.build? maxConcurrency waitLimit = some pipeline.gate) :
      Reachable maxConcurrency waitLimit (empty pipeline)
  | step {system next : GateSystem} (reached : Reachable maxConcurrency waitLimit system)
      (taken : Step system next) : Reachable maxConcurrency waitLimit next

end GateSystem

end PolicyWatch.Reprocess

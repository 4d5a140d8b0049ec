import PolicyWatch.Proofs.Gate.GateSystem

/-!
# Verdicts at the gate

What comes of a request when it looks at the gate, by what is ready at that moment,
and to whom a slot goes that comes free.  Main statements: cancellation comes before
a closed gate, a closed gate before a slot and a slot before the deadline, and a slot
goes to the request that has waited longest, which is woken.
-/

namespace PolicyWatch.Reprocess

/-! ## Who is given a slot -/

namespace Gate

variable {gate : Gate} {request first other : Nat} {rest : List Nat}

theorem giveSlot_of_nil (nobody : gate.waiters = []) :
    gate.giveSlot = (none, { gate with free := gate.free + 1 }) := by
  unfold giveSlot
  rw [nobody]

theorem giveSlot_of_cons (waits : gate.waiters = first :: rest) :
    gate.giveSlot =
      (some first, { gate with waiters := rest, granted := gate.granted ++ [first] }) := by
  unfold giveSlot
  rw [waits]

theorem withdraw_of_mem (given : request ∈ gate.granted) :
    gate.withdraw request =
      giveSlot { gate with
        queueDepth := gate.queueDepth - 1
        granted := gate.granted.erase request } := by
  unfold withdraw
  rw [if_pos (List.contains_iff_mem.2 given)]

theorem withdraw_of_not_mem (notGiven : request ∉ gate.granted) :
    gate.withdraw request =
      (none, { gate with
        queueDepth := gate.queueDepth - 1
        waiters := gate.waiters.erase request }) := by
  unfold withdraw
  rw [if_neg fun given => notGiven (List.contains_iff_mem.1 given)]

/-- A slot that comes free is given to the request that has waited longest, which is
reported. -/
theorem giveSlot_newly (given : other ∈ gate.giveSlot.2.granted) (isNew : other ∉ gate.granted) :
    gate.giveSlot.1 = some other ∧ gate.waiters = other :: gate.giveSlot.2.waiters := by
  cases waits : gate.waiters with
  | nil =>
      rw [giveSlot_of_nil waits] at given
      exact absurd given isNew
  | cons first rest =>
      rw [giveSlot_of_cons waits] at given ⊢
      rcases List.mem_append.1 given with known | isFirst
      · exact absurd known isNew
      · rw [List.mem_singleton.1 isFirst]
        exact ⟨rfl, rfl⟩

/-- A slot that a request gives up is given to the one that has waited longest, which
is reported. -/
theorem withdraw_newly (given : other ∈ (gate.withdraw request).2.granted)
    (isNew : other ∉ gate.granted) :
    (gate.withdraw request).1 = some other ∧
      gate.waiters = other :: (gate.withdraw request).2.waiters := by
  by_cases had : request ∈ gate.granted
  · rw [withdraw_of_mem had] at given ⊢
    exact giveSlot_newly given fun known => isNew (List.mem_of_mem_erase known)
  · rw [withdraw_of_not_mem had] at given
    exact absurd given isNew

end Gate

namespace Pipeline

theorem wakeAll_eq (pipeline : Pipeline) (tasks : List Nat) :
    pipeline.wakeAll tasks = { pipeline with ready := (pipeline.wakeAll tasks).ready } := by
  unfold wakeAll
  induction tasks generalizing pipeline with
  | nil => rfl
  | cons task rest ih =>
      have woken : pipeline.wake task = { pipeline with ready := (pipeline.wake task).ready } := by
        unfold wake
        split <;> rfl
      rw [List.foldl_cons, woken]
      exact ih _

theorem wakeNext_eq (pipeline : Pipeline) (task : Option Nat) :
    pipeline.wakeNext task = { pipeline with ready := (pipeline.wakeNext task).ready } :=
  wakeAll_eq pipeline task.toList

theorem mem_ready_wake (pipeline : Pipeline) (task : Nat) : task ∈ (pipeline.wake task).ready := by
  unfold wake
  split
  · rename_i awake
    exact List.contains_iff_mem.1 awake
  · exact List.mem_append_right _ (List.mem_singleton_self task)

theorem ready_subset_wakeAll (pipeline : Pipeline) (tasks : List Nat) :
    pipeline.ready ⊆ (pipeline.wakeAll tasks).ready := by
  induction tasks generalizing pipeline with
  | nil => exact fun _ member => member
  | cons task rest ih =>
      refine List.Subset.trans ?_ (ih (pipeline.wake task))
      unfold wake
      split
      · exact fun _ member => member
      · exact List.subset_append_left _ _

theorem mem_ready_wakeAll (pipeline : Pipeline) {task : Nat} {tasks : List Nat}
    (member : task ∈ tasks) : task ∈ (pipeline.wakeAll tasks).ready := by
  induction tasks generalizing pipeline with
  | nil => cases member
  | cons first rest ih =>
      rcases List.mem_cons.1 member with rfl | later
      · exact ready_subset_wakeAll _ rest (pipeline.mem_ready_wake task)
      · exact ih (pipeline.wake first) later

/-- An alarm goes off when its delay is over.  There is none without a delay. -/
theorem due_setAlarm (pipeline : Pipeline) (delay : Nat) :
    (pipeline.setAlarm delay).1.map Alarm.due =
      if delay = 0 then none else some (pipeline.clock + delay) := by
  unfold setAlarm
  split <;> rfl

theorem mem_ready_wakeNext (pipeline : Pipeline) {task : Nat} {next : Option Nat}
    (given : next = some task) : task ∈ (pipeline.wakeNext next).ready := by
  rw [given]
  exact pipeline.mem_ready_wakeAll (List.mem_singleton_self task)

end Pipeline

/-! ## What comes of a request that looks at the gate -/

namespace Admission

variable {admission next : Admission} {request : Nat} {isCancelled : Bool}
  {pipeline changed : Pipeline}

/-- A request that looks at the gate changes the gate, sets an alarm and wakes others,
and does nothing else. -/
theorem step?_frame {progress : Progress Admission Verdict}
    (moved : admission.step? request isCancelled pipeline = some (progress, changed)) :
    changed = { pipeline with
      gate := changed.gate, alarms := changed.alarms, ready := changed.ready } := by
  cases admission with
  | arriving =>
      cases arrived : pipeline.gate.arrive request isCancelled with
      | mk verdict? gate =>
          simp only [step?, arrived] at moved
          cases verdict? with
          | some verdict =>
              cases moved
              rfl
          | none =>
              cases moved
              unfold Pipeline.setAlarm
              split <;> rfl
  | waiting deadline =>
      cases resumed :
          pipeline.gate.resume request isCancelled (deadline.any pipeline.hasElapsed) with
      | mk verdict? outcome =>
          simp only [step?, resumed] at moved
          cases verdict? with
          | some verdict =>
              cases moved
              rw [Pipeline.wakeNext_eq]
          | none => cases moved

theorem leave_frame (admission : Admission) (request : Nat) (pipeline : Pipeline) :
    admission.leave request pipeline = { pipeline with
      gate := (admission.leave request pipeline).gate
      ready := (admission.leave request pipeline).ready } := by
  cases admission with
  | arriving => rfl
  | waiting deadline =>
      unfold leave
      dsimp only
      rw [Pipeline.wakeNext_eq]

/-- Whether there is a slot for a request: a free one if it arrives, one that it was
given if it waits. -/
def HasSlot (admission : Admission) (request : Nat) (gate : Gate) : Prop :=
  match admission with
  | arriving => 0 < gate.free
  | waiting _ => request ∈ gate.granted

/-- Whether a request waits and its deadline has passed. -/
def IsLate (admission : Admission) (pipeline : Pipeline) : Prop :=
  ∃ alarm, admission = .waiting (some alarm) ∧ alarm.due ≤ pipeline.clock

/-- A cancelled request is told so, whatever else is ready.  One that arrives leaves
everything as it was. -/
theorem step?_of_cancelled (admission : Admission) (request : Nat) (pipeline : Pipeline) :
    ∃ changed, admission.step? request true pipeline =
        some (.over (.refused .cancelled), changed) ∧
      (admission.isWaiting = false → changed = pipeline) := by
  cases admission with
  | arriving => exact ⟨pipeline, rfl, fun _ => rfl⟩
  | waiting deadline => exact ⟨_, rfl, fun impossible => by cases impossible⟩

theorem step?_of_closed (isClosed : pipeline.gate.isClosed = true) (admission : Admission)
    (request : Nat) :
    ∃ changed, admission.step? request false pipeline =
      some (.over (.refused .closed), changed) := by
  cases admission with
  | arriving => exact ⟨_, by simp only [step?, Gate.arrive, isClosed]; rfl⟩
  | waiting deadline => exact ⟨_, by simp only [step?, Gate.resume, isClosed]; rfl⟩

/-- At an open gate a request that is not cancelled is admitted if there is a slot for
it, also when its deadline has passed. -/
theorem step?_of_slot (isOpen : pipeline.gate.isClosed = false)
    (hasSlot : admission.HasSlot request pipeline.gate) :
    ∃ changed, admission.step? request false pipeline = some (.over .admitted, changed) := by
  cases admission with
  | arriving =>
      have isFree : pipeline.gate.free ≠ 0 := Nat.pos_iff_ne_zero.1 hasSlot
      exact ⟨_, by simp only [step?, Gate.arrive, isOpen, isFree]; rfl⟩
  | waiting deadline =>
      have given : pipeline.gate.granted.contains request = true := List.contains_iff_mem.2 hasSlot
      exact ⟨_, by simp only [step?, Gate.resume, isOpen, given]; rfl⟩

/-- At an open gate without a slot for it a request that is not cancelled has waited
too long if its deadline has passed. -/
theorem step?_of_late (isOpen : pipeline.gate.isClosed = false)
    (noSlot : ¬ admission.HasSlot request pipeline.gate) (isLate : admission.IsLate pipeline) :
    ∃ changed, admission.step? request false pipeline =
      some (.over (.refused (.timedOut pipeline.gate.waitLimit)), changed) := by
  obtain ⟨alarm, rfl, passed⟩ := isLate
  have notGiven : pipeline.gate.granted.contains request = false :=
    Bool.eq_false_iff.2 fun given => noSlot (List.contains_iff_mem.1 given)
  have elapsed : (some alarm).any pipeline.hasElapsed = true := decide_eq_true passed
  exact ⟨_, by simp only [step?, Gate.resume, isOpen, notGiven, elapsed]; rfl⟩

/-- A request that arrives at an open gate without a free slot begins to wait, until a
deadline if there is one. -/
theorem step?_of_full (isOpen : pipeline.gate.isClosed = false) (isFull : pipeline.gate.free = 0)
    (request : Nat) :
    ∃ deadline changed, arriving.step? request false pipeline =
        some (.going (.waiting deadline), changed) ∧
      deadline.map Alarm.due =
        if pipeline.gate.waitLimit = 0 then none
        else some (pipeline.clock + pipeline.gate.waitLimit) := by
  refine ⟨_, _, by simp only [step?, Gate.arrive, isOpen, isFull]; rfl, ?_⟩
  exact Pipeline.due_setAlarm _ _

theorem step?_of_early {deadline : Option Alarm} (isOpen : pipeline.gate.isClosed = false)
    (noSlot : ¬ (waiting deadline).HasSlot request pipeline.gate)
    (inTime : ¬ (waiting deadline).IsLate pipeline) :
    (waiting deadline).step? request false pipeline = none := by
  have notGiven : pipeline.gate.granted.contains request = false :=
    Bool.eq_false_iff.2 fun given => noSlot (List.contains_iff_mem.1 given)
  have notRung : deadline.any pipeline.hasElapsed = false := by
    cases deadline with
    | none => rfl
    | some alarm => exact decide_eq_false fun passed => inTime ⟨alarm, rfl, passed⟩
  simp only [step?, Gate.resume, isOpen, notGiven, notRung]
  rfl

/-- One of these six comes of a request that looks at the gate. -/
theorem step?_cases (admission : Admission) (request : Nat) (isCancelled : Bool)
    (pipeline : Pipeline) :
    (isCancelled = true ∧
        ∃ changed, admission.step? request isCancelled pipeline =
          some (.over (.refused .cancelled), changed)) ∨
      (isCancelled = false ∧ pipeline.gate.isClosed = true ∧
        ∃ changed, admission.step? request isCancelled pipeline =
          some (.over (.refused .closed), changed)) ∨
      (isCancelled = false ∧ pipeline.gate.isClosed = false ∧
        ((admission.HasSlot request pipeline.gate ∧
            ∃ changed, admission.step? request isCancelled pipeline =
              some (.over .admitted, changed)) ∨
          (admission.IsLate pipeline ∧
            ∃ changed, admission.step? request isCancelled pipeline =
              some (.over (.refused (.timedOut pipeline.gate.waitLimit)), changed)) ∨
          (admission = .arriving ∧ pipeline.gate.free = 0 ∧
            ∃ deadline changed, admission.step? request isCancelled pipeline =
                some (.going (.waiting deadline), changed) ∧
              deadline.map Alarm.due =
                if pipeline.gate.waitLimit = 0 then none
                else some (pipeline.clock + pipeline.gate.waitLimit)) ∨
          admission.step? request isCancelled pipeline = none)) := by
  cases isCancelled with
  | true =>
      obtain ⟨changed, refused, _⟩ := step?_of_cancelled admission request pipeline
      exact .inl ⟨rfl, changed, refused⟩
  | false =>
      cases isOpen : pipeline.gate.isClosed with
      | true => exact .inr (.inl ⟨rfl, rfl, step?_of_closed isOpen admission request⟩)
      | false =>
          refine .inr (.inr ⟨rfl, rfl, ?_⟩)
          by_cases hasSlot : admission.HasSlot request pipeline.gate
          · exact .inl ⟨hasSlot, step?_of_slot isOpen hasSlot⟩
          · by_cases isLate : admission.IsLate pipeline
            · exact .inr (.inl ⟨isLate, step?_of_late isOpen hasSlot isLate⟩)
            · cases admission with
              | arriving =>
                  have isFull : pipeline.gate.free = 0 := Nat.eq_zero_of_not_pos hasSlot
                  exact .inr (.inr (.inl ⟨rfl, isFull, step?_of_full isOpen isFull request⟩))
              | waiting deadline =>
                  exact .inr (.inr (.inr (step?_of_early isOpen hasSlot isLate)))

/-- Only a request that arrives at an open gate without a free slot begins to wait. -/
theorem full_of_step?
    (moved : admission.step? request isCancelled pipeline = some (.going next, changed)) :
    pipeline.gate.isClosed = false ∧ pipeline.gate.free = 0 ∧ admission = .arriving ∧
      ∃ deadline, next = .waiting deadline ∧
        deadline.map Alarm.due =
          if pipeline.gate.waitLimit = 0 then none
          else some (pipeline.clock + pipeline.gate.waitLimit) := by
  obtain ⟨_, _, ends⟩ | ⟨_, _, _, ends⟩ | ⟨_, isOpen, ⟨_, _, ends⟩ | ⟨_, _, ends⟩ |
    ⟨arrives, isFull, deadline, _, ends, due⟩ | ends⟩ :=
    step?_cases admission request isCancelled pipeline <;> cases ends.symm.trans moved
  exact ⟨isOpen, isFull, arrives, deadline, rfl, due⟩

theorem hasSlot_of_step?
    (moved : admission.step? request isCancelled pipeline = some (.over .admitted, changed)) :
    pipeline.gate.isClosed = false ∧ admission.HasSlot request pipeline.gate := by
  obtain ⟨_, _, ends⟩ | ⟨_, _, _, ends⟩ | ⟨_, isOpen, ⟨hasSlot, _, ends⟩ | ⟨_, _, ends⟩ |
    ⟨_, _, _, _, ends, _⟩ | ends⟩ :=
    step?_cases admission request isCancelled pipeline <;> cases ends.symm.trans moved
  exact ⟨isOpen, hasSlot⟩

theorem cause_of_step? {error : AdmissionError}
    (moved : admission.step? request isCancelled pipeline =
      some (.over (.refused error), changed)) :
    (error = .cancelled ∧ isCancelled = true) ∨
      (error = .closed ∧ pipeline.gate.isClosed = true) ∨
      (error = .timedOut pipeline.gate.waitLimit ∧ pipeline.gate.isClosed = false ∧
        admission.IsLate pipeline) := by
  obtain ⟨cancelled, _, ends⟩ | ⟨_, isClosed, _, ends⟩ | ⟨_, isOpen, ⟨_, _, ends⟩ |
    ⟨isLate, _, ends⟩ | ⟨_, _, _, _, ends, _⟩ | ends⟩ :=
    step?_cases admission request isCancelled pipeline <;> cases ends.symm.trans moved
  · exact .inl ⟨rfl, cancelled⟩
  · exact .inr (.inl ⟨rfl, isClosed⟩)
  · exact .inr (.inr ⟨rfl, isOpen, isLate⟩)

end Admission

end PolicyWatch.Reprocess

import PolicyWatch.Proofs.Batch.Act

/-!
# What acts on a batch do

What an act of a worker does to the gate, to those who are awake and to what the risk manager is
told.  Main statements: an act leaves the line at the gate but for its worker as it was, comes
nearer to the end of the batch, and is open to every worker but those that wait without a slot.
-/

namespace PolicyWatch.Reprocess

namespace Pipeline

/-- The deployments of which the risk manager was told, in order, with their alerts. -/
def told (pipeline : Pipeline) : List (Deployment × List Alert) :=
  pipeline.calls.reverse.filterMap fun
    | .riskEnded _ deployment alerts => some (deployment, alerts)
    | _ => none

theorem told_note_ended (pipeline : Pipeline) (number : Nat) (deployment : Deployment)
    (alerts : List Alert) :
    (pipeline.note (.riskEnded number deployment alerts)).told =
      pipeline.told ++ [(deployment, alerts)] := by
  unfold told note
  rw [List.reverse_cons, List.filterMap_append]
  rfl

theorem told_note_begun (pipeline : Pipeline) {call : Call}
    (isBegun : ∀ number deployment alerts, call ≠ .riskEnded number deployment alerts) :
    (pipeline.note call).told = pipeline.told := by
  unfold told note
  rw [List.reverse_cons, List.filterMap_append]
  cases call with
  | riskEnded number deployment alerts => exact absurd rfl (isBegun number deployment alerts)
  | _ => exact List.append_nil _

theorem told_of_calls {before after : Pipeline} (same : after.calls = before.calls) :
    after.told = before.told := by
  unfold told
  rw [same]

theorem calls_release (pipeline : Pipeline) : pipeline.release.calls = pipeline.calls := by
  rw [release_eq]

theorem calls_wakeAll (pipeline : Pipeline) (tasks : List Nat) :
    (pipeline.wakeAll tasks).calls = pipeline.calls := by
  rw [wakeAll_eq]

theorem clock_wakeAll (pipeline : Pipeline) (tasks : List Nat) :
    (pipeline.wakeAll tasks).clock = pipeline.clock := by
  rw [wakeAll_eq]

theorem length_ready_wakeAll_le (pipeline : Pipeline) (tasks : List Nat) :
    (pipeline.wakeAll tasks).ready.length ≤ pipeline.ready.length + tasks.length := by
  unfold wakeAll
  induction tasks generalizing pipeline with
  | nil => exact Nat.le_refl _
  | cons task rest ih =>
      have first : (pipeline.wake task).ready.length ≤ pipeline.ready.length + 1 := by
        unfold wake
        split
        · exact Nat.le_succ _
        · rw [List.length_append]
          exact Nat.le_refl _
      have later := ih (pipeline.wake task)
      rw [List.foldl_cons, List.length_cons]
      omega

theorem length_ready_wakeNext_le (pipeline : Pipeline) (next : Option Nat) :
    (pipeline.wakeNext next).ready.length ≤ pipeline.ready.length + 1 := by
  refine Nat.le_trans (pipeline.length_ready_wakeAll_le next.toList) ?_
  cases next with
  | none => exact Nat.le_succ _
  | some task => exact Nat.le_refl _

/-- The deployment that is stored under an ID, with the alerts that the policies raise for it. -/
def report? (source : Pipeline) (id : String) : Option (Deployment × List Alert) :=
  (source.store.get? id).map fun deployment => (deployment, source.alertsFor deployment)

/-- What the risk manager is told of an ID that is counted with a result. -/
def outcome? (source : Pipeline) : String × Result → Option (Deployment × List Alert)
  | (id, .success (.completed _)) => source.report? id
  | _ => none

end Pipeline

/-- What a step does to those who are awake: it wakes one more at most, and everybody who is given
a slot. -/
structure Pipeline.Wakes (before after : Pipeline) : Prop where
  clock : after.clock = before.clock
  kept : before.ready ⊆ after.ready
  few : after.ready.length ≤ before.ready.length + 1
  newly : ∀ other ∈ after.gate.granted, other ∉ before.gate.granted → other ∈ after.ready

namespace Pipeline.Wakes

variable {before after : Pipeline}

theorem of_same (clock : after.clock = before.clock) (ready : after.ready = before.ready)
    (gate : after.gate.granted = before.gate.granted) : before.Wakes after := by
  refine ⟨clock, ?_, ?_, ?_⟩
  · rw [ready]
    exact fun _ member => member
  · rw [ready]
    exact Nat.le_succ _
  · intro other given isNew
    exact absurd (gate ▸ given) isNew

theorem release (pipeline : Pipeline) : pipeline.Wakes pipeline.release := by
  refine ⟨pipeline.clock_release, ?_, ?_, fun _ => mem_ready_release⟩
  · exact ready_subset_wakeAll { pipeline with gate := pipeline.gate.release.2 } _
  · exact length_ready_wakeNext_le { pipeline with gate := pipeline.gate.release.2 } _

theorem exists_ready_eq {admission : Admission} {number : Nat}
    {progress : Progress Admission Verdict}
    (moved : admission.step? number false before = some (progress, after)) :
    ∃ gate woken, after.ready = ({ before with gate }.wakeNext woken).ready := by
  cases admission with
  | arriving =>
      cases arrived : before.gate.arrive number false with
      | mk verdict? gate =>
          simp only [Admission.step?, arrived] at moved
          cases verdict? with
          | some verdict =>
              cases moved
              exact ⟨gate, none, rfl⟩
          | none =>
              cases moved
              refine ⟨gate, none, ?_⟩
              rw [setAlarm_eq]
              rfl
  | waiting deadline =>
      cases resumed : before.gate.resume number false (deadline.any before.hasElapsed) with
      | mk verdict? outcome =>
          simp only [Admission.step?, resumed] at moved
          cases verdict? with
          | some verdict =>
              cases moved
              exact ⟨outcome.2, outcome.1, rfl⟩
          | none => cases moved

theorem of_admission {admission : Admission} {number : Nat}
    {progress : Progress Admission Verdict}
    (moved : admission.step? number false before = some (progress, after)) :
    before.Wakes after := by
  obtain ⟨gate, woken, ready⟩ := exists_ready_eq moved
  refine ⟨Admission.clock_of_step? moved, ?_, ?_, ?_⟩
  · rw [ready]
    exact ready_subset_wakeAll { before with gate } _
  · rw [ready]
    exact length_ready_wakeNext_le { before with gate } _
  · intro other given isNew
    obtain waiting | verdict := progress
    · rw [(Admission.of_step?_going moved).2.2] at given
      exact absurd given isNew
    · exact Admission.mem_ready_of_step?_over moved given isNew

end Pipeline.Wakes

def Occupation.alarm? : Occupation → Option Alarm
  | .seeking _ => none
  | .running request => request.alarm?

namespace Occupation.Act

variable {source before after : Pipeline} {number : Nat} {occupation : Occupation}
  {next? : Option Occupation} {counted? : Option (String × Result)}

/-! ## What stays as it was -/

/-- An act changes nothing of what a pipeline works with. -/
theorem frame (act : Act source number before occupation next? counted? after) :
    after = { before with
      gate := after.gate, inbox := after.inbox, alarms := after.alarms, ready := after.ready,
      calls := after.calls } := by
  cases act with
  | wait moved => rw [Admission.step?_frame moved]
  | enter moved => rw [Admission.step?_frame moved]
  | timeOut isLate moved => rw [Admission.step?_frame moved]
  | notFound missing => rw [Pipeline.release_eq]
  | complete alerts_eq found =>
      rw [Pipeline.release_eq]
      rfl
  | _ => rfl

theorem isClosed_queue (act : Act source number before occupation next? counted? after) :
    after.inbox.queue.isClosed = before.inbox.queue.isClosed := by
  cases act with
  | take first isClosed => exact isClosed
  | wait moved => rw [Admission.step?_frame moved]
  | enter moved => rw [Admission.step?_frame moved]
  | timeOut isLate moved => rw [Admission.step?_frame moved]
  | notFound missing => rw [Pipeline.release_eq]
  | complete alerts_eq found =>
      rw [Pipeline.release_eq]
      rfl
  | _ => rfl

theorem isClosed_gate (act : Act source number before occupation next? counted? after) :
    after.gate.isClosed = before.gate.isClosed := by
  cases act with
  | wait moved =>
      rw [(Admission.of_step?_going moved).2.2]
  | enter moved =>
      obtain ⟨_, _, taken⟩ | ⟨_, _, accepted⟩ := Admission.of_step?_admitted moved
      · rw [taken]
      · rw [accepted]
  | timeOut isLate moved =>
      obtain ⟨impossible, _⟩ | ⟨_, withdrawn⟩ := Admission.of_step?_refused moved
      · cases impossible
      · rw [withdrawn]
        exact (Gate.Hands.withdraw before.gate number).isClosed
  | notFound missing =>
      rw [Pipeline.gate_release]
      exact (Gate.Hands.giveSlot _).isClosed
  | complete alerts_eq found =>
      rw [Pipeline.gate_release]
      exact (Gate.Hands.giveSlot _).isClosed
  | _ => rfl

theorem serves (act : Act source number before occupation next? counted? after)
    (serves : source.Serves before) : source.Serves after := by
  refine ⟨serves.prompt, ?_, act.isClosed_queue.trans serves.isClosed,
    act.isClosed_gate.trans serves.isOpen⟩
  rw [act.frame, serves.frame]

theorem wakes (act : Act source number before occupation next? counted? after) :
    before.Wakes after := by
  cases act with
  | wait moved => exact .of_admission moved
  | enter moved => exact .of_admission moved
  | timeOut isLate moved => exact .of_admission moved
  | notFound missing => exact .release before
  | @complete id deployment alerts alerts_eq found =>
      have woken := Pipeline.Wakes.release (before.note (.riskEnded number deployment alerts))
      exact ⟨woken.clock, woken.kept, woken.few, woken.newly⟩
  | _ => exact .of_same rfl rfl rfl

theorem stands {next : Occupation}
    (act : Act source number before occupation (some next) counted? after)
    (stands : occupation.Stands source number) : next.Stands source number := by
  cases act with
  | listen => exact .listening _
  | take first isClosed => exact .running (.queued _)
  | wait moved => exact .running (.queued _)
  | enter moved => exact .running .admitted
  | timeOut isLate moved => exact .starting
  | fetch => exact .running .fetching
  | find found => exact .running (.evaluating found)
  | notFound missing => exact .starting
  | assess found => exact .running (.assessing found)
  | complete alerts_eq found => exact .starting

/-! ## The gate -/

theorem settled (act : Act source number before occupation next? counted? after)
    (settled : before.gate.Settled) : after.gate.Settled := by
  cases act with
  | wait moved =>
      obtain ⟨isOpen, isFull, _⟩ := Admission.full_of_step? moved
      rw [(Admission.of_step?_going moved).2.2]
      exact (Gate.Change.join number isOpen isFull).settled settled
  | enter moved => exact (Admission.change_of_step?_over moved).settled settled
  | timeOut isLate moved => exact (Admission.change_of_step?_over moved).settled settled
  | notFound missing =>
      rw [Pipeline.gate_release]
      exact Gate.Change.release.settled settled
  | complete alerts_eq found =>
      rw [Pipeline.gate_release]
      exact Gate.Change.release.settled settled
  | _ => exact settled

/-- Who begins to wait joins the line; nobody else's place changes. -/
theorem line (act : Act source number before occupation next? counted? after)
    (once : before.gate.line.Nodup)
    (lined : number ∈ before.gate.line ↔ occupation.isWaiting = true) :
    after.gate.line.Perm (if next?.any isWaiting then number :: before.gate.line
      else before.gate.line.erase number) := by
  have stays : occupation.isWaiting = false → before.gate.line.erase number = before.gate.line := by
    intro idle
    refine List.erase_of_not_mem fun member => ?_
    cases idle.symm.trans (lined.1 member)
  cases act with
  | wait moved =>
      rw [(Admission.of_step?_going moved).2.2]
      change ((before.gate.waiters ++ [number]) ++ before.gate.granted).Perm
        (number :: (before.gate.waiters ++ before.gate.granted))
      rw [List.append_assoc]
      exact List.perm_middle
  | enter moved =>
      obtain ⟨idle, _, taken⟩ | ⟨_, given, accepted⟩ := Admission.of_step?_admitted moved
      · rw [taken]
        change before.gate.line.Perm (before.gate.line.erase number)
        rw [stays idle]
      · have apart : number ∉ before.gate.waiters := fun waits =>
          (List.nodup_append.1 once).2.2 number waits number given rfl
        rw [accepted]
        change (before.gate.waiters ++ before.gate.granted.erase number).Perm
          ((before.gate.waiters ++ before.gate.granted).erase number)
        rw [List.erase_append_right _ apart]
  | timeOut isLate moved =>
      obtain ⟨impossible, _⟩ | ⟨_, withdrawn⟩ := Admission.of_step?_refused moved
      · cases impossible
      · rw [withdrawn]
        exact Gate.line_withdraw before.gate number once
  | notFound missing =>
      rw [Pipeline.gate_release]
      change before.gate.release.2.line.Perm (before.gate.line.erase number)
      rw [stays rfl]
      exact Gate.line_giveSlot { before.gate with holding := before.gate.holding - 1 }
  | complete alerts_eq found =>
      rw [Pipeline.gate_release]
      change before.gate.release.2.line.Perm (before.gate.line.erase number)
      rw [stays rfl]
      exact Gate.line_giveSlot { before.gate with holding := before.gate.holding - 1 }
  | _ =>
      change before.gate.line.Perm (before.gate.line.erase number)
      rw [stays rfl]

theorem once (act : Act source number before occupation next? counted? after)
    (once : before.gate.line.Nodup)
    (lined : number ∈ before.gate.line ↔ occupation.isWaiting = true) :
    after.gate.line.Nodup := by
  rw [(act.line once lined).nodup_iff]
  split
  · rename_i joins
    refine List.nodup_cons.2 ⟨fun member => ?_, once⟩
    have waits := lined.1 member
    cases act with
    | wait moved => cases waits
    | _ => cases joins
  · exact once.erase number

theorem mem_line_iff (act : Act source number before occupation next? counted? after)
    (once : before.gate.line.Nodup)
    (lined : number ∈ before.gate.line ↔ occupation.isWaiting = true) (other : Nat) :
    other ∈ after.gate.line ↔
      if other = number then next?.any isWaiting = true else other ∈ before.gate.line := by
  rw [(act.line once lined).mem_iff]
  by_cases same : other = number
  · subst same
    rw [if_pos rfl]
    by_cases joins : next?.any isWaiting = true
    · rw [if_pos joins]
      exact iff_of_true List.mem_cons_self joins
    · rw [if_neg joins]
      exact iff_of_false once.not_mem_erase joins
  · rw [if_neg same]
    split
    · rw [List.mem_cons, or_iff_right same]
    · exact List.mem_erase_of_ne same

theorem timeouts_eq (act : Act source number before occupation next? counted? after) :
    after.gate.timeouts = before.gate.timeouts ∨
      before.gate.timeouts < after.gate.timeouts ∧
        ∃ alarm, occupation.alarm? = some alarm ∧ alarm.due ≤ before.clock := by
  have given : before.gate.release.2.timeouts = before.gate.timeouts :=
    congrArg Tally.timeouts (Gate.tally_giveSlot { before.gate with
      holding := before.gate.holding - 1 })
  cases act with
  | wait moved =>
      rw [(Admission.of_step?_going moved).2.2]
      exact .inl rfl
  | enter moved =>
      obtain ⟨_, _, taken⟩ | ⟨_, _, accepted⟩ := Admission.of_step?_admitted moved
      · rw [taken]
        exact .inl rfl
      · rw [accepted]
        exact .inl rfl
  | @timeOut id alarm waited after isLate moved =>
      obtain ⟨impossible, _⟩ | ⟨_, withdrawn⟩ := Admission.of_step?_refused moved
      · cases impossible
      · rw [withdrawn]
        have same : (before.gate.withdraw number).2.timeouts = before.gate.timeouts :=
          congrArg Tally.timeouts (Gate.tally_withdraw before.gate number)
        exact .inr ⟨same ▸ Nat.lt_succ_self _, alarm, rfl, isLate⟩
  | notFound missing =>
      rw [Pipeline.gate_release]
      exact .inl given
  | complete alerts_eq found =>
      rw [Pipeline.gate_release]
      exact .inl given
  | _ => exact .inl rfl

theorem timeouts_le (act : Act source number before occupation next? counted? after) :
    before.gate.timeouts ≤ after.gate.timeouts := by
  obtain same | ⟨more, _⟩ := act.timeouts_eq
  · exact Nat.le_of_eq same.symm
  · exact Nat.le_of_lt more

/-! ## What is counted -/

/-- The risk manager is told of an ID just if it is counted as completed. -/
theorem told_eq (act : Act source number before occupation next? counted? after) :
    after.told = before.told ++ (counted?.bind source.outcome?).toList := by
  have quiet : after.told = before.told → after.told = before.told ++ [] :=
    fun same => same.trans (List.append_nil _).symm
  cases act with
  | wait moved => exact quiet (Pipeline.told_of_calls (by rw [Admission.step?_frame moved]))
  | enter moved => exact quiet (Pipeline.told_of_calls (by rw [Admission.step?_frame moved]))
  | timeOut isLate moved =>
      exact quiet (Pipeline.told_of_calls (by rw [Admission.step?_frame moved]))
  | notFound missing => exact quiet (Pipeline.told_of_calls before.calls_release)
  | fetch => exact quiet (before.told_note_begun fun _ _ _ => Call.noConfusion)
  | assess found => exact quiet (before.told_note_begun fun _ _ _ => Call.noConfusion)
  | complete alerts_eq found =>
      rw [Pipeline.told_of_calls (Pipeline.calls_release _), Pipeline.told_note_ended,
        Option.bind_some, Pipeline.outcome?, Pipeline.report?, found, alerts_eq]
      rfl
  | _ => exact quiet rfl

/-- The risk manager is told of every ID that is counted and stored, unless a request has waited
too long. -/
theorem outcome?_eq {id : String} {result : Result}
    (act : Act source number before occupation next? (some (id, result)) after) :
    source.outcome? (id, result) = source.report? id ∨ 0 < after.gate.timeouts := by
  cases act with
  | timeOut isLate moved =>
      obtain ⟨impossible, _⟩ | ⟨_, withdrawn⟩ := Admission.of_step?_refused moved
      · cases impossible
      · rw [withdrawn]
        exact .inr (Nat.succ_pos _)
  | notFound missing =>
      left
      rw [Pipeline.report?, missing]
      rfl
  | complete alerts_eq found => exact .inl rfl

end Occupation.Act

/-! ## What is left to do -/

/-- The steps that a popper may still take at a queue that is closed. -/
def Popper.cost : Popper → Nat
  | .starting => 2
  | .listening _ => 1
  | _ => 0

/-- The steps that a request and the worker that runs it may still take until it is alone with
the queue. -/
def Stage.cost : Stage → Nat
  | .queued .arriving => 8
  | .queued (.waiting _) => 7
  | .admitted => 6
  | .fetching _ => 5
  | .evaluating _ => 4
  | .assessing _ _ _ => 3

/-- The steps that a worker may still take for what it does. -/
def Occupation.cost : Occupation → Nat
  | .seeking popper => popper.cost
  | .running request => request.stage.cost

namespace Occupation.Act

variable {source before after : Pipeline} {number : Nat} {occupation : Occupation}
  {next? : Option Occupation} {counted? : Option (String × Result)}

/-- Every act comes nearer to the end of the batch.  An ID in the queue stands for as many steps as
a request that has just been made. -/
theorem cost_lt (act : Act source number before occupation next? counted? after) :
    (next?.map cost).getD 0 + 8 * after.inbox.queue.order.length <
      occupation.cost + 8 * before.inbox.queue.order.length := by
  have sameQueue : ∀ {left : Nat}, after.inbox = before.inbox → left < occupation.cost →
      left + 8 * after.inbox.queue.order.length <
        occupation.cost + 8 * before.inbox.queue.order.length := by
    intro left same less
    rw [same]
    omega
  cases act with
  | listen => exact sameQueue rfl (Nat.lt_succ_self 1)
  | @take broadcasts id inbox first isClosed =>
      rw [first, List.length_cons]
      change 8 + 8 * inbox.queue.order.length < 1 + 8 * (inbox.queue.order.length + 1)
      omega
  | leave isEmpty => exact sameQueue rfl Nat.zero_lt_one
  | wait moved => exact sameQueue (by rw [Admission.step?_frame moved]) (Nat.lt_succ_self 7)
  | @enter id admission after moved =>
      refine sameQueue (by rw [Admission.step?_frame moved]) ?_
      cases admission with
      | arriving => exact (by decide : 6 < 8)
      | waiting deadline => exact (by decide : 6 < 7)
  | timeOut isLate moved =>
      exact sameQueue (by rw [Admission.step?_frame moved]) (by decide : 2 < 7)
  | fetch => exact sameQueue rfl (Nat.lt_succ_self 5)
  | find found => exact sameQueue rfl (Nat.lt_succ_self 4)
  | notFound missing => exact sameQueue (by rw [Pipeline.release_eq]) (by decide : 2 < 5)
  | assess found => exact sameQueue rfl (Nat.lt_succ_self 3)
  | complete alerts_eq found =>
      refine sameQueue ?_ (Nat.lt_succ_self 2)
      rw [Pipeline.release_eq]
      rfl

theorem alarm_lt {next : Occupation} {alarm : Alarm}
    (act : Act source number before occupation (some next) counted? after)
    (isSet : next.alarm? = some alarm) : before.clock < alarm.due := by
  cases act with
  | @wait id deadline after moved =>
      obtain ⟨_, _, _, _, same, due⟩ := Admission.full_of_step? moved
      cases same
      change deadline = some alarm at isSet
      rw [isSet, Option.map_some] at due
      split at due
      · cases due
      · have later := Option.some.inj due
        omega
  | _ => cases isSet

end Occupation.Act

/-! ## Who can act -/

/-- A request that stands where it may can go on, unless it waits and was given no slot. -/
theorem Request.exists_step? {source before : Pipeline} {number : Nat} {id : String} {stage : Stage}
    (serves : source.Serves before) (stands : stage.Stands source id)
    (served : (Occupation.running ⟨number, id, stage⟩).isWaiting = true →
      number ∈ before.gate.granted) :
    ∃ outcome, (Request.mk number id stage).step? false before = some outcome := by
  cases stands with
  | queued admission =>
      have looks : ∃ outcome, admission.step? number false before = some outcome := by
        cases admission with
        | arriving =>
            rcases Nat.eq_zero_or_pos before.gate.free with isFull | isFree
            · obtain ⟨_, _, moved, _⟩ := Admission.step?_of_full serves.isOpen isFull number
              exact ⟨_, moved⟩
            · have hasSlot : Admission.arriving.HasSlot number before.gate := isFree
              obtain ⟨_, moved⟩ := Admission.step?_of_slot serves.isOpen hasSlot
              exact ⟨_, moved⟩
        | waiting deadline =>
            have hasSlot : (Admission.waiting deadline).HasSlot number before.gate := served rfl
            obtain ⟨_, moved⟩ := Admission.step?_of_slot serves.isOpen hasSlot
            exact ⟨_, moved⟩
      obtain ⟨⟨progress, changed⟩, moved⟩ := looks
      rw [step?_of_queued rfl, moved]
      obtain waiting | _ | error := progress <;> exact ⟨_, rfl⟩
  | admitted => exact ⟨_, rfl⟩
  | fetching =>
      rw [step?_of_fetching rfl, endFetch_eq]
      obtain _ | _ | _ | deployment := before.fetchAnswer? id <;> exact ⟨_, rfl⟩
  | evaluating found => exact ⟨_, rfl⟩
  | assessing found =>
      rw [step?_of_assessing rfl, endRisk_eq]
      obtain _ | _ | _ := before.riskAnswer? _ <;> exact ⟨_, rfl⟩

theorem Worker.exists_step? {source before : Pipeline} {worker : Worker} {number : Nat}
    (serves : source.Serves before) (isTask : worker.task = number)
    (stands : worker.occupation.Stands source number)
    (served : worker.occupation.isWaiting = true → number ∈ before.gate.granted) :
    ∃ outcome, worker.step? false before = some outcome := by
  obtain ⟨task, occupation, summary⟩ := worker
  change task = number at isTask
  change occupation.Stands source number at stands
  subst isTask
  cases stands with
  | starting => exact ⟨_, rfl⟩
  | listening broadcasts =>
      unfold step?
      dsimp only
      rw [if_neg Bool.false_ne_true, Popper.step?_listening (.inr serves.isClosed)]
      cases before.inbox.queue.order.head? <;> exact ⟨_, rfl⟩
  | running stands =>
      obtain ⟨⟨progress, changed⟩, moved⟩ := Request.exists_step? serves stands served
      unfold step?
      dsimp only
      rw [moved]
      obtain next | result | _ := progress <;> exact ⟨_, rfl⟩

end PolicyWatch.Reprocess

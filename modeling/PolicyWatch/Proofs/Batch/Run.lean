import PolicyWatch.Proofs.Batch.Completion

/-!
# The run of a batch

The one run in which tasks that were woken take their turns, first come, first served, and time
stands still.  Main statement: it ends with the pool done, and no request has waited too long.
-/

namespace PolicyWatch.Reprocess

/-- A procedure whose every step keeps an invariant and makes a measure smaller ends before its
fuel does. -/
theorem settle_of_less {σ : Type} {step? : σ → Option σ} {Invariant : σ → Prop} {measure : σ → Nat}
    (stepped : ∀ state next, Invariant state → step? state = some next →
      Invariant next ∧ measure next < measure state) (fuel : Nat) {state : σ}
    (holds : Invariant state) (enough : measure state < fuel) :
    Invariant (settle step? fuel state) ∧ step? (settle step? fuel state) = none := by
  induction fuel generalizing state with
  | zero => cases enough
  | succ fuel ih =>
      unfold settle
      split
      · rename_i ends
        exact ⟨holds, ends⟩
      · rename_i next moved
        obtain ⟨holds, less⟩ := stepped state next holds moved
        exact ih holds (by omega)

theorem Worker.alarm?_eq (worker : Worker) : worker.alarm? = worker.occupation.alarm? := by
  unfold Worker.alarm? Occupation.alarm?
  cases worker.occupation <;> rfl

namespace Schedule

variable {source : Pipeline} {schedule next : Schedule} {number : Nat}

/-! ## Who is awake -/

/-- Whoever has something to do after another task has gone on had it before, or was woken. -/
theorem IsAwake.of_set {place : Nat} {task : Task} {changed : Pipeline}
    {results : List (String × TaskResult)} (wakes : schedule.pipeline.Wakes changed)
    (awake : IsAwake { schedule with
      pipeline := changed, tasks := schedule.tasks.set place task, results } number)
    (isOther : number ≠ place) : schedule.IsAwake number ∨ number ∈ changed.ready := by
  obtain ⟨other, here, can⟩ := awake
  dsimp only at here can
  rw [List.getElem?_set_ne isOther.symm] at here
  by_cases isNew : number ∈ changed.gate.granted ∧ number ∉ schedule.pipeline.gate.granted
  · exact .inr (wakes.newly number isNew.1 isNew.2)
  · refine .inl ⟨other, here, can.mono fun given => ?_⟩
    by_contra notYet
    exact isNew ⟨given, notYet⟩

/-- Waiting for workers gives nobody anything to do. -/
theorem IsAwake.of_joinWorker {ending : WorkerEnd}
    (awake : (schedule.joinWorker 0 ending).IsAwake number) :
    schedule.IsAwake number := by
  rcases schedule.joinWorker_cases ending with same |
    ⟨task, count, total, activity, results, first, _, next, same⟩
  · rw [same] at awake
    exact awake
  · rw [same] at awake
    obtain ⟨other, here, can⟩ := awake
    dsimp only at here can
    rcases getElem?_set_cases here with ⟨_, rfl⟩ | ⟨_, known⟩
    · rcases next with rfl | ⟨_, _, rfl⟩ <;> exact can.elim
    · exact ⟨other, known, can⟩

/-- Whoever has something to do after the turn of another had it before, or was woken. -/
theorem Turn.isAwake (turn : Turn source schedule number next) {other : Nat}
    (awake : next.IsAwake other) (isOther : other ≠ number) :
    schedule.IsAwake other ∨ other ∈ next.pipeline.ready := by
  cases turn with
  | @spawnWorkers tag signal workers here =>
      obtain ⟨task, found, can⟩ := awake
      rcases getElem?_spawnWorkers found with known | ⟨isNew, _⟩
      · rw [List.getElem?_set_ne isOther.symm] at known
        refine .inl ⟨task, known, can.mono fun given => ?_⟩
        have sameGate :
            (schedule.spawnWorkers 0 ⟨tag, signal, .opening workers⟩ workers).pipeline.gate =
            schedule.pipeline.gate := Pipeline.gate_wakeAll _ _
        rw [← sameGate]
        exact given
      · exact .inr (Pipeline.mem_ready_wakeAll _ isNew)
  | act here isLater sameTask act => exact awake.of_set act.wakes isOther
  | leave here isLater act =>
      rw [pipeline_joinWorker]
      exact awake.of_joinWorker.of_set act.wakes isOther

/-- Nobody stops being ready during a turn. -/
theorem Turn.ready_subset (turn : Turn source schedule number next) :
    schedule.pipeline.ready ⊆ next.pipeline.ready := by
  cases turn with
  | spawnWorkers here => exact Pipeline.ready_subset_wakeAll _ _
  | act here isLater sameTask act => exact act.wakes.kept
  | leave here isLater act =>
      rw [pipeline_joinWorker]
      exact act.wakes.kept

/-! ## Who is late -/

/-- Whether every alarm that is set goes off later. -/
def IsPunctual (schedule : Schedule) : Prop :=
  ∀ (number : Nat) (task : Task) (alarm : Alarm), schedule.tasks[number]? = some task →
    task.activity.alarm? = some alarm → schedule.pipeline.clock < alarm.due

theorem IsPunctual.of_set (punctual : schedule.IsPunctual) {place : Nat} {task : Task}
    {changed : Pipeline} {results : List (String × TaskResult)}
    (sameClock : changed.clock = schedule.pipeline.clock)
    (later : ∀ alarm, task.activity.alarm? = some alarm → schedule.pipeline.clock < alarm.due) :
    IsPunctual { schedule with
      pipeline := changed, tasks := schedule.tasks.set place task, results } := by
  intro number other alarm here isSet
  change changed.clock < alarm.due
  rw [sameClock]
  rcases getElem?_set_cases here with ⟨_, rfl⟩ | ⟨_, known⟩
  · exact later alarm isSet
  · exact punctual number other alarm known isSet

theorem IsPunctual.joinWorker (punctual : schedule.IsPunctual) (ending : WorkerEnd) :
    (schedule.joinWorker 0 ending).IsPunctual := by
  rcases schedule.joinWorker_cases ending with same |
    ⟨task, _, _, activity, results, here, _, next, same⟩
  · rw [same]
    exact punctual
  · rw [same]
    refine punctual.of_set rfl fun alarm isSet => ?_
    rcases next with rfl | ⟨_, _, rfl⟩ <;> cases isSet

theorem Turn.isPunctual (turn : Turn source schedule number next)
    (punctual : schedule.IsPunctual) : next.IsPunctual := by
  cases turn with
  | @spawnWorkers tag signal workers here =>
      intro other task alarm found isSet
      have sameClock :
          (schedule.spawnWorkers 0 ⟨tag, signal, .opening workers⟩ workers).pipeline.clock =
          schedule.pipeline.clock := Pipeline.clock_wakeAll _ _
      rw [sameClock]
      rcases getElem?_spawnWorkers found with isOld | ⟨_, rfl⟩
      · rcases getElem?_set_cases isOld with ⟨_, rfl⟩ | ⟨_, known⟩
        · cases isSet
        · exact punctual other task alarm known isSet
      · cases isSet
  | @act _ tag signal worker later changed here isLater sameTask act =>
      exact punctual.of_set act.wakes.clock fun alarm isSet =>
        act.alarm_lt (later.alarm?_eq.symm.trans isSet)
  | leave here isLater act =>
      refine (punctual.of_set act.wakes.clock fun alarm isSet => ?_).joinWorker _
      cases isSet

/-- Nobody is timed out while all alarms go off later. -/
theorem Turn.timeouts_eq (turn : Turn source schedule number next)
    (punctual : schedule.IsPunctual) :
    next.pipeline.gate.timeouts = schedule.pipeline.gate.timeouts := by
  cases turn with
  | spawnWorkers here => exact congrArg Gate.timeouts (Pipeline.gate_wakeAll _ _)
  | act here isLater sameTask act =>
      rcases act.timeouts_eq with same | ⟨_, alarm, isSet, elapsed⟩
      · exact same
      · have later := punctual _ _ alarm here ((Worker.alarm?_eq _).trans isSet)
        exact absurd later (Nat.not_lt_of_le elapsed)
  | leave here isLater act =>
      obtain ⟨_, rfl, _⟩ := act.of_leave
      rw [pipeline_joinWorker]
      rfl

/-! ## The run -/

/-- What is the case throughout the run of a batch: whoever has something to do is awake, and
nobody is late. -/
structure RunInvariant (start schedule : Schedule) : Prop where
  led : ∃ turns, Runs start turns schedule
  alert : ∀ number, schedule.IsAwake number → number ∈ schedule.pipeline.ready
  punctual : schedule.IsPunctual
  noTimeouts : schedule.pipeline.gate.timeouts = 0

/-- A bound on the turns that may still be taken, with those after which tasks wait: a turn wakes no
more tasks than it takes off what is left to do. -/
def turnBound (schedule : Schedule) : Nat :=
  2 * schedule.remaining + schedule.pipeline.ready.length

variable {workers maxConcurrency waitLimit : Nat} {tag signal : String}

/-- A turn of the task that has been awake longest keeps all that, and leaves fewer turns. -/
theorem RunInvariant.turn (isBatch : source.IsBatch maxConcurrency waitLimit)
    (runInvariant : RunInvariant (source.atOpening tag signal workers) schedule)
    (moved : schedule.turn? = some next) :
    RunInvariant (source.atOpening tag signal workers) next ∧
      next.turnBound < schedule.turnBound := by
  obtain ⟨turns, led⟩ := runInvariant.led
  obtain ⟨pool, rfl, account⟩ := led.exists_account isBatch
  have invariant := account.invariant
  unfold turn? at moved
  split at moved
  · cases moved
  · rename_i first rest awake
    split at moved
    · rename_i changed stepped
      cases moved
      have turn := invariant.turn stepped
      have kept := turn.ready_subset
      obtain ⟨woken, few, spent, less⟩ := turn.spends
      refine ⟨⟨⟨_, led.turn stepped⟩, fun number isAwake => ?_,
        turn.isPunctual runInvariant.punctual,
        (turn.timeouts_eq runInvariant.punctual).trans runInvariant.noTimeouts⟩, ?_⟩
      · by_cases same : number = first
        · rw [same]
          exact kept (awake ▸ List.mem_cons_self)
        · exact (turn.isAwake isAwake same).elim
            (fun was => kept (runInvariant.alert number was)) id
      · unfold turnBound
        omega
    · rename_i stuck
      cases moved
      refine ⟨⟨⟨_, led.wake rest⟩, fun number isAwake => ?_, runInvariant.punctual,
        runInvariant.noTimeouts⟩, ?_⟩
      -- A task that waits cannot take a turn, so it is nobody who has something to do.
      · have isReady : number ∈ first :: rest := awake ▸ runInvariant.alert number isAwake
        refine (List.mem_cons.1 isReady).resolve_left fun same => ?_
        obtain ⟨next, stepped⟩ := invariant.exists_step? isAwake
        rw [same] at stepped
        cases stuck.symm.trans stepped
      · unfold turnBound
        rw [awake]
        exact Nat.lt_succ_self _

theorem RunInvariant.start (isBatch : source.IsBatch maxConcurrency waitLimit) :
    RunInvariant (source.atOpening tag signal workers) (source.atOpening tag signal workers) := by
  refine ⟨⟨0, .begin⟩, ?_, ?_, ?_⟩
  · rintro number ⟨task, here, _⟩
    cases number with
    | zero => exact source.mem_ready_wake 0
    | succ number => cases here
  · intro number task alarm here isSet
    cases number with
    | zero =>
        cases here
        cases isSet
    | succ number => cases here
  · exact (congrArg Gate.timeouts (source.gate_wakeAll [0])).trans
      (congrArg Gate.timeouts (Gate.eq_of_build? isBatch.built))

/-- There is patience enough for a batch while nobody else is awake. -/
theorem turnBound_lt (rested : source.ready = []) :
    (source.atOpening tag signal workers).turnBound <
      (source.atOpening tag signal workers).turns := by
  have few := source.length_ready_wakeAll_le [0]
  rw [rested] at few
  have promised : (source.atOpening tag signal workers).promisedByAll =
      0 + workersFor workers := rfl
  have size : (source.atOpening tag signal workers).pipeline.inbox.queue.size =
      source.inbox.queue.order.length :=
    congrArg (fun inbox => inbox.queue.order.length) (source.inbox_wakeAll [0])
  have one : (source.atOpening tag signal workers).tasks.length = 1 := rfl
  unfold turnBound turns
  rw [remaining_atOpening, promised, size, one]
  change _ + (source.wakeAll [0]).ready.length < _
  change (source.wakeAll [0]).ready.length ≤ 0 + 1 at few
  omega

theorem ready_of_turn?_none (ends : schedule.turn? = none) : schedule.pipeline.ready = [] := by
  unfold turn? at ends
  split at ends
  · assumption
  · split at ends <;> cases ends

theorem run_atOpening (isBatch : source.IsBatch maxConcurrency waitLimit)
    (rested : source.ready = []) :
    RunInvariant (source.atOpening tag signal workers) (source.atOpening tag signal workers).run ∧
      (source.atOpening tag signal workers).run.HasEnded := by
  obtain ⟨runInvariant, ends⟩ := settle_of_less (fun _ _ => RunInvariant.turn isBatch) _
    (RunInvariant.start isBatch) (turnBound_lt rested)
  refine ⟨runInvariant, ?_⟩
  obtain ⟨turns, led⟩ := runInvariant.led
  refine led.hasEnded_of_idle isBatch fun number isAwake => ?_
  have isReady := runInvariant.alert number isAwake
  rw [ready_of_turn?_none ends] at isReady
  cases isReady

end Schedule

end PolicyWatch.Reprocess

import PolicyWatch.Proofs.Pool.Others

/-!
# Turns as bookings

What a turn of a task writes into the books of a pool.  Main statements: the forms of a
turn of a task of others and of a worker.
-/

namespace PolicyWatch.Reprocess

namespace Pool

variable {pool : Pool} {next : Schedule} {number : Nat} {task : Task} {activity : Activity}

theorem Booking.of_turned {took? : Option String} {counted? : Option (String × Result)}
    (here : pool.schedule.tasks[number]? = some task)
    (tasks : next.tasks = pool.schedule.tasks.set number { task with activity })
    (takes : pool.schedule.takes number = took?.toList.map (number, ·))
    (counts : pool.schedule.counts number = counted?.toList.map (number, ·))
    (spends : pool.schedule.pipeline.Spends (task.activity.slots + pool.schedule.held.length)
      next.pipeline (activity.slots + next.held.length) took?)
    (current : task.activity.current ++ took?.toList =
      counted?.toList.map Prod.fst ++ activity.current)
    (summary : ∀ worker, activity.worker? = some worker → ∃ before,
      task.activity.worker? = some before ∧
        worker.summary = (counted?.toList.map Prod.snd).foldl PoolSummary.record before.summary)
    (idle : task.activity.workers = 0 → counted? = none)
    (isMember : number ≠ 0 → IsMember pool.signal { task with activity }) :
    Booking number task activity took? counted? pool (pool.turned number next) := by
  refine ⟨here, tasks, rfl, rfl, ?_, ?_, spends, current, summary, idle, isMember,
    observed_become pool next, kept_become pool next⟩
  · exact congrArg (pool.taken ++ ·) takes
  · exact congrArg (pool.counted ++ ·) counts

/-! ## Tasks of others -/

theorem takes_of_no_worker (here : pool.schedule.tasks[number]? = some task)
    (isNone : task.activity.worker? = none) :
    pool.schedule.takes number = [] ∧ pool.schedule.counts number = [] := by
  unfold Schedule.takes Schedule.counts
  rw [here]
  obtain ⟨tag, signal, activity⟩ := task
  cases activity with
  | working pool worker => cases isNone
  | _ => exact ⟨rfl, rfl⟩

theorem Booking.of_other (here : pool.schedule.tasks[number]? = some task)
    (tasks : next.tasks = pool.schedule.tasks.set number { task with activity })
    (wasNone : task.activity.worker? = none) (isNone : activity.worker? = none)
    (spends : pool.schedule.pipeline.Spends (task.activity.slots + pool.schedule.held.length)
      next.pipeline (activity.slots + next.held.length) none)
    (isMember : number ≠ 0 → IsMember pool.signal { task with activity }) :
    Booking number task activity none none pool (pool.turned number next) := by
  obtain ⟨takes, counts⟩ := takes_of_no_worker here wasNone
  refine .of_turned here tasks takes counts spends ?_ ?_ (fun _ => rfl) isMember
  · rw [Activity.current_of_worker? wasNone, Activity.current_of_worker? isNone]
    rfl
  · intro worker is
    cases isNone.symm.trans is

structure OtherTurn (number : Nat) (task : Task) (activity : Activity) (pool : Pool)
    (next : Schedule) : Prop where
  booking : Booking number task activity none none pool (pool.turned number next)
  noWorker : activity.workers = 0
  reports : ∀ tag summary, (tag, .supervised summary) ∈ next.results →
    (tag, .supervised summary) ∈ pool.schedule.results

theorem reports_of_cons {tag other : String} {result : TaskResult} {summary : PoolSummary}
    {results : List (String × TaskResult)} (noSummary : ∀ summary, result ≠ .supervised summary)
    (listed : (other, .supervised summary) ∈ (tag, result) :: results) :
    (other, .supervised summary) ∈ results := by
  rcases List.mem_cons.1 listed with same | known
  · exact absurd (congrArg Prod.snd same).symm (noSummary summary)
  · exact known

theorem spends_of_hold {before : Pipeline} {schedule : Schedule} {slots : Nat} (tag : String)
    (spends : before.Spends slots schedule.pipeline (schedule.held.length + 1) none) :
    before.Spends slots (schedule.hold tag).pipeline (schedule.hold tag).held.length none ∧
      (schedule.hold tag).tasks = schedule.tasks ∧
      (schedule.hold tag).results = schedule.results := by
  unfold Schedule.hold
  split
  · exact ⟨spends.release, rfl, rfl⟩
  · exact ⟨spends, rfl, rfl⟩

section Others

variable {tag signal : String}

theorem spends_of_endAcquiring (schedule : Schedule) (number : Nat) (task : Task)
    {before : Pipeline} {slots : Nat} {verdict : Verdict}
    (spends : before.Spends slots schedule.pipeline
      ((if verdict = .admitted then 1 else 0) + schedule.held.length) none) :
    before.Spends slots (schedule.endAcquiring number task verdict).pipeline
        (schedule.endAcquiring number task verdict).held.length none ∧
      (schedule.endAcquiring number task verdict).tasks =
        schedule.tasks.set number { task with activity := .done } ∧
      (schedule.endAcquiring number task verdict).results =
        (task.tag, .acquired verdict) :: schedule.results := by
  cases verdict with
  | refused error =>
      have outside : Verdict.refused error ≠ .admitted := Verdict.noConfusion
      rw [if_neg outside, Nat.zero_add] at spends
      exact ⟨spends, rfl, rfl⟩
  | admitted =>
      rw [if_pos rfl, Nat.add_comm] at spends
      obtain ⟨held, tasks, results⟩ := spends_of_hold task.tag spends
      refine ⟨held, ?_, ?_⟩
      · exact congrArg (List.set · number { task with activity := .done }) tasks
      · exact congrArg ((task.tag, .acquired .admitted) :: ·) results

theorem otherTurn_of_acquiring {admission : Admission}
    (here : pool.schedule.tasks[number]? = some ⟨tag, signal, .acquiring admission⟩)
    (moved : pool.schedule.step? number = some next) :
    ∃ activity, OtherTurn number ⟨tag, signal, .acquiring admission⟩ activity pool next := by
  unfold Schedule.step? at moved
  rw [here] at moved
  dsimp only at moved
  split at moved
  · cases moved
  · rename_i waiting changed stepped
    cases moved
    have spends := (Pipeline.Spends.of_admission stepped).add pool.schedule.held.length
    exact ⟨_, .of_other here rfl rfl rfl spends fun _ => trivial, rfl, fun _ _ known => known⟩
  · rename_i verdict changed stepped
    cases moved
    have spends := (Pipeline.Spends.of_admission stepped).add pool.schedule.held.length
    simp only [Progress.over.injEq] at spends
    obtain ⟨cost, tasks, results⟩ := spends_of_endAcquiring
      { pool.schedule with pipeline := changed } number ⟨tag, signal, .acquiring admission⟩ spends
    refine ⟨.done, .of_other here tasks rfl rfl ?_ fun _ => trivial, rfl, ?_⟩
    · change Pipeline.Spends _ _ _ (0 + _) none
      rw [Nat.zero_add]
      exact cost
    · intro other summary listed
      rw [results] at listed
      exact reports_of_cons (fun _ => TaskResult.noConfusion) listed

theorem otherTurn_of_reprocessing {request : Request}
    (here : pool.schedule.tasks[number]? = some ⟨tag, signal, .reprocessing request⟩)
    (moved : pool.schedule.step? number = some next) :
    ∃ activity, OtherTurn number ⟨tag, signal, .reprocessing request⟩ activity pool next := by
  unfold Schedule.step? at moved
  rw [here] at moved
  dsimp only at moved
  split at moved
  · cases moved
  · rename_i later changed stepped
    cases moved
    have spends := (Pipeline.Spends.of_request stepped).add pool.schedule.held.length
    exact ⟨_, .of_other here rfl rfl rfl spends fun _ => trivial, rfl, fun _ _ known => known⟩
  · rename_i ending changed stepped
    cases moved
    have spends := (Pipeline.Spends.of_request stepped).add pool.schedule.held.length
    exact ⟨.done, .of_other here rfl rfl rfl spends fun _ => trivial, rfl, fun _ _ =>
      reports_of_cons fun _ => TaskResult.noConfusion⟩

end Others

/-! ## Workers -/

/-- What a turn of a worker is: it goes on, or it leaves the pool because it is cancelled or the
queue is closed and drained. -/
inductive WorkerTurn (number : Nat) (tag signal : String) (worker : Worker) (pool : Pool)
    (next : Schedule) : Prop where
  | going {later : Worker} {took? : Option String} {counted? : Option (String × Result)}
      (booking : Booking number ⟨tag, signal, .working 0 worker⟩ (.working 0 later) took? counted?
        pool (pool.turned number next))
      (results : next.results = pool.schedule.results)
  | joined {idle : Schedule}
      (booking : Booking number ⟨tag, signal, .working 0 worker⟩ .done none none
        pool (pool.turned number idle))
      (results : idle.results = pool.schedule.results)
      (left : next = idle.joinWorker 0 (some worker.summary))
      (reason : pool.schedule.isCancelled signal = true ∨
        pool.queue.isClosed = true ∧ pool.queue.order = [])

theorem workerTurn_of_step? {tag signal : String} {worker : Worker}
    (stays : pool.schedule.crashes number = []) (isMember : signal = pool.signal)
    (here : pool.schedule.tasks[number]? = some ⟨tag, signal, .working 0 worker⟩)
    (moved : pool.schedule.step? number = some next) :
    WorkerTurn number tag signal worker pool next := by
  have takes : pool.schedule.takes number =
      (worker.takes? (pool.schedule.isCancelled signal) pool.schedule.pipeline).toList.map
        (number, ·) := by
    unfold Schedule.takes
    rw [here]
  have counts : pool.schedule.counts number =
      (worker.counts? (pool.schedule.isCancelled signal) pool.schedule.pipeline).toList.map
        (number, ·) := by
    unfold Schedule.counts
    rw [here]
  have busy : ∀ {P : Prop}, (Activity.working 0 worker).workers = 0 → P := by
    intro P impossible
    cases impossible
  unfold Schedule.step? at moved
  rw [here] at moved
  dsimp only at moved
  split at moved
  · cases moved
  · rename_i later changed stepped
    cases moved
    have transition := Worker.Transition.of_step? stepped
    refine .going (.of_turned here rfl takes counts ?_ transition.current_going ?_ busy ?_) rfl
    · exact transition.spends.add pool.schedule.held.length
    · rintro _ ⟨⟩
      exact ⟨worker, rfl, transition.summary_going⟩
    · exact fun _ => ⟨rfl, isMember⟩
  · rename_i ending changed stepped
    cases moved
    have transition := Worker.Transition.of_step? stepped
    cases ending with
    | none =>
        obtain ⟨id, _, crashes, _⟩ := transition.of_crashed
        unfold Schedule.crashes at stays
        rw [here] at stays
        dsimp only at stays
        rw [crashes] at stays
        cases stays
    | some summary =>
        obtain ⟨rfl, nothing, noTake, noCount, reason⟩ := transition.of_joined
        rw [noTake] at takes
        rw [noCount] at counts
        have spends := transition.spends
        rw [noTake] at spends
        refine @WorkerTurn.joined _ _ _ _ _ _
          ({ pool.schedule with pipeline := changed }.turnTo number
            ⟨tag, signal, .working 0 worker⟩ .done)
          (.of_turned here rfl takes counts ?_ ?_ ?_ busy fun _ => trivial) rfl rfl reason
        · exact spends.add pool.schedule.held.length
        · change worker.current?.toList ++ [] = [] ++ []
          rw [nothing]
          rfl
        · rintro _ ⟨⟩

end Pool

end PolicyWatch.Reprocess

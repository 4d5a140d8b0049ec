import PolicyWatch.Proofs.Pool.Bookings

/-!
# The task that opens a pool

Where the task stands that opened a pool, next to the books of the pool: it is about to
start the workers, waits for them with the counts of those that have left, or has
reported its summary.  Main statements: turns of other tasks and what others do leave it
where it stands, and it stays sound when it starts the workers and when one leaves.
-/

namespace PolicyWatch.Reprocess

namespace Pool

variable {workers capacity : Nat} {pool next : Pool}

/-- Whether a worker may leave the pool: its signal has read cancelled, or the queue is closed
and drained. -/
def IsDrained (pool : Pool) : Prop :=
  pool.wasCancelled = true ∨ pool.queue.isClosed = true ∧ pool.queue.order = []

/-- Whether no pool has reported its summary. -/
def IsUnreported (results : List (String × TaskResult)) : Prop :=
  ∀ tag summary, (tag, .supervised summary) ∉ results

/-- Where the task stands that opened the pool. -/
inductive Supervisor (workers : Nat) (pool : Pool) : Prop where
  | opening {tag : String}
      (first : pool.schedule.tasks[0]? = some ⟨tag, pool.signal, .opening workers⟩)
      (nobody : sumOver Activity.workers pool.schedule.tasks = 0)
      (nothing : pool.counted = [])
      (unreported : IsUnreported pool.schedule.results)
  | supervising {tag : String} {count : Nat} {total : PoolSummary}
      (first : pool.schedule.tasks[0]? = some ⟨tag, pool.signal, .supervising count total⟩)
      (present : sumOver Activity.workers pool.schedule.tasks = count)
      (positive : 0 < count)
      (few : count ≤ workersFor workers)
      (drained : count < workersFor workers → pool.IsDrained)
      (sums : ∀ bucket, PoolSummary.IsBucket bucket →
        bucket total +
            sumOver (fun activity => bucket activity.summary) pool.schedule.tasks =
          bucket (.ofResults pool.results))
      (unreported : IsUnreported pool.schedule.results)
  | done {tag : String}
      (first : pool.schedule.tasks[0]? = some ⟨tag, pool.signal, .done⟩)
      (nobody : sumOver Activity.workers pool.schedule.tasks = 0)
      (drained : pool.IsDrained)
      (reported : ∀ tag summary, (tag, .supervised summary) ∈ pool.schedule.results →
        summary = .ofResults pool.results)

/-! ## When there is no worker -/

section Nobody

variable {tasks : List Task} (nobody : sumOver Activity.workers tasks = 0)

include nobody

theorem workers_of_nobody {task : Task} (member : task ∈ tasks) : task.activity.workers = 0 :=
  Nat.le_zero.1 (nobody ▸ le_sumOver Activity.workers member)

theorem summaries_of_nobody {bucket : PoolSummary → Nat} (isBucket : PoolSummary.IsBucket bucket) :
    sumOver (fun activity => bucket activity.summary) tasks = 0 := by
  refine sumOver_eq_zero fun task member => ?_
  rw [Activity.summary_of_workers (workers_of_nobody nobody member), isBucket.empty]

end Nobody

/-! ## Turns -/

section Turns

variable {number : Nat} {task : Task} {activity : Activity} {took? : Option String}
  {counted? : Option (String × Result)}

theorem Booking.isDrained (booking : Booking number task activity took? counted? pool next)
    (drained : pool.IsDrained) : next.IsDrained := by
  rcases drained with was | ⟨isClosed, isEmpty⟩
  · exact .inl (booking.kept was)
  · have order : pool.queue.order = took?.toList ++ next.queue.order := booking.spends.order
    rw [isEmpty] at order
    exact .inr ⟨booking.spends.isClosed.trans isClosed, (List.append_eq_nil_iff.1 order.symm).2⟩

theorem Booking.bucket_eq (booking : Booking number task activity took? counted? pool next)
    (sameWorkers : activity.workers = task.activity.workers) {bucket : PoolSummary → Nat}
    (isBucket : PoolSummary.IsBucket bucket) :
    bucket activity.summary = bucket task.activity.summary +
      ((counted?.toList.map Prod.snd).map fun result =>
        bucket (PoolSummary.empty.record result)).sum := by
  cases isWorker : activity.worker? with
  | none =>
      have idle : activity.workers = 0 := by
        cases activity with
        | working pool worker => cases isWorker
        | _ => rfl
      have wasIdle : task.activity.workers = 0 := sameWorkers.symm.trans idle
      rw [Activity.summary_of_workers idle, Activity.summary_of_workers wasIdle,
        booking.idle wasIdle]
      rfl
  | some worker =>
      obtain ⟨before, was, summary⟩ := booking.summary worker isWorker
      have same : ∀ {activity : Activity} {worker : Worker}, activity.worker? = some worker →
          activity.summary = worker.summary := by
        intro activity worker is
        cases activity with
        | working pool other =>
            cases is
            rfl
        | _ => cases is
      rw [same isWorker, same was, summary, isBucket.foldl_record]

/-- The first task stands where it did when another has taken its turn. -/
theorem Supervisor.turn (supervisor : Supervisor workers pool)
    (booking : Booking number task activity took? counted? pool next) (notFirst : number ≠ 0)
    (sameWorkers : activity.workers = task.activity.workers)
    (reports : ∀ tag summary, (tag, .supervised summary) ∈ next.schedule.results →
      (tag, .supervised summary) ∈ pool.schedule.results) :
    Supervisor workers next := by
  have first : next.schedule.tasks[0]? = pool.schedule.tasks[0]? := by
    rw [booking.getElem?_tasks, if_neg notFirst]
  have present : sumOver Activity.workers next.schedule.tasks =
      sumOver Activity.workers pool.schedule.tasks := by
    have sums := booking.sumOver_eq Activity.workers
    omega
  have unreported : IsUnreported pool.schedule.results → IsUnreported next.schedule.results :=
    fun none tag summary reported => none tag summary (reports tag summary reported)
  cases supervisor with
  | opening here nobody nothing none =>
      refine .opening (booking.signal ▸ first.trans here) (present.trans nobody) ?_
        (unreported none)
      have idle := workers_of_nobody nobody (List.mem_of_getElem? booking.here)
      rw [booking.counted, nothing, booking.idle idle]
      rfl
  | supervising here count positive few drained sums none =>
      refine .supervising (booking.signal ▸ first.trans here) (present.trans count) positive few
        (fun fewer => booking.isDrained (drained fewer)) ?_ (unreported none)
      intro bucket isBucket
      have before := sums bucket isBucket
      have change := booking.sumOver_eq fun activity => bucket activity.summary
      have added := booking.bucket_eq sameWorkers isBucket
      rw [isBucket.ofResults] at before ⊢
      rw [booking.results_eq, List.map_append, List.sum_append]
      omega
  | done here nobody drained reported =>
      have idle := workers_of_nobody nobody (List.mem_of_getElem? booking.here)
      refine .done (booking.signal ▸ first.trans here) (present.trans nobody)
        (booking.isDrained drained) ?_
      intro tag summary listed
      rw [booking.results_eq, booking.idle idle, reported tag summary (reports tag summary listed)]
      exact congrArg PoolSummary.ofResults (List.append_nil _).symm

end Turns

/-! ## Steps of others -/

section Others

variable {pushed : List String} {more : List Task}

theorem Addition.isDrained (addition : Addition pushed more pool next) (drained : pool.IsDrained) :
    next.IsDrained := by
  rcases drained with was | ⟨isClosed, isEmpty⟩
  · exact .inl (addition.kept was)
  · obtain ⟨stillClosed, nothing⟩ := addition.closed isClosed
    refine .inr ⟨stillClosed, ?_⟩
    rw [addition.order, isEmpty, nothing]
    rfl

theorem Addition.first (addition : Addition pushed more pool next) {task : Task}
    (here : pool.schedule.tasks[0]? = some task) : next.schedule.tasks[0]? = some task := by
  obtain ⟨inside, _⟩ := List.getElem?_eq_some_iff.1 here
  rw [addition.tasks, List.getElem?_append_left inside, here]

/-- The first task stands where it did whatever others do. -/
theorem Supervisor.addition (supervisor : Supervisor workers pool)
    (addition : Addition pushed more pool next)
    (noWorkers : ∀ task ∈ more, task.activity.workers = 0)
    (sameResults : next.schedule.results = pool.schedule.results) : Supervisor workers next := by
  have present := addition.sumOver_eq Activity.workers noWorkers
  have results : next.results = pool.results := by
    unfold results
    rw [addition.counted]
  cases supervisor with
  | opening here nobody nothing none =>
      exact .opening (addition.signal ▸ addition.first here) (present.trans nobody)
        (addition.counted.trans nothing) (sameResults ▸ none)
  | supervising here count positive few drained sums none =>
      refine .supervising (addition.signal ▸ addition.first here) (present.trans count) positive few
        (fun fewer => addition.isDrained (drained fewer)) ?_ (sameResults ▸ none)
      intro bucket isBucket
      rw [results, addition.sumOver_eq _ fun task member => ?_]
      · exact sums bucket isBucket
      · rw [Activity.summary_of_workers (noWorkers task member), isBucket.empty]
  | done here nobody drained reported =>
      refine .done (addition.signal ▸ addition.first here) (present.trans nobody)
        (addition.isDrained drained) ?_
      rw [sameResults, results]
      exact reported

end Others

/-! ## Opening and leaving -/

theorem workersFor_pos (workers : Nat) : 0 < workersFor workers := by
  unfold workersFor
  split
  · exact Nat.zero_lt_one
  · rename_i some
    exact Nat.pos_of_ne_zero some

def moveFirst (pool : Pool) (tag : String) (activity : Activity)
    (results : List (String × TaskResult)) : Pool :=
  { pool with schedule := { pool.schedule with
      tasks := pool.schedule.tasks.set 0 ⟨tag, pool.signal, activity⟩, results } }

theorem booking_of_moveFirst {tag : String} {before : Activity}
    (ledger : Ledger capacity pool)
    (here : pool.schedule.tasks[0]? = some ⟨tag, pool.signal, before⟩) (activity : Activity)
    (wasNone : before.worker? = none) (isNone : activity.worker? = none)
    (noSlots : before.slots = activity.slots) (results : List (String × TaskResult)) :
    Booking 0 ⟨tag, pool.signal, before⟩ activity none none pool
      (pool.moveFirst tag activity results) := by
  refine ⟨here, rfl, rfl, rfl, (List.append_nil _).symm, (List.append_nil _).symm, ?_, ?_, ?_,
    fun _ => rfl, fun notFirst => absurd rfl notFirst, ledger.observed, id⟩
  · change Pipeline.Spends _ (before.slots + _) _ (activity.slots + _) none
    rw [noSlots]
    exact Pipeline.Spends.of_ready rfl _
  · rw [Activity.current_of_worker? wasNone, Activity.current_of_worker? isNone]
    rfl
  · intro worker is
    cases isNone.symm.trans is

/-- What holds of a pool at any time. -/
structure Sound (workers capacity : Nat) (pool : Pool) : Prop where
  ledger : Ledger capacity pool
  supervisor : Supervisor workers pool

section Leaving

variable {tag : String} {before : Activity} {total : PoolSummary}

theorem Sound.of_report (ledger : Ledger capacity pool)
    (here : pool.schedule.tasks[0]? = some ⟨tag, pool.signal, before⟩)
    (wasNone : before.worker? = none) (noSlots : before.slots = 0)
    (nobody : sumOver Activity.workers pool.schedule.tasks = 0) (drained : pool.IsDrained)
    (sums : ∀ bucket, PoolSummary.IsBucket bucket →
      bucket total + sumOver (fun activity => bucket activity.summary) pool.schedule.tasks =
        bucket (.ofResults pool.results))
    (unreported : IsUnreported pool.schedule.results) :
    Sound workers capacity (pool.moveFirst tag .done
      ((tag, .supervised total) :: pool.schedule.results)) := by
  have moved := booking_of_moveFirst ledger here .done wasNone rfl noSlots
    ((tag, .supervised total) :: pool.schedule.results)
  have idle : before.workers = 0 := workers_of_nobody nobody (List.mem_of_getElem? here)
  have first : (pool.moveFirst tag .done
      ((tag, .supervised total) :: pool.schedule.results)).schedule.tasks[0]? =
        some ⟨tag, pool.signal, .done⟩ := (moved.getElem?_tasks 0).trans (if_pos rfl)
  refine ⟨moved.ledger ledger, .done first ?_ (moved.isDrained drained) ?_⟩
  · have same := moved.sumOver_eq Activity.workers
    change _ + before.workers = _ + 0 at same
    omega
  · intro other summary listed
    rcases List.mem_cons.1 listed with same | known
    · cases same
      refine PoolSummary.eq_of_buckets fun bucket isBucket => ?_
      refine Eq.trans ?_ (sums bucket isBucket)
      rw [summaries_of_nobody nobody isBucket, Nat.add_zero]
    · exact absurd known (unreported other summary)

theorem Sound.of_supervising (ledger : Ledger capacity pool)
    (here : pool.schedule.tasks[0]? = some ⟨tag, pool.signal, before⟩)
    (wasNone : before.worker? = none) (noSlots : before.slots = 0) (idle : before.workers = 0)
    {count : Nat} (present : sumOver Activity.workers pool.schedule.tasks = count)
    (positive : 0 < count) (few : count ≤ workersFor workers)
    (drained : count < workersFor workers → pool.IsDrained)
    (sums : ∀ bucket, PoolSummary.IsBucket bucket →
      bucket total + sumOver (fun activity => bucket activity.summary) pool.schedule.tasks =
        bucket (.ofResults pool.results))
    (unreported : IsUnreported pool.schedule.results) :
    Sound workers capacity
      (pool.moveFirst tag (.supervising count total) pool.schedule.results) := by
  have moved := booking_of_moveFirst ledger here (.supervising count total) wasNone rfl noSlots
    pool.schedule.results
  have first : (pool.moveFirst tag (.supervising count total)
      pool.schedule.results).schedule.tasks[0]? =
        some ⟨tag, pool.signal, .supervising count total⟩ :=
    (moved.getElem?_tasks 0).trans (if_pos rfl)
  refine ⟨moved.ledger ledger, .supervising first ?_ positive few
    (fun fewer => moved.isDrained (drained fewer)) ?_ unreported⟩
  · have same := moved.sumOver_eq Activity.workers
    change _ + before.workers = _ + 0 at same
    omega
  · intro bucket isBucket
    have same := moved.sumOver_eq fun activity => bucket activity.summary
    change _ + bucket before.summary = _ + bucket .empty at same
    rw [Activity.summary_of_workers idle] at same
    refine Eq.trans ?_ (sums bucket isBucket)
    exact congrArg (bucket total + ·) (Nat.add_right_cancel same)

section Handover

variable {number count : Nat} {idle : Schedule} {summary : PoolSummary}

theorem turned_joinWorker_last (isLast : count ≤ 1)
    (first : idle.tasks[0]? = some ⟨tag, pool.signal, .supervising count total⟩) :
    pool.turned number (idle.joinWorker 0 (some summary)) =
      (pool.turned number idle).moveFirst tag .done
        ((tag, .supervised (total.merge summary)) :: idle.results) := by
  unfold Schedule.joinWorker
  rw [first]
  dsimp only
  rw [if_pos isLast]
  rfl

/-- When another leaves, the pool waits for one less. -/
theorem turned_joinWorker_others (isNotLast : ¬count ≤ 1)
    (first : idle.tasks[0]? = some ⟨tag, pool.signal, .supervising count total⟩) :
    pool.turned number (idle.joinWorker 0 (some summary)) =
      (pool.turned number idle).moveFirst tag
        (.supervising (count - 1) (total.merge summary)) idle.results := by
  unfold Schedule.joinWorker
  rw [first]
  dsimp only
  rw [if_neg isNotLast]
  rfl

end Handover

/-- A worker that leaves hands its counts over to the task that opened the pool. -/
theorem Sound.joinWorker (sound : Sound workers capacity pool) {number : Nat} {worker : Worker}
    {idle : Schedule}
    (here : pool.schedule.tasks[number]? = some ⟨tag, pool.signal, .working 0 worker⟩)
    (booking : Booking number ⟨tag, pool.signal, .working 0 worker⟩ .done none none pool
      (pool.turned number idle))
    (sameResults : idle.results = pool.schedule.results)
    (reason : pool.schedule.isCancelled pool.signal = true ∨
      pool.queue.isClosed = true ∧ pool.queue.order = []) :
    Sound workers capacity (pool.turned number (idle.joinWorker 0 (some worker.summary))) := by
  have ledger := booking.ledger sound.ledger
  have drained : (pool.turned number idle).IsDrained :=
    booking.isDrained (reason.imp_left sound.ledger.observed)
  have left : sumOver Activity.workers idle.tasks + 1 =
      sumOver Activity.workers pool.schedule.tasks := booking.sumOver_eq Activity.workers
  cases sound.supervisor with
  | opening _ nobody => omega
  | done _ nobody => omega
  | @supervising supervisorTag count total first present positive few _ sums unreported =>
      have notFirst : number ≠ 0 := by
        rintro rfl
        cases here.symm.trans first
      have supervises : idle.tasks[0]? =
          some ⟨supervisorTag, pool.signal, .supervising count total⟩ := by
        refine (booking.getElem?_tasks 0).trans ?_
        rw [if_neg notFirst]
        exact first
      have sameDone : (pool.turned number idle).results = pool.results :=
        booking.results_eq.trans (List.append_nil _)
      have handed : ∀ bucket, PoolSummary.IsBucket bucket →
          bucket (total.merge worker.summary) +
              sumOver (fun activity => bucket activity.summary) idle.tasks =
            bucket (.ofResults (pool.turned number idle).results) := by
        intro bucket isBucket
        have before := sums bucket isBucket
        have change : sumOver (fun activity => bucket activity.summary) idle.tasks +
            bucket worker.summary =
              sumOver (fun activity => bucket activity.summary) pool.schedule.tasks +
                bucket .empty := booking.sumOver_eq _
        rw [isBucket.empty] at change
        rw [isBucket.merge, sameDone]
        omega
      have silent : IsUnreported idle.results := sameResults ▸ unreported
      by_cases isLast : count ≤ 1
      · have nobody : sumOver Activity.workers idle.tasks = 0 := by omega
        rw [turned_joinWorker_last isLast supervises]
        exact .of_report ledger supervises rfl rfl nobody drained handed silent
      · have fewer : sumOver Activity.workers idle.tasks = count - 1 := by omega
        rw [turned_joinWorker_others isLast supervises]
        exact .of_supervising ledger supervises rfl rfl rfl fewer (by omega) (by omega)
          (fun _ => drained) handed silent

end Leaving

section Opening

variable {tag : String}

def spawned (pool : Pool) (tag : String) (workers : Nat) : List Task :=
  (List.range' pool.schedule.tasks.length (workersFor workers)).map fun place =>
    ⟨tag, pool.signal, .working 0 (.new place)⟩

theorem of_mem_spawned {task : Task} (member : task ∈ pool.spawned tag workers) :
    ∃ place, task = ⟨tag, pool.signal, .working 0 (.new place)⟩ :=
  Schedule.of_mem_newWorkers member

def withSpawned (pool : Pool) (tag : String) (workers : Nat) : Pool :=
  pool.become { pool.schedule with
    tasks := pool.schedule.tasks ++ pool.spawned tag workers
    pipeline := pool.schedule.pipeline.wakeAll
      (List.range' pool.schedule.tasks.length (workersFor workers)) }

theorem addition_of_withSpawned (nothing : pool.counted = []) :
    Addition [] (pool.spawned tag workers) pool (pool.withSpawned tag workers) := by
  have frame := pool.schedule.pipeline.wakeAll_eq
    (List.range' pool.schedule.tasks.length (workersFor workers))
  have spends := Pipeline.Spends.of_ready frame pool.schedule.held.length
  refine ⟨spends.capacity, spends.spare, ?_, ?_, rfl, rfl, (List.append_nil _).symm, rfl, rfl,
    ?_, ?_, ?_, observed_become pool _, kept_become pool _⟩
  · rw [List.append_nil]
    exact spends.order.symm
  · intro isClosed
    exact ⟨spends.isClosed.trans isClosed, rfl⟩
  · intro task member
    obtain ⟨place, rfl⟩ := of_mem_spawned member
    exact ⟨rfl, rfl⟩
  · intro task member worker is
    obtain ⟨place, rfl⟩ := of_mem_spawned member
    cases is
    exact ⟨rfl, nothing⟩
  · intro task member
    obtain ⟨place, rfl⟩ := of_mem_spawned member
    exact ⟨rfl, rfl⟩

theorem turned_spawnWorkers
    (here : pool.schedule.tasks[0]? = some ⟨tag, pool.signal, .opening workers⟩) :
    pool.turned 0 (pool.schedule.spawnWorkers 0 ⟨tag, pool.signal, .opening workers⟩ workers) =
      (pool.withSpawned tag workers).moveFirst tag (.supervising (workersFor workers) .empty)
        pool.schedule.results := by
  obtain ⟨takes, counts⟩ := takes_of_no_worker here rfl
  have inside : 0 < pool.schedule.tasks.length := (List.getElem?_eq_some_iff.1 here).1
  have tasks : ∀ task : Task, (pool.schedule.tasks ++ pool.spawned tag workers).set 0 task =
      pool.schedule.tasks.set 0 task ++ pool.spawned tag workers :=
    fun task => List.set_append_left 0 task inside
  unfold turned moveFirst withSpawned
  rw [takes, counts, List.append_nil, List.append_nil]
  dsimp only [become]
  rw [tasks]
  rfl

theorem workers_spawned (pool : Pool) (tag : String) (workers : Nat) :
    sumOver Activity.workers (pool.spawned tag workers) = workersFor workers := by
  have one : ∀ task ∈ pool.spawned tag workers, task.activity.workers = 1 := by
    intro task member
    obtain ⟨place, rfl⟩ := of_mem_spawned member
    rfl
  rw [sumOver_eq_length one, spawned, List.length_map, List.length_range']

theorem Sound.spawnWorkers (sound : Sound workers capacity pool)
    (here : pool.schedule.tasks[0]? = some ⟨tag, pool.signal, .opening workers⟩)
    (nobody : sumOver Activity.workers pool.schedule.tasks = 0) (nothing : pool.counted = [])
    (unreported : IsUnreported pool.schedule.results) :
    Sound workers capacity
      (pool.turned 0
        (pool.schedule.spawnWorkers 0 ⟨tag, pool.signal, .opening workers⟩ workers)) := by
  have addition : Addition [] (pool.spawned tag workers) pool (pool.withSpawned tag workers) :=
    addition_of_withSpawned nothing
  have present : sumOver Activity.workers (pool.withSpawned tag workers).schedule.tasks =
      workersFor workers := by
    rw [addition.tasks, sumOver_append, nobody, workers_spawned, Nat.zero_add]
  rw [turned_spawnWorkers here]
  refine .of_supervising (addition.ledger sound.ledger) (addition.first here) rfl rfl rfl present
    (workersFor_pos workers) (Nat.le_refl _) (fun fewer => absurd fewer (Nat.lt_irrefl _)) ?_
    unreported
  intro bucket isBucket
  have noResults : (pool.withSpawned tag workers).results = [] := by
    unfold results
    rw [addition.counted, nothing]
    rfl
  have idle : ∀ task ∈ pool.spawned tag workers, bucket task.activity.summary = 0 := by
    intro task member
    obtain ⟨place, rfl⟩ := of_mem_spawned member
    exact isBucket.empty
  rw [noResults, addition.sumOver_eq (fun activity => bucket activity.summary) idle,
    summaries_of_nobody nobody isBucket]
  rfl

end Opening

end Pool

end PolicyWatch.Reprocess

import PolicyWatch.Proofs.Pool.Supervisor
import PolicyWatch.Proofs.Pool.Frame
import PolicyWatch.Proofs.Request.Life

/-!
# No work is lost

A pool of workers loses no ID and does none twice.  Main statement: in every state that
turns of its workers and steps of others can lead to, each ID that its queue has accepted
waits, is run by one worker or was counted by one, and when the pool is done its summary
counts every ID that was taken.
-/

namespace PolicyWatch.Reprocess

namespace Pool

variable {workers maxConcurrency waitLimit capacity : Nat} {pool next : Pool}

/-! ## Whole runs -/

theorem Sound.start {pipeline : Pipeline} (signals : List Signal) (tag signal : String)
    (built : Gate.build? maxConcurrency waitLimit = some pipeline.gate) :
    Sound workers (Gate.capacityFor maxConcurrency)
      (opened pipeline signals tag signal workers) := by
  have balanced := GateSystem.Balanced.start built
  have spends := Pipeline.Spends.of_ready (Pipeline.wakeAll_eq pipeline [0]) 0
  have spare : pipeline.gate.tally.spare = Gate.capacityFor maxConcurrency :=
    congrArg Tally.spare balanced.tally_eq
  refine ⟨⟨spends.capacity.trans balanced.capacity_eq, ?_, ?_, ?_, ?_, ?_, ?_, id⟩,
    .opening rfl rfl rfl fun _ _ => List.not_mem_nil⟩
  · exact spends.spare.trans spare
  · exact congrArg ([] ++ ·) spends.order
  · intro number
    cases number <;> rfl
  · intro number worker is
    cases number <;> cases is
  · intro id
    rfl
  · intro number task here notFirst
    cases number with
    | zero => exact absurd rfl notFirst
    | succ number => cases here

/-- A turn of a task in which no worker crashes keeps the pool sound. -/
theorem Sound.turn (sound : Sound workers capacity pool) {number : Nat} {next : Schedule}
    (stays : pool.schedule.crashes number = []) (moved : pool.schedule.step? number = some next) :
    Sound workers capacity (pool.turned number next) := by
  have other : ∀ {task : Task}, number ≠ 0 → task.activity.workers = 0 →
      (∃ activity, OtherTurn number task activity pool next) →
      Sound workers capacity (pool.turned number next) := by
    rintro task notFirst idle ⟨activity, turn⟩
    exact ⟨turn.booking.ledger sound.ledger,
      sound.supervisor.turn turn.booking notFirst (turn.noWorker.trans idle.symm) turn.reports⟩
  by_cases isFirst : number = 0
  · subst isFirst
    unfold Schedule.step? at moved
    cases sound.supervisor with
    | opening here nobody nothing unreported =>
        rw [here] at moved
        cases moved
        exact sound.spawnWorkers here nobody nothing unreported
    | supervising here =>
        rw [here] at moved
        cases moved
    | done here =>
        rw [here] at moved
        cases moved
  · cases here : pool.schedule.tasks[number]? with
    | none =>
        unfold Schedule.step? at moved
        rw [here] at moved
        cases moved
    | some task =>
        have member := sound.ledger.members number task here isFirst
        obtain ⟨tag, signal, activity⟩ := task
        cases activity with
        | acquiring admission => exact other isFirst rfl (otherTurn_of_acquiring here moved)
        | reprocessing request => exact other isFirst rfl (otherTurn_of_reprocessing here moved)
        | working supervisor worker =>
            obtain ⟨rfl, rfl⟩ := member
            cases workerTurn_of_step? stays rfl here moved with
            | going booking results =>
                refine ⟨booking.ledger sound.ledger, sound.supervisor.turn booking isFirst rfl ?_⟩
                intro other summary listed
                exact results ▸ listed
            | joined booking results left reason =>
                rw [left]
                exact sound.joinWorker here booking results reason
        | done =>
            unfold Schedule.step? at moved
            rw [here] at moved
            cases moved
        | _ => exact absurd member id

theorem Sound.others (sound : Sound workers capacity pool) {pushed : List String}
    {next : Schedule} (otherStep : OtherStep pool.schedule pushed next) :
    Sound workers capacity { pool.become next with accepted := pool.accepted ++ pushed } := by
  obtain ⟨more, addition, noWorkers, results⟩ := addition_of_otherStep otherStep
  exact ⟨addition.ledger sound.ledger, sound.supervisor.addition addition noWorkers results⟩

theorem Step.returning (taken : Step pool next)
    (returning : pool.schedule.pipeline.collaborators.Return) :
    next.schedule.pipeline.collaborators.Return := by
  cases taken with
  | turn moved => exact (Schedule.frame_of_step? moved).collaborators ▸ returning
  | others otherStep =>
      rcases otherStep.collaborators with same | answers
      · exact same ▸ returning
      · exact answers

theorem Reachable.returning (reached : Reachable workers maxConcurrency waitLimit pool) :
    pool.schedule.pipeline.collaborators.Return := by
  induction reached with
  | start pipeline signals tag signal built returning =>
      have awake := Pipeline.wakeAll_eq pipeline [0]
      exact (congrArg Pipeline.collaborators awake) ▸ returning
  | step _ taken ih => exact taken.returning ih

theorem Reachable.sound (reached : Reachable workers maxConcurrency waitLimit pool) :
    Sound workers (Gate.capacityFor maxConcurrency) pool := by
  induction reached with
  | start pipeline signals tag signal built returning => exact .start signals tag signal built
  | step reached taken ih =>
      cases taken with
      | turn moved => exact ih.turn (Schedule.crashes_of_returning reached.returning _) moved
      | others otherStep => exact ih.others otherStep

/-- What it means that a pool of so many workers, at a gate for so many requests at once, loses
no work and does none twice. -/
structure Lossless (workers maxConcurrency : Nat) (pool : Pool) : Prop where
  /-- The IDs that its queue has accepted were taken in order, and the others wait in order. -/
  inOrder : pool.accepted = pool.taken.map Prod.snd ++ pool.queue.order
  /-- Each of them waits, is run or was counted, in one place. -/
  onePlace : (pool.queue.order ++ running pool.schedule.tasks ++ pool.done).Perm pool.accepted
  /-- A worker has counted all that it has taken, in order, but for the one that it runs. -/
  share : ∀ number, pool.takenBy number =
    (pool.countedBy number).map Prod.fst ++ pool.schedule.current number
  /-- Its summary counts just the results of these. -/
  summed : ∀ number worker, pool.schedule.worker? number = some worker →
    worker.summary = .ofResults ((pool.countedBy number).map Prod.snd)
  /-- No more IDs are taken and not counted than there are workers. -/
  few : pool.taken.length = pool.done.length + (running pool.schedule.tasks).length ∧
    (running pool.schedule.tasks).length ≤ workersFor workers
  /-- No more of them are between the start of their fetch and the end of their risk call than
  the gate has slots. -/
  calling : sumOver Activity.calling pool.schedule.tasks ≤ Gate.capacityFor maxConcurrency
  /-- A summary that the pool reports counts each ID that was taken once, none of which is run
  any more; and unless its signal has read cancelled, the queue is closed and drained. -/
  reported : ∀ tag summary, (tag, .supervised summary) ∈ pool.schedule.results →
    summary = .ofResults pool.results ∧
      summary.completed + summary.notFound + summary.failed + summary.timedOut +
        summary.cancelled = pool.taken.length ∧
      running pool.schedule.tasks = [] ∧
      (pool.wasCancelled = false → pool.queue.isClosed = true ∧ pool.queue.order = [])

theorem Supervisor.present (supervisor : Supervisor workers pool) :
    sumOver Activity.workers pool.schedule.tasks ≤ workersFor workers := by
  cases supervisor with
  | opening _ nobody => exact nobody ▸ Nat.zero_le _
  | supervising _ present _ few => exact present ▸ few
  | done _ nobody => exact nobody ▸ Nat.zero_le _

/-- A pool of workers loses no ID and does none twice, whatever turns its workers take and
whatever others do meanwhile. -/
theorem lossless (reached : Reachable workers maxConcurrency waitLimit pool) :
    Lossless workers maxConcurrency pool := by
  have sound := reached.sound
  have ledger := sound.ledger
  have places : (pool.done ++ running pool.schedule.tasks).Perm (pool.taken.map Prod.snd) := by
    refine List.perm_iff_count.2 fun id => ?_
    rw [List.count_append, count_running, ledger.placed id]
  have lengths := places.length_eq
  rw [List.length_append, List.length_map] at lengths
  have runners : (running pool.schedule.tasks).length ≤
      sumOver Activity.workers pool.schedule.tasks := by
    rw [length_running]
    exact sumOver_le Activity.length_current_le _
  refine ⟨ledger.inOrder, ?_, ledger.share, ledger.summed, ⟨lengths.symm, ?_⟩, ?_, ?_⟩
  · rw [ledger.inOrder, List.append_assoc]
    refine List.perm_append_comm.trans (List.Perm.append_right _ ?_)
    exact List.perm_append_comm.trans places
  · exact Nat.le_trans runners sound.supervisor.present
  · have slots := sumOver_le Activity.calling_le_slots pool.schedule.tasks
    have spare := ledger.spare_eq
    omega
  · intro tag summary listed
    cases sound.supervisor with
    | opening _ _ _ unreported => exact absurd listed (unreported tag summary)
    | supervising _ _ _ _ _ _ unreported => exact absurd listed (unreported tag summary)
    | done _ nobody drained reported =>
        have isTotal := reported tag summary listed
        have idle : running pool.schedule.tasks = [] := by
          refine List.eq_nil_of_length_eq_zero ?_
          omega
        refine ⟨isTotal, ?_, idle, fun never => ?_⟩
        · change summary.total = pool.taken.length
          rw [isTotal, PoolSummary.total_ofResults, ← lengths, idle, List.length_nil, Nat.add_zero,
            results, done, List.length_map, List.length_map]
        · exact drained.resolve_left (Bool.eq_false_iff.1 never)

/-- The pool after turns of tasks, in order, of those that have one to take. -/
def afterTurns (pool : Pool) (numbers : List Nat) : Pool :=
  numbers.foldl (fun pool number =>
    ((pool.schedule.step? number).map (pool.turned number)).getD pool) pool

theorem Reachable.afterTurns (reached : Reachable workers maxConcurrency waitLimit pool)
    (numbers : List Nat) :
    Reachable workers maxConcurrency waitLimit (pool.afterTurns numbers) := by
  induction numbers generalizing pool with
  | nil => exact reached
  | cons number rest ih =>
      refine ih ?_
      dsimp only
      cases moved : pool.schedule.step? number with
      | none => exact reached
      | some next => exact reached.step (.turn moved)

/-- A pool with one deployment that is stored and two IDs in its queue. -/
def twoQueued : Pool :=
  let pipeline := { Request.storedPipeline with
    inbox := ⟨⟨["web", "gone"], ["gone", "web"], false⟩, .idle⟩ }
  opened pipeline [] "pool" "stop" 0

/-- Its one worker has done both, and the queue is closed before it waits. -/
def closedInTime : Pool :=
  let pool := twoQueued.afterTurns (0 :: List.replicate 14 1)
  let schedule := { pool.schedule with pipeline := pool.schedule.pipeline.closeQueue }
  let closed := { pool.become schedule with accepted := pool.accepted ++ [] }
  closed.afterTurns [1, 1, 1]

theorem closedInTime_counts_both :
    Reachable 0 1 50 closedInTime ∧
      closedInTime.schedule.results = [("pool", .supervised ⟨1, 1, 0, 0, 0⟩)] ∧
      Lossless 0 1 closedInTime := by
  have opened : Reachable 0 1 50 twoQueued :=
    .start _ [] "pool" "stop" rfl Collaborators.prompt_return
  have reached : Reachable 0 1 50 closedInTime :=
    ((opened.afterTurns _).step (.others .closeQueue)).afterTurns _
  exact ⟨reached, rfl, lossless reached⟩

end Pool

end PolicyWatch.Reprocess

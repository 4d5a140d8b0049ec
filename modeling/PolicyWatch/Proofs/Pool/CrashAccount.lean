import PolicyWatch.Proofs.Pool.CrashingPool
import PolicyWatch.Proofs.Pool.Work

/-!
# What crashes cost

What is known of pools in which no worker crashes holds of the workers that survive, and the books
of the others say what is missing.  Main statement: in every state each ID waits, is run, was
counted or is one over which a worker crashed, no slot is lost, and a summary that is reported
counts what was counted by the workers that survive.
-/

namespace PolicyWatch.Reprocess

namespace CrashingPool

open Pool

variable {system : CrashingPool} {next : Schedule} {number workers capacity : Nat}

/-! ## What holds at any time -/

/-- What holds at any time. -/
structure Sound (workers capacity : Nat) (system : CrashingPool) : Prop where
  others : Pool.Sound (workers - system.crashed.length) capacity (system.survivors workers)
  inOrder : system.pool.accepted = system.pool.taken.map Prod.snd ++ system.pool.queue.order
  gone : ∀ entry ∈ system.crashed, system.pool.schedule.IsDone entry.1
  deserted : workersFor workers ≤ system.crashed.length → system.pool.schedule.IsDone 0
  few : system.crashed.length ≤ workersFor workers
  once : (system.crashed.map Prod.fst).Nodup
  lost : ∀ entry ∈ system.crashed,
    system.pool.takenBy entry.1 = (system.pool.countedBy entry.1).map Prod.fst ++ [entry.2]

theorem Sound.start {pipeline : Pipeline} {maxConcurrency waitLimit : Nat}
    (signals : List Signal) (tag signal : String)
    (built : Gate.build? maxConcurrency waitLimit = some pipeline.gate) :
    Sound workers (Gate.capacityFor maxConcurrency)
      ⟨opened pipeline signals tag signal workers, []⟩ := by
  have sound : Pool.Sound workers (Gate.capacityFor maxConcurrency)
      (opened pipeline signals tag signal workers) := .start signals tag signal built
  have positive := workersFor_pos workers
  have same : survivors workers ⟨opened pipeline signals tag signal workers, []⟩ =
      opened pipeline signals tag signal workers := by
    have order : (opened pipeline signals tag signal workers).queue.order =
        pipeline.inbox.queue.order :=
      congrArg (fun after => after.inbox.queue.order) (Pipeline.wakeAll_eq pipeline [0])
    have someone : decide (workersFor workers ≤ ([] : List (Nat × String)).length) = false :=
      decide_eq_false (Nat.not_le.2 positive)
    unfold survivors
    rw [order, someone, Bool.or_false]
    rfl
  refine ⟨same.symm ▸ sound, sound.ledger.inOrder, ?_, ?_, Nat.zero_le _, .nil, ?_⟩
  · intro entry impossible
    cases impossible
  · intro nobody
    exact absurd positive (Nat.not_lt.2 nobody)
  · intro entry impossible
    cases impossible

theorem addition_survivors {pushed : List String} {more : List Task} {grown : Pool}
    (addition : Addition pushed more system.pool grown) :
    Addition pushed more (system.survivors workers)
      (survivors workers { system with pool := grown }) := by
  refine ⟨addition.capacity, addition.spare, addition.order, addition.closed, addition.tasks,
    addition.signal, ?_, congrArg (kept system.crashed) addition.taken,
    congrArg (kept system.crashed) addition.counted, addition.idle, ?_, addition.members, ?_, ?_⟩
  · change (kept system.crashed grown.taken).map Prod.snd ++ grown.queue.order =
      (kept system.crashed system.pool.taken).map Prod.snd ++ system.pool.queue.order ++ pushed
    rw [addition.taken, addition.order, List.append_assoc]
  · intro task member worker is
    obtain ⟨isEmpty, nothing⟩ := addition.summary task member worker is
    exact ⟨isEmpty, congrArg (kept system.crashed) nothing⟩
  · intro reads
    exact Bool.or_eq_true_iff.2 (.inl (addition.observed reads))
  · intro was
    exact Bool.or_eq_true_iff.2 ((Bool.or_eq_true_iff.1 was).imp_left addition.kept)

namespace Sound

variable (sound : Sound workers capacity system)

include sound

theorem addition {pushed : List String} {more : List Task} {grown : Pool}
    (addition : Addition pushed more system.pool grown)
    (noWorkers : ∀ task ∈ more, task.activity.workers = 0)
    (results : grown.schedule.results = system.pool.schedule.results) :
    Sound workers capacity { system with pool := grown } := by
  have known : Addition pushed more (system.survivors workers)
      (survivors workers { system with pool := grown }) := addition_survivors addition
  refine ⟨⟨known.ledger sound.others.ledger,
    sound.others.supervisor.addition known noWorkers results⟩,
    ?_, ?_, ?_, sound.few, sound.once, ?_⟩
  · change grown.accepted = grown.taken.map Prod.snd ++ grown.queue.order
    rw [addition.accepted, sound.inOrder, addition.taken, addition.order, List.append_assoc]
  · intro entry member
    exact (sound.gone entry member).append addition.tasks
  · intro nobody
    exact (sound.deserted nobody).append addition.tasks
  · intro entry member
    change entriesOf entry.1 grown.taken = (entriesOf entry.1 grown.counted).map Prod.fst ++ _
    rw [addition.taken, addition.counted]
    exact sound.lost entry member

/-- A task that takes a turn has not crashed. -/
theorem survives_of_step? (moved : system.pool.schedule.step? number = some next) :
    survives system.crashed number = true := by
  refine survives_iff.2 fun member => ?_
  obtain ⟨entry, hasCrashed, rfl⟩ := List.mem_map.1 member
  exact Schedule.not_isDone_of_step? moved (sound.gone entry hasCrashed)

/-- The entries of workers that crashed are not added to by a turn of another. -/
theorem lost_turned (moved : system.pool.schedule.step? number = some next)
    (entry : Nat × String) (member : entry ∈ system.crashed) :
    (system.pool.turned number next).takenBy entry.1 =
      ((system.pool.turned number next).countedBy entry.1).map Prod.fst ++ [entry.2] := by
  obtain ⟨ids, takes⟩ := system.pool.schedule.exists_takes number
  obtain ⟨entries, counts⟩ := system.pool.schedule.exists_counts number
  have apart : number ≠ entry.1 := by
    intro same
    refine survives_iff.1 (sound.survives_of_step? moved) (List.mem_map.2 ⟨entry, member, ?_⟩)
    exact same.symm
  have took : (system.pool.turned number next).takenBy entry.1 = system.pool.takenBy entry.1 := by
    change entriesOf entry.1 (system.pool.taken ++ system.pool.schedule.takes number) = _
    rw [takes, entriesOf_append, if_neg apart, List.append_nil]
    rfl
  have did :
      (system.pool.turned number next).countedBy entry.1 = system.pool.countedBy entry.1 := by
    change entriesOf entry.1 (system.pool.counted ++ system.pool.schedule.counts number) = _
    rw [counts, entriesOf_append, if_neg apart, List.append_nil]
    rfl
  rw [took, did]
  exact sound.lost entry member

/-- A turn in which no worker crashes keeps this. -/
theorem turn (stays : system.pool.schedule.crashes number = [])
    (moved : system.pool.schedule.step? number = some next) :
    Sound workers capacity (system.turned number next) := by
  have others : Pool.Sound (workers - system.crashed.length) capacity
      ((system.survivors workers).turned number next) := sound.others.turn stays moved
  have frame := Schedule.frame_of_step? moved
  -- The books of those that stand say what the turn took from the queue.
  have order : system.pool.queue.order =
      (system.pool.schedule.takes number).map Prod.snd ++ next.pipeline.inbox.queue.order := by
    have after : (kept system.crashed system.pool.taken).map Prod.snd ++ system.pool.queue.order =
        (kept system.crashed system.pool.taken ++ system.pool.schedule.takes number).map Prod.snd ++
          next.pipeline.inbox.queue.order := others.ledger.inOrder
    rw [List.map_append, List.append_assoc] at after
    exact List.append_cancel_left after
  have same :
      system.turned number next = { system with pool := system.pool.turned number next } := by
    unfold CrashingPool.turned
    rw [stays, List.append_nil]
  rw [same]
  refine ⟨?_, ?_, ?_, ?_, sound.few, sound.once, sound.lost_turned moved⟩
  · rw [survivors_turned (sound.survives_of_step? moved) order]
    exact others
  · change system.pool.accepted =
      (system.pool.taken ++ system.pool.schedule.takes number).map Prod.snd ++ _
    rw [sound.inOrder, order, List.map_append, List.append_assoc]
    rfl
  · intro entry member
    exact frame.done _ (sound.gone entry member)
  · intro nobody
    exact frame.done _ (sound.deserted nobody)

section Falls

variable {tag : String} {worker : Worker} {id : String} {idle : Schedule}
  (hasCrashed : Crash number tag worker id system.pool idle next)

include hasCrashed

omit sound in
/-- To the workers that survive, one that crashes leaves with nothing to report. -/
theorem survivors_crashed :
    survivors workers ⟨system.pool.turned number next, system.crashed ++ [(number, id)]⟩ =
      { survivors workers ⟨system.pool.turned number idle, system.crashed ++ [(number, id)]⟩ with
        schedule := idle.joinWorker 0 none } := by
  obtain ⟨pipeline, signals⟩ := joinWorker_frame idle none
  rw [hasCrashed.left]
  unfold survivors Pool.turned become queue Schedule.isCancelled Schedule.signal
  dsimp only
  rw [pipeline, signals]

theorem gone_crashed (moved : system.pool.schedule.step? number = some next)
    (entry : Nat × String) (member : entry ∈ system.crashed ++ [(number, id)]) :
    next.IsDone entry.1 := by
  rcases List.mem_append.1 member with earlier | isLast
  · exact (Schedule.frame_of_step? moved).done _ (sound.gone entry earlier)
  · cases List.mem_singleton.1 isLast
    obtain ⟨inside, _⟩ := List.getElem?_eq_some_iff.1 hasCrashed.here
    have isDone : idle.IsDone number := by
      refine ⟨⟨tag, system.pool.signal, .done⟩, ?_, rfl⟩
      rw [hasCrashed.tasks]
      exact List.getElem?_set_self inside
    rw [hasCrashed.left]
    exact (Schedule.Frame.joinWorker idle 0 none).done _ isDone

theorem lost_crashed (moved : system.pool.schedule.step? number = some next)
    (departure : Departure number tag worker (system.survivors workers)
      (survivors workers ⟨system.pool.turned number idle, system.crashed ++ [(number, id)]⟩)) :
    (system.pool.turned number next).takenBy number =
      ((system.pool.turned number next).countedBy number).map Prod.fst ++ [id] := by
  have surviving := sound.survives_of_step? moved
  have share := sound.others.ledger.share number
  unfold takenBy countedBy at share ⊢
  rw [departure.current_number, hasCrashed.current] at share
  change entriesOf number (kept system.crashed system.pool.taken) =
    (entriesOf number (kept system.crashed system.pool.counted)).map Prod.fst ++ [id] at share
  rw [entriesOf_kept surviving, entriesOf_kept surviving] at share
  change entriesOf number (system.pool.taken ++ system.pool.schedule.takes number) =
    (entriesOf number (system.pool.counted ++ system.pool.schedule.counts number)).map Prod.fst ++
      [id]
  rw [hasCrashed.takes, hasCrashed.counts, List.append_nil, List.append_nil]
  exact share

theorem crash (moved : system.pool.schedule.step? number = some next) :
    Sound workers capacity (system.turned number next) := by
  have departure : Departure number tag worker (system.survivors workers)
      (survivors workers ⟨system.pool.turned number idle, system.crashed ++ [(number, id)]⟩) :=
    hasCrashed.departure
  have length : (system.crashed ++ [(number, id)]).length = system.crashed.length + 1 :=
    List.length_append
  obtain ⟨isOpen, ends⟩ := sound.others.isDone_depart departure
  have others := sound.others.depart departure fun alone => by
    refine Bool.or_eq_true_iff.2 (.inr (decide_eq_true ?_))
    rw [length]
    unfold workersFor
    split <;> omega
  have same : system.turned number next =
      ⟨system.pool.turned number next, system.crashed ++ [(number, id)]⟩ := by
    unfold CrashingPool.turned
    rw [hasCrashed.crashes]
  have order : system.pool.queue.order = next.pipeline.inbox.queue.order := by
    rw [hasCrashed.left, (joinWorker_frame idle none).1]
    exact hasCrashed.spends.order
  rw [same]
  refine ⟨?_, ?_, sound.gone_crashed hasCrashed moved, ?_, ?_, ?_, ?_⟩
  · rw [survivors_crashed hasCrashed, length, ← Nat.sub_sub]
    exact others
  · change system.pool.accepted =
      (system.pool.taken ++ system.pool.schedule.takes number).map Prod.snd ++ _
    rw [hasCrashed.takes, List.append_nil, sound.inOrder, order]
    rfl
  · intro nobody
    rw [hasCrashed.left]
    refine ends ?_
    rw [length] at nobody
    unfold workersFor at nobody
    split at nobody <;> omega
  · rw [length]
    exact Nat.lt_of_not_le fun nobody => isOpen (sound.deserted nobody)
  · rw [List.map_append]
    have last := List.perm_append_singleton number (system.crashed.map Prod.fst)
    have surviving := survives_iff.1 (sound.survives_of_step? moved)
    exact last.nodup_iff.2 (List.nodup_cons.2 ⟨surviving, sound.once⟩)
  · intro entry member
    rcases List.mem_append.1 member with earlier | isLast
    · exact sound.lost_turned moved entry earlier
    · cases List.mem_singleton.1 isLast
      exact sound.lost_crashed hasCrashed moved departure

end Falls

theorem step {grown : CrashingPool} (taken : Step system grown) : Sound workers capacity grown := by
  cases taken with
  | others otherStep =>
      obtain ⟨more, addition, noWorkers, results⟩ := addition_of_otherStep otherStep
      exact sound.addition addition noWorkers results
  | change changed sameGate sameQueue =>
      have addition := addition_of_change sameGate sameQueue
      rw [List.append_nil] at addition
      exact sound.addition addition (fun task impossible => by cases impossible) rfl
  | @turn number next moved =>
      by_cases stays : system.pool.schedule.crashes number = []
      · exact sound.turn stays moved
      · have notFirst : number ≠ 0 := by
          rintro rfl
          have first : (system.survivors workers).schedule.crashes 0 = [] :=
            crashes_first sound.others.supervisor
          exact stays first
        have members : ∀ task, system.pool.schedule.tasks[number]? = some task →
            IsMember system.pool.signal task :=
          fun task here => sound.others.ledger.members number task here notFirst
        obtain ⟨tag, worker, id, idle, crash⟩ := exists_crash members stays moved
        exact sound.crash crash moved

end Sound

theorem Reachable.sound {maxConcurrency waitLimit : Nat}
    (reached : Reachable workers maxConcurrency waitLimit system) :
    Sound workers (Gate.capacityFor maxConcurrency) system := by
  induction reached with
  | start pipeline signals tag signal built => exact .start signals tag signal built
  | step _ taken ih => exact ih.step taken

/-! # # What crashes cost -/

/-- What it means that the books of a pool of so many workers, at a gate for so many requests at
once, account for those that crashed. -/
structure Accounted (workers maxConcurrency : Nat) (system : CrashingPool) : Prop where
  /-- The IDs that the queue has accepted were taken in order, and the others wait in order. -/
  inOrder : system.pool.accepted = system.pool.taken.map Prod.snd ++ system.pool.queue.order
  /-- Each of them waits, is run, was counted or is one over which a worker crashed,
  in one place. -/
  onePlace : (system.pool.queue.order ++ running system.pool.schedule.tasks ++ system.pool.done ++
    system.crashed.map Prod.snd).Perm system.pool.accepted
  /-- A worker has counted all that it has taken, in order, but for the one over which it crashed or
  that it runs. -/
  share : ∀ number, system.pool.takenBy number = (system.pool.countedBy number).map Prod.fst ++
    (entriesOf number system.crashed ++ system.pool.schedule.current number)
  /-- A worker crashes once, and no more crash than there are. -/
  once : (system.crashed.map Prod.fst).Nodup ∧ system.crashed.length ≤ workersFor workers
  /-- A worker that crashed is done and holds no slot: all slots are held by the tasks that run
  requests, or under tags, or by nobody. -/
  slots : (∀ entry ∈ system.crashed, system.pool.schedule.IsDone entry.1) ∧
    system.pool.gate.tally.spare + sumOver Activity.slots system.pool.schedule.tasks +
      system.pool.schedule.held.length = Gate.capacityFor maxConcurrency
  /-- A summary that the pool reports counts just the results that were counted by workers that
  survive; all that the others had counted is missing.  No worker is left then; and unless
  the signal has read cancelled, the queue is closed and drained or all workers crashed. -/
  reported : ∀ tag summary, (tag, .supervised summary) ∈ system.pool.schedule.results →
    summary = .ofResults ((kept system.crashed system.pool.counted).map fun entry => entry.2.2) ∧
      summary.total + (forfeited system.crashed system.pool.counted).length +
          system.crashed.length =
        system.pool.taken.length ∧
      (∀ task ∈ system.pool.schedule.tasks, task.activity.workers = 0) ∧
      (system.pool.wasCancelled = false →
        system.pool.queue.isClosed = true ∧ system.pool.queue.order = [] ∨
          system.crashed.length = workersFor workers)

section Costs

variable (sound : Sound workers capacity system)

include sound

/-- What was taken is run, was counted, or is what workers crashed over. -/
theorem Sound.taken_perm :
    (system.pool.done ++ running system.pool.schedule.tasks ++ system.crashed.map Prod.snd).Perm
      (system.pool.taken.map Prod.snd) := by
  have did : system.pool.done.Perm ((system.survivors workers).done ++
      ((forfeited system.crashed system.pool.counted).map Prod.snd).map Prod.fst) := by
    have split := (kept_perm system.crashed system.pool.counted).map Prod.fst
    rw [List.map_append, List.map_map, List.map_map] at split
    exact split
  refine List.perm_iff_count.2 fun id => ?_
  have took := (kept_perm system.crashed system.pool.taken).count_eq id
  have did := did.count_eq id
  have lost := (forfeited_perm sound.once sound.lost).count_eq id
  have placed : ((kept system.crashed system.pool.taken).map Prod.snd).count id =
      (system.survivors workers).done.count id +
        sumOver (fun activity => activity.current.count id) system.pool.schedule.tasks :=
    sound.others.ledger.placed id
  rw [List.count_append] at took did lost
  rw [List.count_append, List.count_append, count_running]
  omega

theorem Sound.share (number : Nat) :
    system.pool.takenBy number = (system.pool.countedBy number).map Prod.fst ++
      (entriesOf number system.crashed ++ system.pool.schedule.current number) := by
  by_cases surviving : survives system.crashed number = true
  · have share : entriesOf number (kept system.crashed system.pool.taken) =
        (entriesOf number (kept system.crashed system.pool.counted)).map Prod.fst ++
          system.pool.schedule.current number := sound.others.ledger.share number
    rw [entriesOf_kept surviving, entriesOf_kept surviving] at share
    rw [entriesOf_eq_nil (survives_iff.1 surviving), List.nil_append]
    exact share
  · obtain ⟨entry, member, rfl⟩ := List.mem_map.1 (not_not.1 (mt survives_iff.2 surviving))
    obtain ⟨task, here, isDone⟩ := sound.gone entry member
    have idle : system.pool.schedule.current entry.1 = [] := by
      unfold Schedule.current
      rw [here, Option.map_some, Option.getD_some, isDone]
      rfl
    rw [entriesOf_of_mem sound.once member, idle, List.append_nil]
    exact sound.lost entry member

end Costs

/-- The books account for every worker that crashes, whatever turns tasks take, whatever others
do meanwhile and whenever collaborators crash. -/
theorem accounted {maxConcurrency waitLimit : Nat}
    (reached : Reachable workers maxConcurrency waitLimit system) :
    Accounted workers maxConcurrency system := by
  have sound := reached.sound
  have places := sound.taken_perm
  have lengths := places.length_eq
  rw [List.length_append, List.length_append, List.length_map, List.length_map] at lengths
  refine ⟨sound.inOrder, ?_, sound.share, ⟨sound.once, sound.few⟩,
    ⟨sound.gone, sound.others.ledger.spare_eq⟩, ?_⟩
  · rw [sound.inOrder, List.append_assoc, List.append_assoc]
    refine List.perm_append_comm.trans (List.Perm.append_right _ ?_)
    rw [← List.append_assoc]
    exact (List.perm_append_comm.append_right _).trans places
  · intro tag summary listed
    cases sound.others.supervisor with
    | opening _ _ _ unreported => exact absurd listed (unreported tag summary)
    | supervising _ _ _ _ _ _ unreported => exact absurd listed (unreported tag summary)
    | done _ nobody drained reported =>
        have isTotal : summary = .ofResults
            ((kept system.crashed system.pool.counted).map fun entry => entry.2.2) :=
          reported tag summary listed
        have idle : (running system.pool.schedule.tasks).length = 0 := by
          rw [length_running]
          exact Nat.le_zero.1 (nobody ▸ sumOver_le Activity.length_current_le _)
        have split := (kept_perm system.crashed system.pool.counted).length_eq
        rw [List.length_append, List.length_map, List.length_map, List.length_map] at split
        refine ⟨isTotal, ?_, fun task member => workers_of_nobody nobody member, fun never => ?_⟩
        · rw [isTotal, PoolSummary.total_ofResults, List.length_map]
          unfold done at lengths
          rw [List.length_map] at lengths
          omega
        · rcases drained with left | drained
          · rcases Bool.or_eq_true_iff.1 left with was | all
            · cases never.symm.trans was
            · exact .inr (Nat.le_antisymm sound.few (of_decide_eq_true all))
          · exact .inl drained

/-- The pool after turns of tasks, in order, of those that have one to take. -/
def afterTurns (system : CrashingPool) (numbers : List Nat) : CrashingPool :=
  numbers.foldl (fun system number =>
    ((system.pool.schedule.step? number).map (system.turned number)).getD system) system

theorem Reachable.afterTurns {maxConcurrency waitLimit : Nat}
    (reached : Reachable workers maxConcurrency waitLimit system) (numbers : List Nat) :
    Reachable workers maxConcurrency waitLimit (system.afterTurns numbers) := by
  induction numbers generalizing system with
  | nil => exact reached
  | cons number rest ih =>
      refine ih ?_
      dsimp only
      cases moved : system.pool.schedule.step? number with
      | none => exact reached
      | some next => exact reached.step (.turn moved)

/-- A pool with three stored deployments in its closed queue and a risk manager that crashes
on the second. -/
def crashingOnSecond (workers : Nat) : CrashingPool :=
  let deployment (id : String) : Deployment := ⟨id, "web", "c1", "shop", "n1", 1, .empty, []⟩
  let risk : List Call → String → Conduct :=
    fun _ id => ⟨0, if id = "d2" then .crashing else .normal⟩
  let pipeline := { Request.storedPipeline with
    collaborators := { Collaborators.prompt with risk }
    store := ⟨[deployment "d1", deployment "d2", deployment "d3"]⟩
    inbox := ⟨⟨["d1", "d2", "d3"], ["d3", "d2", "d1"], true⟩, .idle⟩ }
  ⟨opened pipeline [] "pool" "stop" workers, []⟩

/-- The first of two workers does the first deployment and crashes over the second, and the other
does the third. -/
def twoWorkers : CrashingPool :=
  (crashingOnSecond 2).afterTurns (0 :: List.replicate 14 1 ++ List.replicate 9 2)

theorem twoWorkers_accounted :
    Reachable 2 1 50 twoWorkers ∧ twoWorkers.crashed = [(1, "d2")] ∧
      twoWorkers.pool.schedule.results = [("pool", .supervised ⟨1, 0, 0, 0, 0⟩)] ∧
      Accounted 2 1 twoWorkers := by
  have opened : Reachable 2 1 50 (crashingOnSecond 2) := .start _ [] "pool" "stop" rfl
  have reached : Reachable 2 1 50 twoWorkers := opened.afterTurns _
  exact ⟨reached, by decide +kernel, by decide +kernel, accounted reached⟩

/-- A worker on its own does the first deployment, crashes over the second and leaves the third in
the closed queue, and the pool reports that nothing was done. -/
theorem lone_worker_leaves_last :
    ∃ system : CrashingPool, Reachable 1 1 50 system ∧ system.pool.wasCancelled = false ∧
      system.pool.queue.isClosed = true ∧ system.crashed = [(1, "d2")] ∧
      system.pool.counted = [(1, "d1", .success (.completed 0))] ∧
      system.pool.schedule.results = [("pool", .supervised .empty)] ∧
      system.pool.queue.order = ["d3"] := by
  have opened : Reachable 1 1 50 (crashingOnSecond 1) := .start _ [] "pool" "stop" rfl
  refine ⟨_, opened.afterTurns (0 :: List.replicate 14 1), ?_⟩
  decide +kernel

end CrashingPool

end PolicyWatch.Reprocess

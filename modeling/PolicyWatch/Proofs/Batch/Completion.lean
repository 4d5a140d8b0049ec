import PolicyWatch.Proofs.Batch.Account

/-!
# The end of a batch

Whole runs of a batch, with any turns of the workers and any passing of time between them.  Main
statements: a run takes a bounded number of turns, can go on until the pool is done, and tells the
risk manager of each stored deployment of the batch once, unless a request waits too long.
-/

namespace PolicyWatch.Reprocess

/-- A batch that is about to be worked on: IDs in a queue that is closed, behind a new gate, with
collaborators that take no time and never fail. -/
structure Pipeline.IsBatch (maxConcurrency waitLimit : Nat) (source : Pipeline) : Prop where
  built : Gate.build? maxConcurrency waitLimit = some source.gate
  prompt : source.collaborators = .prompt
  isClosed : source.inbox.queue.isClosed = true

/-- The schedule in which a pool for a batch is about to be opened. -/
def Pipeline.atOpening (source : Pipeline) (tag signal : String) (workers : Nat) : Schedule :=
  (Schedule.new source).start tag signal (.opening workers)

/-- What can become of a schedule when tasks take turns, with the number of their turns, and time
goes by.  Who is taken to be awake does not matter. -/
inductive Schedule.Runs (start : Schedule) : Nat → Schedule → Prop where
  | begin : Runs start 0 start
  | turn {turns number : Nat} {schedule next : Schedule} (led : Runs start turns schedule)
      (moved : schedule.step? number = some next) : Runs start (turns + 1) next
  | wait {turns clock : Nat} {schedule : Schedule} (led : Runs start turns schedule)
      (later : schedule.pipeline.clock ≤ clock) : Runs start turns (schedule.setClock clock)
  | wake {turns : Nat} {schedule : Schedule} (led : Runs start turns schedule)
      (ready : List Nat) :
      Runs start turns { schedule with pipeline := { schedule.pipeline with ready } }

/-- The books of a pool that works on a batch. -/
structure Pool.Account (source : Pipeline) (workers maxConcurrency waitLimit : Nat) (pool : Pool) :
    Prop where
  reached : Reachable workers maxConcurrency waitLimit pool
  invariant : Schedule.BatchInvariant source pool.schedule
  uncancelled : pool.wasCancelled = false
  accepted : pool.accepted = source.inbox.queue.order
  told : pool.schedule.pipeline.told =
    source.told ++ pool.counted.filterMap fun entry => source.outcome? entry.2
  honest : ∀ entry ∈ pool.counted,
    source.outcome? entry.2 = source.report? entry.2.1 ∨ 0 < pool.gate.timeouts

open Schedule (Runs BatchInvariant)

variable {source : Pipeline} {workers maxConcurrency waitLimit : Nat}

theorem Schedule.BatchInvariant.start (isBatch : source.IsBatch maxConcurrency waitLimit)
    (tag signal : String) : BatchInvariant source (source.atOpening tag signal workers) := by
  obtain ⟨built, prompt, isClosed⟩ := isBatch
  have fresh := Gate.eq_of_build? built
  have serves : source.Serves source := ⟨prompt, rfl, isClosed, congrArg Gate.isClosed fresh⟩
  have sameGate : (source.atOpening tag signal workers).pipeline.gate = source.gate :=
    source.gate_wakeAll [0]
  have noLine := (congrArg Gate.line sameGate).trans (congrArg Gate.line fresh)
  have noWaiters : source.gate.waiters = [] := congrArg Gate.waiters fresh
  refine ⟨serves.wakeAll [0], rfl, rfl, ?_, noLine ▸ List.nodup_nil, ?_, ?_⟩
  · intro number task here
    cases number with
    | zero =>
        cases here
        exact .opening workers
    | succ number => cases here
  · intro number
    rw [noLine]
    refine ⟨fun impossible => absurd impossible List.not_mem_nil, fun waits => ?_⟩
    obtain ⟨_, _, _, _, here⟩ := exists_worker_of_waitsAt waits
    cases number <;> cases here
  · rw [sameGate]
    exact ⟨.inl noWaiters, fun _ => noWaiters⟩

namespace Pool

variable {pool : Pool}

theorem Account.start (isBatch : source.IsBatch maxConcurrency waitLimit) (tag signal : String) :
    Account source workers maxConcurrency waitLimit (opened source [] tag signal workers) := by
  refine ⟨.start source [] tag signal isBatch.built ?_, .start isBatch tag signal, rfl, rfl, ?_, ?_⟩
  · rw [isBatch.prompt]
    exact Collaborators.prompt_return
  · exact (Pipeline.told_of_calls (Pipeline.calls_wakeAll source [0])).trans
      (List.append_nil _).symm
  · intro entry impossible
    cases impossible

theorem Account.turn (account : Account source workers maxConcurrency waitLimit pool) {number : Nat}
    {next : Schedule} (moved : pool.schedule.step? number = some next) :
    Account source workers maxConcurrency waitLimit (pool.turned number next) := by
  have turn := account.invariant.turn moved
  have tells := turn.tells account.invariant
  have invariant := account.invariant.step turn
  refine ⟨account.reached.step (.turn moved), invariant, ?_, account.accepted, ?_, ?_⟩
  · change (pool.wasCancelled || next.isCancelled pool.signal) = false
    rw [account.uncancelled, Schedule.isCancelled_of_silent invariant.silent]
    rfl
  · change next.pipeline.told = _ ++ (pool.counted ++ _).filterMap _
    rw [tells.told, account.told, List.filterMap_append, List.append_assoc]
  · intro entry listed
    rcases List.mem_append.1 listed with known | isNew
    · exact (account.honest entry known).imp_right
        fun late => Nat.lt_of_lt_of_le late tells.timeouts
    · exact tells.honest entry isNew

/-- It is kept while time goes by and tasks are woken. -/
theorem Account.others (account : Account source workers maxConcurrency waitLimit pool)
    {changed : Pipeline} (serves : source.Serves changed)
    (sameGate : changed.gate = pool.gate) (sameQueue : changed.inbox.queue = pool.queue)
    (sameCalls : changed.calls = pool.schedule.pipeline.calls) :
    Account source workers maxConcurrency waitLimit
      { pool.become { pool.schedule with pipeline := changed } with
        accepted := pool.accepted ++ [] } := by
  have returning : changed.collaborators.Return := by
    rw [serves.frame, serves.prompt]
    exact Collaborators.prompt_return
  have invariant := account.invariant.of_pipeline serves sameGate
  refine ⟨account.reached.step (.others (.change changed sameGate sameQueue returning)), invariant,
    ?_, (List.append_nil _).trans account.accepted, ?_, ?_⟩
  · change (pool.wasCancelled || Schedule.isCancelled _ pool.signal) = false
    rw [account.uncancelled, Schedule.isCancelled_of_silent invariant.silent]
    rfl
  · exact (Pipeline.told_of_calls sameCalls).trans account.told
  · intro entry listed
    exact (account.honest entry listed).imp_right
      fun late => Nat.lt_of_lt_of_eq late (congrArg Gate.timeouts sameGate.symm)

/-- The account at the end: the risk manager was told of each stored deployment of the batch
once. -/
theorem Account.told_of_hasEnded
    (account : Account source workers maxConcurrency waitLimit pool)
    (hasEnded : pool.schedule.HasEnded) (noTimeouts : pool.gate.timeouts = 0) :
    pool.schedule.pipeline.told.Perm
      (source.told ++ source.inbox.queue.order.filterMap source.report?) := by
  obtain ⟨tag, signal, ended⟩ := hasEnded
  cases account.reached.sound.supervisor with
  | opening first => cases ended.symm.trans first
  | supervising first => cases ended.symm.trans first
  | done _ nobody drained _ =>
      -- Nothing waits and nothing is run, so every ID of the batch was counted, and none twice.
      have isEmpty : pool.queue.order = [] :=
        (drained.resolve_left (Bool.eq_false_iff.1 account.uncancelled)).2
      have idle : running pool.schedule.tasks = [] := by
        refine List.eq_nil_of_length_eq_zero (Nat.le_zero.1 ?_)
        rw [length_running, ← nobody]
        exact sumOver_le Activity.length_current_le _
      have places := (lossless account.reached).onePlace
      rw [isEmpty, idle, account.accepted] at places
      have counted : (pool.counted.filterMap fun entry => source.outcome? entry.2) =
          pool.done.filterMap source.report? := by
        unfold done
        rw [List.filterMap_map]
        refine List.filterMap_congr fun entry listed => ?_
        exact (account.honest entry listed).resolve_right
          (Nat.not_lt_of_le (Nat.le_of_eq noTimeouts))
      rw [account.told, counted]
      exact (places.filterMap source.report?).append_left source.told

end Pool

/-! ## Whole runs -/

namespace Schedule

variable {tag signal : String} {turns : Nat} {schedule : Schedule}

theorem Runs.exists_account (isBatch : source.IsBatch maxConcurrency waitLimit)
    (led : Runs (source.atOpening tag signal workers) turns schedule) :
    ∃ pool : Pool, pool.schedule = schedule ∧
      pool.Account source workers maxConcurrency waitLimit := by
  induction led with
  | begin => exact ⟨_, rfl, .start isBatch tag signal⟩
  | turn led moved ih =>
      obtain ⟨pool, rfl, account⟩ := ih
      exact ⟨_, rfl, account.turn moved⟩
  | @wait turns clock schedule led later ih =>
      obtain ⟨pool, rfl, account⟩ := ih
      exact ⟨_, rfl, account.others (account.invariant.serves.of_clock clock) rfl rfl rfl⟩
  | wake led ready ih =>
      obtain ⟨pool, rfl, account⟩ := ih
      exact ⟨_, rfl, account.others (account.invariant.serves.of_ready ready) rfl rfl rfl⟩

theorem Runs.turns_le (isBatch : source.IsBatch maxConcurrency waitLimit)
    (led : Runs (source.atOpening tag signal workers) turns schedule) :
    turns + schedule.remaining ≤ (source.atOpening tag signal workers).remaining := by
  induction led with
  | begin => exact Nat.le_of_eq (Nat.zero_add _)
  | turn led moved ih =>
      obtain ⟨pool, rfl, account⟩ := led.exists_account isBatch
      obtain ⟨_, _, _, less⟩ := (account.invariant.turn moved).spends
      omega
  | wait led later ih => exact ih
  | wake led ready ih => exact ih

theorem remaining_atOpening (source : Pipeline) (tag signal : String) (workers : Nat) :
    (source.atOpening tag signal workers).remaining =
      3 * workersFor workers + 1 + 8 * source.inbox.queue.order.length := by
  have sameInbox : (source.wake 0).inbox = source.inbox := source.inbox_wakeAll [0]
  unfold remaining
  change (3 * workersFor workers + 1) + 8 * (source.wake 0).inbox.queue.order.length = _
  rw [sameInbox]

/-- When nobody has anything to do, the pool is done. -/
theorem Runs.hasEnded_of_idle (isBatch : source.IsBatch maxConcurrency waitLimit)
    (led : Runs (source.atOpening tag signal workers) turns schedule)
    (idle : ∀ number, ¬schedule.IsAwake number) : schedule.HasEnded := by
  obtain ⟨pool, rfl, account⟩ := led.exists_account isBatch
  exact account.reached.sound.hasEnded (Gate.capacityFor_pos maxConcurrency) account.invariant idle

/-- Until the pool is done some task can take a turn. -/
theorem Runs.hasEnded (isBatch : source.IsBatch maxConcurrency waitLimit)
    (led : Runs (source.atOpening tag signal workers) turns schedule)
    (stuck : ∀ number, schedule.step? number = none) : schedule.HasEnded := by
  refine led.hasEnded_of_idle isBatch fun number awake => ?_
  obtain ⟨pool, rfl, account⟩ := led.exists_account isBatch
  obtain ⟨next, moved⟩ := account.invariant.exists_step? awake
  exact nomatch (stuck number).symm.trans moved

/-- When the pool is done, the risk manager was told of each stored deployment of the batch once,
unless a request has waited too long. -/
theorem Runs.told (isBatch : source.IsBatch maxConcurrency waitLimit)
    (led : Runs (source.atOpening tag signal workers) turns schedule)
    (hasEnded : schedule.HasEnded) (noTimeouts : schedule.pipeline.gate.timeouts = 0) :
    schedule.pipeline.told.Perm
      (source.told ++ source.inbox.queue.order.filterMap source.report?) := by
  obtain ⟨pool, rfl, account⟩ := led.exists_account isBatch
  exact account.told_of_hasEnded hasEnded noTimeouts

end Schedule

end PolicyWatch.Reprocess

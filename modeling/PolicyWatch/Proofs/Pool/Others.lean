import PolicyWatch.Proofs.Pool.Ledger

/-!
# What others do to a pool

The steps of a pool: turns of its tasks, and what others do meanwhile.  Main statement:
whatever others do is an addition to the books of the pool.
-/

namespace PolicyWatch.Reprocess

/-! ## Steps -/

/-- What others can do to a schedule in which a pool was opened, with the IDs that they put
into the queue. -/
inductive OtherStep (schedule : Schedule) : List String → Schedule → Prop where
  | push (id : String) :
      OtherStep schedule (if (schedule.pipeline.push id).1 then [id] else [])
        { schedule with pipeline := (schedule.pipeline.push id).2 }
  | closeQueue : OtherStep schedule [] { schedule with pipeline := schedule.pipeline.closeQueue }
  | closeGate : OtherStep schedule [] { schedule with pipeline := schedule.pipeline.closeGate }
  | send (name : String) (isCancelled : Bool) :
      OtherStep schedule [] (schedule.send name isCancelled)
  | drop (name : String) : OtherStep schedule [] (schedule.drop name)
  | acquire (tag signal : String) :
      OtherStep schedule [] (schedule.start tag signal (.acquiring .arriving))
  | request (tag signal id : String) : OtherStep schedule [] (schedule.startRequest tag signal id)
  | release (tag : String) : OtherStep schedule [] (schedule.release tag).2
  /-- Time goes by, or the policies, the stored deployments or the collaborators change. -/
  | change (changed : Pipeline) (sameGate : changed.gate = schedule.pipeline.gate)
      (sameQueue : changed.inbox.queue = schedule.pipeline.inbox.queue)
      (returning : changed.collaborators.Return) :
      OtherStep schedule [] { schedule with pipeline := changed }

namespace Pool

def become (pool : Pool) (schedule : Schedule) : Pool :=
  { pool with
    schedule
    wasCancelled := pool.wasCancelled || schedule.isCancelled pool.signal }

def turned (pool : Pool) (number : Nat) (schedule : Schedule) : Pool :=
  { pool.become schedule with
    taken := pool.taken ++ pool.schedule.takes number
    counted := pool.counted ++ pool.schedule.counts number }

/-- One step of anybody: a task takes its turn, or others do something. -/
inductive Step (pool : Pool) : Pool → Prop where
  | turn {number : Nat} {next : Schedule} (moved : pool.schedule.step? number = some next) :
      Step pool (pool.turned number next)
  | others {pushed : List String} {next : Schedule}
      (otherStep : OtherStep pool.schedule pushed next) :
      Step pool { pool.become next with accepted := pool.accepted ++ pushed }

/-- A pool that is about to be opened in a schedule without other tasks. -/
def opened (pipeline : Pipeline) (signals : List Signal) (tag signal : String) (workers : Nat) :
    Pool :=
  let schedule : Schedule := ⟨pipeline, [], signals, [], []⟩
  { schedule := schedule.start tag signal (.opening workers)
    signal
    accepted := pipeline.inbox.queue.order
    taken := []
    counted := []
    wasCancelled := schedule.isCancelled signal }

/-- What can become of a pool of workers with a new gate, an inbox in any state and
collaborators that answer. -/
inductive Reachable (workers maxConcurrency waitLimit : Nat) : Pool → Prop where
  | start (pipeline : Pipeline) (signals : List Signal) (tag signal : String)
      (built : Gate.build? maxConcurrency waitLimit = some pipeline.gate)
      (returning : pipeline.collaborators.Return) :
      Reachable workers maxConcurrency waitLimit (opened pipeline signals tag signal workers)
  | step {pool next : Pool} (reached : Reachable workers maxConcurrency waitLimit pool)
      (taken : Step pool next) : Reachable workers maxConcurrency waitLimit next

variable {pool : Pool} {pushed : List String} {next : Schedule} {capacity : Nat}

theorem observed_become (pool : Pool) (schedule : Schedule) :
    schedule.isCancelled pool.signal = true → (pool.become schedule).wasCancelled = true := by
  intro reads
  exact Bool.or_eq_true_iff.2 (.inr reads)

theorem kept_become (pool : Pool) (schedule : Schedule) :
    pool.wasCancelled = true → (pool.become schedule).wasCancelled = true := by
  intro was
  exact Bool.or_eq_true_iff.2 (.inl was)

/-! ## Additions -/

section Additions

variable {more : List Task} {schedule : Schedule}

/-- A new task of others is no worker and holds no slot. -/
def IsNewcomer (task : Task) : Prop :=
  task.activity = .acquiring .arriving ∨
    ∃ number id, task.activity = .reprocessing (.new number id)

/-- A schedule that differs in the pipeline, the signals, the slots held and by newcomers is an
addition to the books. -/
theorem Addition.of_become (capacity : schedule.pipeline.gate.capacity = pool.gate.capacity)
    (spare : schedule.pipeline.gate.tally.spare + schedule.held.length =
      pool.gate.tally.spare + pool.schedule.held.length)
    (order : schedule.pipeline.inbox.queue.order = pool.queue.order ++ pushed)
    (closed : pool.queue.isClosed = true →
      schedule.pipeline.inbox.queue.isClosed = true ∧ pushed = [])
    (tasks : schedule.tasks = pool.schedule.tasks ++ more)
    (newcomers : ∀ task ∈ more, IsNewcomer task) :
    Addition pushed more pool
      { pool.become schedule with accepted := pool.accepted ++ pushed } := by
  refine ⟨capacity, spare, order, closed, tasks, rfl, rfl, rfl, rfl, ?_, ?_, ?_,
    observed_become pool schedule, kept_become pool schedule⟩
  · intro task member
    rcases newcomers task member with arrives | ⟨number, id, requests⟩
    · rw [arrives]
      exact ⟨rfl, rfl⟩
    · rw [requests]
      exact ⟨rfl, rfl⟩
  · intro task member worker is
    rcases newcomers task member with arrives | ⟨number, id, requests⟩
    · rw [arrives] at is
      cases is
    · rw [requests] at is
      cases is
  · intro task member
    unfold IsMember
    rcases newcomers task member with arrives | ⟨number, id, requests⟩
    · rw [arrives]
      trivial
    · rw [requests]
      trivial

theorem Addition.of_spends
    (spends : pool.schedule.pipeline.Spends pool.schedule.held.length schedule.pipeline
      schedule.held.length none)
    (tasks : schedule.tasks = pool.schedule.tasks ++ more)
    (newcomers : ∀ task ∈ more, IsNewcomer task) :
    Addition [] more pool { pool.become schedule with accepted := pool.accepted ++ [] } := by
  refine .of_become spends.capacity spends.spare ?_ ?_ tasks newcomers
  · rw [List.append_nil]
    exact spends.order.symm
  · intro isClosed
    exact ⟨spends.isClosed.trans isClosed, rfl⟩

end Additions

/-! ## The forms of what others do -/

theorem setSignal_frame (schedule : Schedule) (changed : Signal) :
    (schedule.setSignal changed).tasks = schedule.tasks ∧
      (schedule.setSignal changed).results = schedule.results ∧
      (schedule.setSignal changed).held = schedule.held ∧
      (schedule.setSignal changed).pipeline = { schedule.pipeline with
        ready := (schedule.setSignal changed).pipeline.ready } := by
  unfold Schedule.setSignal
  split
  · exact ⟨rfl, rfl, rfl, rfl⟩
  · exact ⟨rfl, rfl, rfl, Pipeline.wakeAll_eq _ _⟩

theorem addition_of_setSignal (pool : Pool) (changed : Signal) :
    Addition [] [] pool
      { pool.become (pool.schedule.setSignal changed) with accepted := pool.accepted ++ [] } := by
  obtain ⟨tasks, _, held, pipeline⟩ := setSignal_frame pool.schedule changed
  refine .of_spends ?_ ?_ fun _ impossible => ?_
  · rw [held]
    exact Pipeline.Spends.of_ready pipeline _
  · rw [tasks, List.append_nil]
  · cases impossible

theorem addition_of_start (pool : Pool) (tag signal : String) {activity : Activity}
    (newcomer : IsNewcomer ⟨tag, signal, activity⟩) :
    Addition [] [⟨tag, signal, activity⟩] pool
      { pool.become (pool.schedule.start tag signal activity) with
        accepted := pool.accepted ++ [] } := by
  refine .of_spends (Pipeline.Spends.of_ready ?_ _) rfl ?_
  · exact Pipeline.wakeAll_eq pool.schedule.pipeline [pool.schedule.tasks.length]
  · intro task member
    rw [List.mem_singleton.1 member]
    exact newcomer

theorem push_of_isClosed {queue : Queue} (isClosed : queue.isClosed = true) (id : String) :
    queue.push id = (false, queue) := by
  unfold Queue.push
  rw [isClosed]
  rfl

theorem push_frame (pipeline : Pipeline) (id : String) :
    (pipeline.push id).2 = { pipeline with
      inbox := (pipeline.push id).2.inbox, ready := (pipeline.push id).2.ready } := by
  unfold Pipeline.push
  dsimp only
  rw [Pipeline.wakeNext_eq]

theorem closeQueue_frame (pipeline : Pipeline) :
    pipeline.closeQueue = { pipeline with
      inbox := ⟨pipeline.inbox.queue.close, pipeline.inbox.notify.notifyWaiters.2⟩
      ready := pipeline.closeQueue.ready } := by
  unfold Pipeline.closeQueue
  dsimp only
  rw [Pipeline.wakeAll_eq]
  rfl

theorem addition_of_push (pool : Pool) (id : String) :
    Addition (if (pool.schedule.pipeline.push id).1 then [id] else []) [] pool
      { pool.become { pool.schedule with pipeline := (pool.schedule.pipeline.push id).2 } with
        accepted := pool.accepted ++
          if (pool.schedule.pipeline.push id).1 then [id] else [] } := by
  obtain ⟨taken, queue⟩ := pool.schedule.pipeline.push_queue id
  have frame := push_frame pool.schedule.pipeline id
  have order := pool.schedule.pipeline.inbox.queue.order_push id
  refine .of_become ?_ ?_ ?_ ?_ (List.append_nil _).symm fun _ impossible => ?_
  · exact congrArg (fun after => after.gate.capacity) frame
  · exact congrArg (fun after => after.gate.tally.spare + pool.schedule.held.length) frame
  · change (pool.schedule.pipeline.push id).2.inbox.queue.order = _
    rw [queue, order, taken]
    cases (pool.schedule.pipeline.inbox.queue.push id).1 with
    | true => rfl
    | false => exact (List.append_nil _).symm
  · intro isClosed
    change (pool.schedule.pipeline.push id).2.inbox.queue.isClosed = true ∧ _
    have refused : pool.schedule.pipeline.inbox.queue.push id = (false, pool.queue) :=
      push_of_isClosed isClosed id
    rw [queue, taken, refused]
    exact ⟨isClosed, rfl⟩
  · cases impossible

theorem addition_of_closeQueue (pool : Pool) :
    Addition [] [] pool
      { pool.become { pool.schedule with pipeline := pool.schedule.pipeline.closeQueue } with
        accepted := pool.accepted ++ [] } := by
  have frame := closeQueue_frame pool.schedule.pipeline
  refine .of_become ?_ ?_ ?_ ?_ (List.append_nil _).symm fun _ impossible => ?_
  · exact congrArg (fun after => after.gate.capacity) frame
  · exact congrArg (fun after => after.gate.tally.spare + pool.schedule.held.length) frame
  · rw [List.append_nil]
    exact congrArg (fun after => after.inbox.queue.order) frame
  · intro isClosed
    exact ⟨congrArg (fun after => after.inbox.queue.isClosed) frame, rfl⟩
  · cases impossible

theorem spends_of_closeGate (pipeline : Pipeline) (held : Nat) :
    pipeline.Spends held pipeline.closeGate held none := by
  have frame : pipeline.closeGate = { pipeline with
      gate := pipeline.gate.close.2, ready := pipeline.closeGate.ready } := by
    unfold Pipeline.closeGate
    dsimp only
    rw [Pipeline.wakeAll_eq]
  refine ⟨?_, ?_, ?_, ?_, ?_⟩
  · rw [frame]
  · rw [frame]
    rfl
  · rw [frame]
    rfl
  · rw [frame]
    rfl
  · rw [frame]

/-- A slot that is given back under a tag is held no more. -/
theorem spends_of_release (schedule : Schedule) (tag : String) :
    schedule.pipeline.Spends schedule.held.length (schedule.release tag).2.pipeline
        (schedule.release tag).2.held.length none ∧
      (schedule.release tag).2.tasks = schedule.tasks ∧
      (schedule.release tag).2.results = schedule.results := by
  unfold Schedule.release
  split
  · rename_i holds
    have member : tag ∈ schedule.held := List.contains_iff_mem.1 holds
    have positive : 0 < schedule.held.length := List.length_pos_of_mem member
    have fewer : schedule.held.length = (schedule.held.erase tag).length + 1 := by
      rw [List.length_erase_of_mem member]
      omega
    have still : schedule.pipeline.Spends schedule.held.length schedule.pipeline
        ((schedule.held.erase tag).length + 1) none := by
      rw [← fewer]
      exact Pipeline.Spends.of_ready rfl _
    exact ⟨still.release, rfl, rfl⟩
  · exact ⟨Pipeline.Spends.of_ready rfl _, rfl, rfl⟩

/-- Whatever else changes with the pipeline is nothing to the books. -/
theorem addition_of_change {changed : Pipeline}
    (sameGate : changed.gate = pool.schedule.pipeline.gate)
    (sameQueue : changed.inbox.queue = pool.schedule.pipeline.inbox.queue) :
    Addition [] [] pool
      { pool.become { pool.schedule with pipeline := changed } with
        accepted := pool.accepted ++ [] } := by
  refine .of_become ?_ ?_ ?_ ?_ (List.append_nil _).symm fun _ impossible => ?_
  · rw [sameGate]
    rfl
  · rw [sameGate]
    rfl
  · rw [sameQueue, List.append_nil]
    rfl
  · intro isClosed
    rw [sameQueue]
    exact ⟨isClosed, rfl⟩
  · cases impossible

theorem addition_of_otherStep
    (otherStep : OtherStep pool.schedule pushed next) :
    ∃ more, Addition pushed more pool
        { pool.become next with accepted := pool.accepted ++ pushed } ∧
      (∀ task ∈ more, task.activity.workers = 0) ∧
      next.results = pool.schedule.results := by
  have nobody : ∀ {P : Task → Prop}, ∀ task ∈ ([] : List Task), P task := by
    intro P task impossible
    cases impossible
  cases otherStep with
  | push id => exact ⟨[], addition_of_push pool id, nobody, rfl⟩
  | closeQueue => exact ⟨[], addition_of_closeQueue pool, nobody, rfl⟩
  | closeGate =>
      exact ⟨[], .of_spends (spends_of_closeGate _ _) (List.append_nil _).symm nobody,
        nobody, rfl⟩
  | send name isCancelled =>
      exact ⟨[], addition_of_setSignal pool _, nobody, (setSignal_frame _ _).2.1⟩
  | drop name =>
      exact ⟨[], addition_of_setSignal pool _, nobody, (setSignal_frame _ _).2.1⟩
  | acquire tag signal =>
      refine ⟨_, addition_of_start pool tag signal (.inl rfl), ?_, rfl⟩
      intro task member
      rw [List.mem_singleton.1 member]
      rfl
  | request tag signal id =>
      refine ⟨_, addition_of_start pool tag signal (.inr ⟨_, id, rfl⟩), ?_, rfl⟩
      intro task member
      rw [List.mem_singleton.1 member]
      rfl
  | release tag =>
      obtain ⟨spends, tasks, results⟩ := spends_of_release pool.schedule tag
      refine ⟨[], .of_spends spends ?_ nobody, nobody, results⟩
      rw [tasks, List.append_nil]
  | change changed sameGate sameQueue _ =>
      exact ⟨[], addition_of_change sameGate sameQueue, nobody, rfl⟩

end Pool

theorem OtherStep.collaborators {schedule next : Schedule} {pushed : List String}
    (otherStep : OtherStep schedule pushed next) :
    next.pipeline.collaborators = schedule.pipeline.collaborators ∨
      next.pipeline.collaborators.Return := by
  cases otherStep with
  | push id =>
      have kept := congrArg Pipeline.collaborators (Pool.push_frame schedule.pipeline id)
      exact .inl kept
  | closeQueue =>
      have kept := congrArg Pipeline.collaborators (Pool.closeQueue_frame schedule.pipeline)
      exact .inl kept
  | closeGate => exact .inl (Pool.spends_of_closeGate schedule.pipeline 0).collaborators
  | send name isCancelled =>
      have frame := (Pool.setSignal_frame schedule ⟨name, isCancelled, false⟩).2.2.2
      have kept := congrArg Pipeline.collaborators frame
      exact .inl kept
  | drop name =>
      have frame := (Pool.setSignal_frame schedule ⟨name, schedule.isCancelled name, true⟩).2.2.2
      have kept := congrArg Pipeline.collaborators frame
      exact .inl kept
  | acquire tag signal =>
      have frame := schedule.pipeline.wakeAll_eq [schedule.tasks.length]
      have kept := congrArg Pipeline.collaborators frame
      exact .inl kept
  | request tag signal id =>
      have frame := schedule.pipeline.wakeAll_eq [schedule.tasks.length]
      have kept := congrArg Pipeline.collaborators frame
      exact .inl kept
  | release tag => exact .inl (Pool.spends_of_release schedule tag).1.collaborators
  | change changed sameGate sameQueue returning => exact .inr returning

end PolicyWatch.Reprocess

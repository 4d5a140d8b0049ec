import PolicyWatch.Proofs.Pool.Departure

/-!
# Workers that crash

A collaborator that crashes brings down the worker that called it.  To the workers that survive, a
pool in which others crash is a pool that becomes smaller.  Main statements: a crash is to them a
departure, and every other turn is one of their pool.
-/

namespace PolicyWatch.Reprocess

/-- A pool with the book of the workers that crashed: the number of each and the ID over which it
crashed, in order. -/
structure CrashingPool where
  pool : Pool
  crashed : List (Nat × String)

namespace CrashingPool

open Pool

/-! ## Those that stand -/

/-- Whether a worker is none of those that crashed. -/
def survives (crashed : List (Nat × String)) (number : Nat) : Bool :=
  crashed.all (·.1 != number)

theorem survives_iff {crashed : List (Nat × String)} {number : Nat} :
    survives crashed number = true ↔ number ∉ crashed.map Prod.fst := by
  unfold survives
  rw [List.all_eq_true, List.mem_map]
  constructor
  · rintro others ⟨entry, member, same⟩
    exact bne_iff_ne.1 (others entry member) same
  · intro apart entry member
    exact bne_iff_ne.2 fun same => apart ⟨entry, member, same⟩

section Books

variable {α : Type} {crashed : List (Nat × String)} {number : Nat}

/-- The entries of workers that survive. -/
def kept (crashed : List (Nat × String)) (book : List (Nat × α)) : List (Nat × α) :=
  book.filter fun entry => survives crashed entry.1

/-- The entries of workers that crashed. -/
def forfeited (crashed : List (Nat × String)) (book : List (Nat × α)) : List (Nat × α) :=
  book.filter fun entry => !survives crashed entry.1

/-- When another worker crashes, its entries go. -/
theorem kept_snoc (crashed : List (Nat × String)) (number : Nat) (id : String)
    (book : List (Nat × α)) :
    kept (crashed ++ [(number, id)]) book = without number (kept crashed book) := by
  unfold kept without
  rw [List.filter_filter]
  refine List.filter_congr fun entry _ => ?_
  unfold survives
  rw [List.all_append, List.all_cons, List.all_nil, Bool.and_true, Bool.and_comm, bne_comm]

theorem kept_append (surviving : survives crashed number = true) (book : List (Nat × α))
    (entries : List α) :
    kept crashed (book ++ entries.map (number, ·)) =
      kept crashed book ++ entries.map (number, ·) := by
  unfold kept
  rw [List.filter_append]
  congr 1
  refine List.filter_eq_self.2 fun entry member => ?_
  obtain ⟨_, _, rfl⟩ := List.mem_map.1 member
  exact surviving

theorem entriesOf_kept (surviving : survives crashed number = true) (book : List (Nat × α)) :
    entriesOf number (kept crashed book) = entriesOf number book := by
  unfold entriesOf kept
  rw [List.filter_filter]
  congr 1
  refine List.filter_congr fun entry _ => ?_
  by_cases same : entry.1 = number
  · rw [same, surviving, Bool.and_true]
  · rw [beq_eq_false_iff_ne.2 same, Bool.false_and]

theorem kept_perm (crashed : List (Nat × String)) (book : List (Nat × α)) :
    (book.map Prod.snd).Perm
      ((kept crashed book).map Prod.snd ++ (forfeited crashed book).map Prod.snd) := by
  unfold kept forfeited
  rw [← List.map_append]
  exact (List.filter_append_perm _ book).symm.map _

theorem forfeited_cons_perm {rest : List (Nat × String)} (surviving : survives rest number = true)
    (id : String) (book : List (Nat × α)) :
    ((forfeited ((number, id) :: rest) book).map Prod.snd).Perm
      ((forfeited rest book).map Prod.snd ++ entriesOf number book) := by
  have crashes : ∀ other, survives ((number, id) :: rest) other =
      (number != other && survives rest other) := fun _ => rfl
  have others : without number (forfeited ((number, id) :: rest) book) = forfeited rest book := by
    unfold without forfeited
    rw [List.filter_filter]
    refine List.filter_congr fun entry _ => ?_
    rw [crashes, bne_comm]
    by_cases same : number = entry.1
    · rw [← same, surviving, bne_self_eq_false]
      rfl
    · rw [bne_iff_ne.2 same, Bool.true_and, Bool.true_and]
  have own : entriesOf number (forfeited ((number, id) :: rest) book) =
      entriesOf number book := by
    unfold entriesOf forfeited
    rw [List.filter_filter]
    congr 1
    refine List.filter_congr fun entry _ => ?_
    rw [crashes]
    by_cases same : number = entry.1
    · rw [← same, bne_self_eq_false, Bool.false_and, Bool.not_false, Bool.and_true]
    · rw [beq_eq_false_iff_ne.2 (Ne.symm same), Bool.false_and]
  have split := perm_without number (forfeited ((number, id) :: rest) book)
  rwa [others, own] at split

/-- Those that crashed have counted all that they took but for the IDs over which they did. -/
theorem forfeited_perm {taken : List (Nat × String)} {counted : List (Nat × String × α)}
    (once : (crashed.map Prod.fst).Nodup)
    (lost : ∀ entry ∈ crashed, entriesOf entry.1 taken =
      (entriesOf entry.1 counted).map Prod.fst ++ [entry.2]) :
    ((forfeited crashed taken).map Prod.snd).Perm
      (((forfeited crashed counted).map Prod.snd).map Prod.fst ++ crashed.map Prod.snd) := by
  induction crashed with
  | nil =>
      have none : ∀ {β : Type} (book : List (Nat × β)), forfeited [] book = [] :=
        fun book => List.filter_eq_nil_iff.2 fun _ _ impossible => Bool.noConfusion impossible
      rw [none, none]
      exact .refl _
  | cons first rest ih =>
      obtain ⟨number, id⟩ := first
      obtain ⟨isNew, restOnce⟩ := List.nodup_cons.1 once
      have surviving := survives_iff.2 isNew
      have others := ih restOnce fun entry member => lost entry (List.mem_cons_of_mem _ member)
      have took := forfeited_cons_perm surviving id taken
      have did := (forfeited_cons_perm surviving id counted).map Prod.fst
      have own : entriesOf number taken = (entriesOf number counted).map Prod.fst ++ [id] :=
        lost (number, id) List.mem_cons_self
      rw [own] at took
      rw [List.map_append] at did
      refine List.perm_iff_count.2 fun other => ?_
      have took := took.count_eq other
      have did := did.count_eq other
      have others := others.count_eq other
      simp only [List.count_append, List.map_cons, List.count_cons, List.count_nil]
        at took did others ⊢
      omega

end Books

/-- The pool to the workers that survive: without the entries of the others in its books.  When all
have crashed nobody drains the queue any more, as if they were cancelled. -/
def survivors (workers : Nat) (system : CrashingPool) : Pool :=
  { system.pool with
    accepted := (kept system.crashed system.pool.taken).map Prod.snd ++ system.pool.queue.order
    taken := kept system.crashed system.pool.taken
    counted := kept system.crashed system.pool.counted
    wasCancelled :=
      system.pool.wasCancelled || decide (workersFor workers ≤ system.crashed.length) }

/-! ## Steps -/

/-- The pool when a task has taken its turn, in which a worker may have crashed. -/
def turned (system : CrashingPool) (number : Nat) (schedule : Schedule) : CrashingPool :=
  ⟨system.pool.turned number schedule, system.crashed ++ system.pool.schedule.crashes number⟩

/-- One step of anybody: a task takes its turn, or others do something.  The collaborators may
become such as crash. -/
inductive Step (system : CrashingPool) : CrashingPool → Prop where
  | turn {number : Nat} {next : Schedule} (moved : system.pool.schedule.step? number = some next) :
      Step system (system.turned number next)
  | others {pushed : List String} {next : Schedule}
      (otherStep : OtherStep system.pool.schedule pushed next) :
      Step system { system with
        pool := { system.pool.become next with accepted := system.pool.accepted ++ pushed } }
  | change (changed : Pipeline) (sameGate : changed.gate = system.pool.schedule.pipeline.gate)
      (sameQueue : changed.inbox.queue = system.pool.schedule.pipeline.inbox.queue) :
      Step system { system with
        pool := system.pool.become { system.pool.schedule with pipeline := changed } }

/-- What can become of a pool of workers with a new gate, an inbox in any state and any
collaborators. -/
inductive Reachable (workers maxConcurrency waitLimit : Nat) : CrashingPool → Prop where
  | start (pipeline : Pipeline) (signals : List Signal) (tag signal : String)
      (built : Gate.build? maxConcurrency waitLimit = some pipeline.gate) :
      Reachable workers maxConcurrency waitLimit ⟨opened pipeline signals tag signal workers, []⟩
  | step {system next : CrashingPool} (reached : Reachable workers maxConcurrency waitLimit system)
      (taken : Step system next) : Reachable workers maxConcurrency waitLimit next

variable {system : CrashingPool} {next : Schedule} {number workers capacity : Nat}

/-! ## What a crash is -/

/-- What a turn is in which a worker crashes over an ID: its slot is given back and its counts
are lost. -/
structure Crash (number : Nat) (tag : String) (worker : Worker) (id : String) (pool : Pool)
    (idle next : Schedule) : Prop where
  here : pool.schedule.tasks[number]? = some ⟨tag, pool.signal, .working 0 worker⟩
  current : worker.current? = some id
  crashes : pool.schedule.crashes number = [(number, id)]
  takes : pool.schedule.takes number = []
  counts : pool.schedule.counts number = []
  tasks : idle.tasks = pool.schedule.tasks.set number ⟨tag, pool.signal, .done⟩
  results : idle.results = pool.schedule.results
  spends : pool.schedule.pipeline.Spends (worker.slots + pool.schedule.held.length)
    idle.pipeline idle.held.length none
  left : next = idle.joinWorker 0 none

theorem crashes_first {pool : Pool} (supervisor : Supervisor workers pool) :
    pool.schedule.crashes 0 = [] := by
  unfold Schedule.crashes
  cases supervisor with
  | opening first => rw [first]
  | supervising first => rw [first]
  | done first => rw [first]

theorem exists_crash {pool : Pool}
    (members : ∀ task, pool.schedule.tasks[number]? = some task → IsMember pool.signal task)
    (crashes : pool.schedule.crashes number ≠ []) (moved : pool.schedule.step? number = some next) :
    ∃ tag worker id idle, Crash number tag worker id pool idle next := by
  unfold Schedule.crashes at crashes
  split at crashes
  · rename_i tag signal supervisor worker here
    obtain ⟨rfl, rfl⟩ := members _ here
    unfold Schedule.step? at moved
    rw [here] at moved
    dsimp only at moved
    split at moved
    · cases moved
    · rename_i later changed stepped
      have stays :=
        (Worker.Transition.of_step? stepped).crashes?_of_stays (fun same => by cases same)
      rw [stays] at crashes
      exact absurd rfl crashes
    · rename_i ending changed stepped
      have transition := Worker.Transition.of_step? stepped
      cases ending with
      | some summary =>
          rw [transition.crashes?_of_stays (fun same => by cases same)] at crashes
          exact absurd rfl crashes
      | none =>
          obtain ⟨id, current, hasCrashed, noTake, noCount⟩ := transition.of_crashed
          cases moved
          have spends := transition.spends.add pool.schedule.held.length
          rw [noTake, Worker.slotsAfter, Nat.zero_add] at spends
          refine ⟨tag, worker, id, { pool.schedule with pipeline := changed }.turnTo number _ .done,
            here, current, ?_, ?_, ?_, rfl, rfl, spends, rfl⟩
          · unfold Schedule.crashes
            rw [here]
            dsimp only
            rw [hasCrashed]
            rfl
          · unfold Schedule.takes
            rw [here]
            dsimp only
            rw [noTake]
            rfl
          · unfold Schedule.counts
            rw [here]
            dsimp only
            rw [noCount]
            rfl
  · exact absurd rfl crashes

/-- To the others, a worker that crashes leaves and takes its books along. -/
theorem Crash.departure {tag : String} {worker : Worker} {id : String} {idle : Schedule}
    (crash : Crash number tag worker id system.pool idle next) :
    Departure number tag worker (system.survivors workers)
      (survivors workers ⟨system.pool.turned number idle, system.crashed ++ [(number, id)]⟩) := by
  refine ⟨crash.here, crash.tasks, crash.results, rfl, rfl, ?_, ?_, crash.spends, ?_, ?_⟩
  · change kept _ (system.pool.taken ++ system.pool.schedule.takes number) = _
    rw [crash.takes, List.append_nil, kept_snoc]
    rfl
  · change kept _ (system.pool.counted ++ system.pool.schedule.counts number) = _
    rw [crash.counts, List.append_nil, kept_snoc]
    rfl
  · intro reads
    exact Bool.or_eq_true_iff.2 (.inl (observed_become system.pool idle reads))
  · intro was
    rcases Bool.or_eq_true_iff.1 was with cancelled | nobody
    · exact Bool.or_eq_true_iff.2 (.inl (kept_become system.pool idle cancelled))
    · refine Bool.or_eq_true_iff.2 (.inr (decide_eq_true ?_))
      rw [List.length_append]
      exact Nat.le_add_right_of_le (of_decide_eq_true nobody)

/-- A turn in which no worker crashes is one of the pool of those that survive. -/
theorem survivors_turned (surviving : survives system.crashed number = true)
    (order : system.pool.queue.order =
      (system.pool.schedule.takes number).map Prod.snd ++ next.pipeline.inbox.queue.order) :
    survivors workers { system with pool := system.pool.turned number next } =
      (system.survivors workers).turned number next := by
  obtain ⟨ids, takes⟩ := system.pool.schedule.exists_takes number
  obtain ⟨entries, counts⟩ := system.pool.schedule.exists_counts number
  have taken : kept system.crashed (system.pool.taken ++ system.pool.schedule.takes number) =
      kept system.crashed system.pool.taken ++ system.pool.schedule.takes number := by
    rw [takes, kept_append surviving]
  have counted : kept system.crashed (system.pool.counted ++ system.pool.schedule.counts number) =
      kept system.crashed system.pool.counted ++ system.pool.schedule.counts number := by
    rw [counts, kept_append surviving]
  unfold queue at order
  unfold survivors Pool.turned become queue
  dsimp only
  rw [taken, counted, order, List.map_append, List.append_assoc, Bool.or_right_comm]

end CrashingPool

end PolicyWatch.Reprocess

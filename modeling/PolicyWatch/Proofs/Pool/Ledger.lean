import PolicyWatch.Proofs.Pool.Tasks

/-!
# The ledger of a pool

Which IDs a pool of workers has accepted, taken and counted, and what holds of these
books together with the queue, the gate and the tasks.  Main statement: the books stay
right when one task takes its turn.
-/

namespace PolicyWatch.Reprocess

/-- A pool of workers, opened by the first task of a schedule, with the books that are kept
of it: the signal that it watches, the IDs that were ever in its queue, in order, those
that were taken and those that were counted, each with the number of the worker, in order,
and whether its signal has ever read cancelled. -/
structure Pool where
  schedule : Schedule
  signal : String
  accepted : List String
  taken : List (Nat × String)
  counted : List (Nat × String × Result)
  wasCancelled : Bool

namespace Pool

def queue (pool : Pool) : Queue := pool.schedule.pipeline.inbox.queue

def gate (pool : Pool) : Gate := pool.schedule.pipeline.gate

def entriesOf {α : Type} (number : Nat) (book : List (Nat × α)) : List α :=
  (book.filter (·.1 == number)).map Prod.snd

def takenBy (pool : Pool) (number : Nat) : List String := entriesOf number pool.taken

def countedBy (pool : Pool) (number : Nat) : List (String × Result) :=
  entriesOf number pool.counted

def done (pool : Pool) : List String := pool.counted.map fun entry => entry.2.1

def results (pool : Pool) : List Result := pool.counted.map fun entry => entry.2.2

/-- What may be a task next to the one that opened the pool. -/
def IsMember (signal : String) (task : Task) : Prop :=
  match task.activity with
  | .acquiring _ => True
  | .reprocessing _ => True
  | .working pool _ => pool = 0 ∧ task.signal = signal
  | .done => True
  | _ => False

theorem entriesOf_append {α : Type} (number worker : Nat) (book : List (Nat × α))
    (entries : List α) :
    entriesOf number (book ++ entries.map (worker, ·)) =
      entriesOf number book ++ if worker = number then entries else [] := by
  unfold entriesOf
  rw [List.filter_append, List.map_append, List.filter_map]
  congr 1
  by_cases same : worker = number
  · have all : (fun entry : Nat × α => entry.1 == number) ∘ (fun entry => (worker, entry)) =
        fun _ => true := by
      funext entry
      exact beq_iff_eq.2 same
    rw [if_pos same, all, List.filter_true, List.map_map]
    exact List.map_id _
  · have no : (fun entry : Nat × α => entry.1 == number) ∘ (fun entry => (worker, entry)) =
        fun _ => false := by
      funext entry
      exact beq_eq_false_iff_ne.2 same
    rw [if_neg same, no, List.filter_false]
    rfl

theorem entriesOf_cons {α : Type} (number : Nat) (first : Nat × α) (rest : List (Nat × α)) :
    entriesOf number (first :: rest) =
      if first.1 = number then first.2 :: entriesOf number rest else entriesOf number rest := by
  unfold entriesOf
  rw [List.filter_cons]
  by_cases same : first.1 = number
  · rw [if_pos (beq_iff_eq.2 same), if_pos same]
    rfl
  · rw [if_neg (mt beq_iff_eq.1 same), if_neg same]

theorem entriesOf_eq_nil {α : Type} {number : Nat} {book : List (Nat × α)}
    (absent : number ∉ book.map Prod.fst) :
    entriesOf number book = [] := by
  unfold entriesOf
  rw [List.map_eq_nil_iff, List.filter_eq_nil_iff]
  intro entry member same
  exact absent (List.mem_map.2 ⟨entry, member, beq_iff_eq.1 same⟩)

theorem entriesOf_of_mem {α : Type} {book : List (Nat × α)} (once : (book.map Prod.fst).Nodup)
    {entry : Nat × α} (member : entry ∈ book) : entriesOf entry.1 book = [entry.2] := by
  induction book with
  | nil => cases member
  | cons first rest ih =>
      obtain ⟨isNew, restOnce⟩ := List.nodup_cons.1 once
      rw [entriesOf_cons]
      rcases List.mem_cons.1 member with rfl | later
      · rw [if_pos rfl, entriesOf_eq_nil isNew]
      · have apart : first.1 ≠ entry.1 := by
          intro same
          exact isNew (List.mem_map.2 ⟨entry, later, same.symm⟩)
        rw [if_neg apart]
        exact ih restOnce later

/-! ## The ledger -/

/-- What holds of the books of a pool at any time. -/
structure Ledger (capacity : Nat) (pool : Pool) : Prop where
  capacity_eq : pool.gate.capacity = capacity
  spare_eq : pool.gate.tally.spare + sumOver Activity.slots pool.schedule.tasks +
    pool.schedule.held.length = capacity
  inOrder : pool.accepted = pool.taken.map Prod.snd ++ pool.queue.order
  share : ∀ number, pool.takenBy number =
    (pool.countedBy number).map Prod.fst ++ pool.schedule.current number
  summed : ∀ number worker, pool.schedule.worker? number = some worker →
    worker.summary = .ofResults ((pool.countedBy number).map Prod.snd)
  placed : ∀ id, (pool.taken.map Prod.snd).count id =
    pool.done.count id + sumOver (fun activity => activity.current.count id) pool.schedule.tasks
  members : ∀ number task, pool.schedule.tasks[number]? = some task → number ≠ 0 →
    IsMember pool.signal task
  observed : pool.schedule.isCancelled pool.signal = true → pool.wasCancelled = true

/-- What a turn of one task does to the books: it may take an ID and may count one. -/
structure Booking (number : Nat) (task : Task) (activity : Activity) (took? : Option String)
    (counted? : Option (String × Result)) (pool next : Pool) : Prop where
  here : pool.schedule.tasks[number]? = some task
  tasks : next.schedule.tasks = pool.schedule.tasks.set number { task with activity }
  signal : next.signal = pool.signal
  accepted : next.accepted = pool.accepted
  taken : next.taken = pool.taken ++ took?.toList.map (number, ·)
  counted : next.counted = pool.counted ++ counted?.toList.map (number, ·)
  spends : pool.schedule.pipeline.Spends (task.activity.slots + pool.schedule.held.length)
    next.schedule.pipeline (activity.slots + next.schedule.held.length) took?
  current : task.activity.current ++ took?.toList =
    counted?.toList.map Prod.fst ++ activity.current
  summary : ∀ worker, activity.worker? = some worker → ∃ before,
    task.activity.worker? = some before ∧
      worker.summary = (counted?.toList.map Prod.snd).foldl PoolSummary.record before.summary
  idle : task.activity.workers = 0 → counted? = none
  isMember : number ≠ 0 → IsMember pool.signal { task with activity }
  observed : next.schedule.isCancelled next.signal = true → next.wasCancelled = true
  kept : pool.wasCancelled = true → next.wasCancelled = true

namespace Booking

variable {number : Nat} {task : Task} {activity : Activity} {took? : Option String}
  {counted? : Option (String × Result)} {pool next : Pool}

section Lookups

variable (booking : Booking number task activity took? counted? pool next)

include booking

theorem getElem?_tasks (other : Nat) :
    next.schedule.tasks[other]? =
      if number = other then some { task with activity } else pool.schedule.tasks[other]? :=
  Schedule.getElem?_of_set booking.here booking.tasks other

theorem takenBy_eq (other : Nat) :
    next.takenBy other = pool.takenBy other ++ if number = other then took?.toList else [] := by
  unfold takenBy
  rw [booking.taken, entriesOf_append]

theorem countedBy_eq (other : Nat) :
    next.countedBy other =
      pool.countedBy other ++ if number = other then counted?.toList else [] := by
  unfold countedBy
  rw [booking.counted, entriesOf_append]

theorem done_eq : next.done = pool.done ++ counted?.toList.map Prod.fst := by
  unfold done
  rw [booking.counted, List.map_append, List.map_map]
  rfl

theorem results_eq : next.results = pool.results ++ counted?.toList.map Prod.snd := by
  unfold results
  rw [booking.counted, List.map_append, List.map_map]
  rfl

theorem current_eq (other : Nat) :
    next.schedule.current other =
      if number = other then activity.current else pool.schedule.current other :=
  Schedule.current_of_set booking.here booking.tasks other

theorem worker?_eq (other : Nat) :
    next.schedule.worker? other =
      if number = other then activity.worker? else pool.schedule.worker? other :=
  Schedule.worker?_of_set booking.here booking.tasks other

theorem sumOver_eq (measure : Activity → Nat) :
    sumOver measure next.schedule.tasks + measure task.activity =
      sumOver measure pool.schedule.tasks + measure activity := by
  rw [booking.tasks]
  exact sumOver_set measure booking.here _

end Lookups

section Books

variable {capacity : Nat} (booking : Booking number task activity took? counted? pool next)
  (books : Ledger capacity pool)

include booking books

theorem share (other : Nat) :
    next.takenBy other =
      (next.countedBy other).map Prod.fst ++ next.schedule.current other := by
  rw [booking.takenBy_eq, booking.countedBy_eq, booking.current_eq, List.map_append,
    books.share other]
  by_cases same : number = other
  · subst same
    have here : pool.schedule.current number = task.activity.current := by
      unfold Schedule.current
      rw [booking.here]
      rfl
    rw [if_pos rfl, if_pos rfl, if_pos rfl, here, List.append_assoc, List.append_assoc,
      booking.current]
  · rw [if_neg same, if_neg same, if_neg same, List.map_nil, List.append_nil, List.append_nil]

theorem summed (other : Nat) (worker : Worker) (is : next.schedule.worker? other = some worker) :
    worker.summary = .ofResults ((next.countedBy other).map Prod.snd) := by
  rw [booking.worker?_eq] at is
  rw [booking.countedBy_eq, List.map_append]
  by_cases same : number = other
  · subst same
    rw [if_pos rfl] at is ⊢
    obtain ⟨before, was, summary⟩ := booking.summary worker is
    have known : pool.schedule.worker? number = some before := by
      unfold Schedule.worker?
      rw [booking.here]
      exact was
    rw [summary, books.summed number before known, PoolSummary.ofResults,
      PoolSummary.ofResults, List.foldl_append]
  · rw [if_neg same] at is ⊢
    rw [List.map_nil, List.append_nil]
    exact books.summed other worker is

theorem placed (id : String) :
    (next.taken.map Prod.snd).count id = next.done.count id +
      sumOver (fun activity => activity.current.count id) next.schedule.tasks := by
  have before := books.placed id
  have sums := booking.sumOver_eq fun activity => activity.current.count id
  have moved := congrArg (List.count id) booking.current
  have took : (took?.toList.map (number, ·)).map Prod.snd = took?.toList := by
    rw [List.map_map]
    exact List.map_id _
  rw [List.count_append, List.count_append] at moved
  rw [booking.done_eq, booking.taken, List.map_append, took, List.count_append,
    List.count_append]
  omega

theorem members (other : Nat) (fellow : Task) (is : next.schedule.tasks[other]? = some fellow)
    (notFirst : other ≠ 0) : IsMember next.signal fellow := by
  rw [booking.getElem?_tasks] at is
  rw [booking.signal]
  by_cases same : number = other
  · rw [if_pos same] at is
    cases is
    exact booking.isMember (same ▸ notFirst)
  · rw [if_neg same] at is
    exact books.members other fellow is notFirst

/-- The books stay right when one task takes its turn. -/
theorem ledger : Ledger capacity next := by
  have spends := booking.spends
  refine ⟨spends.capacity.trans books.capacity_eq, ?_, ?_, booking.share books,
    booking.summed books, booking.placed books, booking.members books, booking.observed⟩
  · have slots := booking.sumOver_eq Activity.slots
    have spare := spends.spare
    have before := books.spare_eq
    unfold gate at before ⊢
    omega
  · have order : pool.queue.order = took?.toList ++ next.queue.order := spends.order
    rw [booking.accepted, books.inOrder, order, booking.taken, List.map_append,
      List.map_map, List.append_assoc]
    congr 2
    exact (List.map_id _).symm

end Books

end Booking

/-- What others do to the books of a pool: they may put IDs into the queue and start tasks. -/
structure Addition (pushed : List String) (more : List Task) (pool next : Pool) : Prop where
  capacity : next.gate.capacity = pool.gate.capacity
  spare : next.gate.tally.spare + next.schedule.held.length =
    pool.gate.tally.spare + pool.schedule.held.length
  order : next.queue.order = pool.queue.order ++ pushed
  closed : pool.queue.isClosed = true → next.queue.isClosed = true ∧ pushed = []
  tasks : next.schedule.tasks = pool.schedule.tasks ++ more
  signal : next.signal = pool.signal
  accepted : next.accepted = pool.accepted ++ pushed
  taken : next.taken = pool.taken
  counted : next.counted = pool.counted
  idle : ∀ task ∈ more, task.activity.slots = 0 ∧ task.activity.current = []
  summary : ∀ task ∈ more, ∀ worker, task.activity.worker? = some worker →
    worker.summary = .empty ∧ pool.counted = []
  members : ∀ task ∈ more, IsMember pool.signal task
  observed : next.schedule.isCancelled next.signal = true → next.wasCancelled = true
  kept : pool.wasCancelled = true → next.wasCancelled = true

namespace Addition

variable {pushed : List String} {more : List Task} {pool next : Pool}

theorem getElem?_tasks (addition : Addition pushed more pool next) {number : Nat} {task : Task}
    (here : next.schedule.tasks[number]? = some task) :
    pool.schedule.tasks[number]? = some task ∨
      pool.schedule.tasks[number]? = none ∧ task ∈ more := by
  rw [addition.tasks] at here
  by_cases inside : number < pool.schedule.tasks.length
  · rw [List.getElem?_append_left inside] at here
    exact .inl here
  · rw [List.getElem?_append_right (Nat.le_of_not_lt inside)] at here
    exact .inr ⟨List.getElem?_eq_none (Nat.le_of_not_lt inside), List.mem_of_getElem? here⟩

theorem current_eq (addition : Addition pushed more pool next) (number : Nat) :
    next.schedule.current number = pool.schedule.current number := by
  unfold Schedule.current
  rw [addition.tasks]
  by_cases inside : number < pool.schedule.tasks.length
  · rw [List.getElem?_append_left inside]
  · have outside := Nat.le_of_not_lt inside
    rw [List.getElem?_append_right outside, List.getElem?_eq_none outside]
    cases here : more[number - pool.schedule.tasks.length]? with
    | none => rfl
    | some task => exact (addition.idle task (List.mem_of_getElem? here)).2

/-- New tasks add nothing to a sum if they are none of the pool. -/
theorem sumOver_eq (addition : Addition pushed more pool next) (measure : Activity → Nat)
    (zero : ∀ task ∈ more, measure task.activity = 0) :
    sumOver measure next.schedule.tasks = sumOver measure pool.schedule.tasks := by
  rw [addition.tasks, sumOver_append, sumOver_eq_zero zero, Nat.add_zero]

/-- The books stay right whatever others do. -/
theorem ledger {capacity : Nat} (addition : Addition pushed more pool next)
    (ledger : Ledger capacity pool) : Ledger capacity next := by
  refine ⟨addition.capacity.trans ledger.capacity_eq, ?_, ?_, ?_, ?_, ?_, ?_,
    addition.observed⟩
  · have slots := addition.sumOver_eq Activity.slots fun task member =>
      (addition.idle task member).1
    have spare := addition.spare
    have before := ledger.spare_eq
    omega
  · rw [addition.accepted, addition.order, addition.taken, ledger.inOrder, List.append_assoc]
  · intro number
    rw [addition.current_eq, takenBy, countedBy, addition.taken, addition.counted]
    exact ledger.share number
  · intro number worker is
    obtain ⟨task, here, isWorker⟩ := Option.bind_eq_some_iff.1 is
    rw [countedBy, addition.counted]
    rcases addition.getElem?_tasks here with known | ⟨_, isNew⟩
    · apply ledger.summed number worker
      unfold Schedule.worker?
      rw [known]
      exact isWorker
    · obtain ⟨isEmpty, nothing⟩ := addition.summary task isNew worker isWorker
      rw [isEmpty, nothing]
      rfl
  · intro id
    have zero : ∀ task ∈ more, task.activity.current.count id = 0 :=
      fun task member => congrArg (List.count id) (addition.idle task member).2
    have sums := addition.sumOver_eq (fun activity => activity.current.count id) zero
    rw [addition.taken, done, addition.counted, sums]
    exact ledger.placed id
  · intro number task here notFirst
    rw [addition.signal]
    rcases addition.getElem?_tasks here with known | ⟨_, isNew⟩
    · exact ledger.members number task known notFirst
    · exact addition.members task isNew

end Addition

end Pool

end PolicyWatch.Reprocess

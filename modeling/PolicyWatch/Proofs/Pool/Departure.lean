import PolicyWatch.Proofs.Pool.Supervisor
import PolicyWatch.Proofs.Pool.Frame

/-!
# A worker that takes its books along

A worker may leave a pool without handing over what it has counted.  Main statement: the
pool of the others, with the books of the others, is as sound as the pool was before, but
for one worker less.
-/

namespace PolicyWatch.Reprocess

namespace Pool

variable {workers capacity : Nat} {pool rest : Pool} {number : Nat}

/-! ## Books without a worker -/

section Books

variable {α : Type}

def without (number : Nat) (book : List (Nat × α)) : List (Nat × α) :=
  book.filter (·.1 != number)

theorem perm_without (number : Nat) (book : List (Nat × α)) :
    (book.map Prod.snd).Perm
      ((without number book).map Prod.snd ++ entriesOf number book) := by
  unfold without entriesOf
  rw [← List.map_append]
  refine List.Perm.map _ (List.perm_append_comm.trans ?_).symm
  exact List.filter_append_perm (fun entry : Nat × α => entry.1 == number) book

theorem entriesOf_without (number other : Nat) (book : List (Nat × α)) :
    entriesOf other (without number book) =
      if number = other then [] else entriesOf other book := by
  unfold without entriesOf
  rw [List.filter_filter]
  by_cases same : number = other
  · rw [if_pos same, List.map_eq_nil_iff, List.filter_eq_nil_iff]
    rintro entry - keeps
    obtain ⟨is, isNot⟩ := Bool.and_eq_true_iff.1 keeps
    exact bne_iff_ne.1 isNot ((beq_iff_eq.1 is).trans same.symm)
  · rw [if_neg same]
    congr 1
    refine List.filter_congr fun entry _ => ?_
    by_cases is : entry.1 = other
    · have apart : (entry.1 != number) = true :=
        bne_iff_ne.2 fun isNumber => same (isNumber.symm.trans is)
      rw [apart, Bool.and_true]
    · rw [beq_eq_false_iff_ne.2 is, Bool.false_and]

end Books

/-! ## Leaving -/

/-- What it means that a worker leaves a pool and takes its books along. -/
structure Departure (number : Nat) (tag : String) (worker : Worker) (pool rest : Pool) :
    Prop where
  here : pool.schedule.tasks[number]? = some ⟨tag, pool.signal, .working 0 worker⟩
  tasks : rest.schedule.tasks = pool.schedule.tasks.set number ⟨tag, pool.signal, .done⟩
  results : rest.schedule.results = pool.schedule.results
  signal : rest.signal = pool.signal
  accepted : rest.accepted = rest.taken.map Prod.snd ++ rest.queue.order
  taken : rest.taken = without number pool.taken
  counted : rest.counted = without number pool.counted
  spends : pool.schedule.pipeline.Spends (worker.slots + pool.schedule.held.length)
    rest.schedule.pipeline rest.schedule.held.length none
  observed : rest.schedule.isCancelled rest.signal = true → rest.wasCancelled = true
  kept : pool.wasCancelled = true → rest.wasCancelled = true

namespace Departure

variable {tag : String} {worker : Worker} (departure : Departure number tag worker pool rest)

include departure

theorem takenBy_eq (other : Nat) :
    rest.takenBy other = if number = other then [] else pool.takenBy other := by
  unfold takenBy
  rw [departure.taken, entriesOf_without]

theorem countedBy_eq (other : Nat) :
    rest.countedBy other = if number = other then [] else pool.countedBy other := by
  unfold countedBy
  rw [departure.counted, entriesOf_without]

theorem sumOver_eq (measure : Activity → Nat) :
    sumOver measure rest.schedule.tasks + measure (.working 0 worker) =
      sumOver measure pool.schedule.tasks + measure .done := by
  rw [departure.tasks]
  exact sumOver_set measure departure.here _

theorem worker?_number : pool.schedule.worker? number = some worker := by
  unfold Schedule.worker?
  rw [departure.here]
  rfl

theorem current_number : pool.schedule.current number = worker.current?.toList := by
  unfold Schedule.current
  rw [departure.here]
  rfl

theorem results_perm :
    pool.results.Perm (rest.results ++ (pool.countedBy number).map Prod.snd) := by
  have split := (perm_without number pool.counted).map Prod.snd
  rw [← departure.counted, List.map_append, List.map_map, List.map_map] at split
  exact split

theorem done_perm : pool.done.Perm (rest.done ++ (pool.countedBy number).map Prod.fst) := by
  have split := (perm_without number pool.counted).map Prod.fst
  rw [← departure.counted, List.map_append, List.map_map, List.map_map] at split
  exact split

theorem placed (ledger : Ledger capacity pool) (id : String) :
    (rest.taken.map Prod.snd).count id = rest.done.count id +
      sumOver (fun activity => activity.current.count id) rest.schedule.tasks := by
  have before := ledger.placed id
  have own := congrArg (List.count id) (ledger.share number)
  have took := (perm_without number pool.taken).count_eq id
  have counted := departure.done_perm.count_eq id
  have sums : _ + worker.current?.toList.count id = _ + 0 :=
    departure.sumOver_eq fun activity => activity.current.count id
  rw [departure.current_number, List.count_append] at own
  rw [← departure.taken, List.count_append] at took
  rw [List.count_append] at counted
  unfold takenBy at own
  omega

theorem ledger (ledger : Ledger capacity pool) : Ledger capacity rest := by
  refine ⟨departure.spends.capacity.trans ledger.capacity_eq, ?_, departure.accepted, ?_, ?_,
    departure.placed ledger, ?_, departure.observed⟩
  · have slots : _ + worker.slots = _ + 0 := departure.sumOver_eq Activity.slots
    have spare := departure.spends.spare
    have before := ledger.spare_eq
    unfold gate at before ⊢
    omega
  · intro other
    rw [departure.takenBy_eq, departure.countedBy_eq,
      Schedule.current_of_set departure.here departure.tasks]
    by_cases same : number = other
    · rw [if_pos same, if_pos same, if_pos same]
      rfl
    · rw [if_neg same, if_neg same, if_neg same]
      exact ledger.share other
  · intro other fellow is
    rw [Schedule.worker?_of_set departure.here departure.tasks] at is
    rw [departure.countedBy_eq]
    by_cases same : number = other
    · rw [if_pos same] at is
      cases is
    · rw [if_neg same] at is ⊢
      exact ledger.summed other fellow is
  · intro other fellow is notFirst
    rw [Schedule.getElem?_of_set departure.here departure.tasks] at is
    rw [departure.signal]
    by_cases same : number = other
    · rw [if_pos same] at is
      cases is
      trivial
    · rw [if_neg same] at is
      exact ledger.members other fellow is notFirst

theorem isDrained (drained : pool.IsDrained) : rest.IsDrained := by
  rcases drained with was | ⟨isClosed, isEmpty⟩
  · exact .inl (departure.kept was)
  · have order : pool.queue.order = rest.queue.order := departure.spends.order
    exact .inr ⟨departure.spends.isClosed.trans isClosed, order.symm.trans isEmpty⟩

/-- What is counted but by that worker is counted still. -/
theorem sums (ledger : Ledger capacity pool) {bucket : PoolSummary → Nat}
    (isBucket : PoolSummary.IsBucket bucket) {total : Nat}
    (before : total + sumOver (fun activity => bucket activity.summary) pool.schedule.tasks =
      bucket (.ofResults pool.results)) :
    total + sumOver (fun activity => bucket activity.summary) rest.schedule.tasks =
      bucket (.ofResults rest.results) := by
  have change : _ + bucket worker.summary = _ + bucket .empty :=
    departure.sumOver_eq fun activity => bucket activity.summary
  rw [isBucket.ofResults_perm departure.results_perm, isBucket.ofResults_append,
    ← ledger.summed number worker departure.worker?_number] at before
  rw [isBucket.empty] at change
  omega

end Departure

/-- A worker that leaves changes only what the task does that opened the pool. -/
theorem joinWorker_frame (schedule : Schedule) (ending : WorkerEnd) :
    (schedule.joinWorker 0 ending).pipeline = schedule.pipeline ∧
      (schedule.joinWorker 0 ending).signals = schedule.signals := by
  unfold Schedule.joinWorker
  split
  · dsimp only
    split <;> exact ⟨rfl, rfl⟩
  · exact ⟨rfl, rfl⟩

/-- When a worker leaves without its counts, the pool reports what the others have handed over
if it was the last. -/
theorem dismiss_last {tag : String} {count : Nat} {total : PoolSummary} (isLast : count ≤ 1)
    (first : rest.schedule.tasks[0]? = some ⟨tag, rest.signal, .supervising count total⟩) :
    { rest with schedule := rest.schedule.joinWorker 0 none } =
      rest.moveFirst tag .done ((tag, .supervised total) :: rest.schedule.results) := by
  unfold Schedule.joinWorker
  rw [first]
  dsimp only
  rw [if_pos isLast]
  rfl

theorem dismiss_others {tag : String} {count : Nat} {total : PoolSummary} (isNotLast : ¬count ≤ 1)
    (first : rest.schedule.tasks[0]? = some ⟨tag, rest.signal, .supervising count total⟩) :
    { rest with schedule := rest.schedule.joinWorker 0 none } =
      rest.moveFirst tag (.supervising (count - 1) total) rest.schedule.results := by
  unfold Schedule.joinWorker
  rw [first]
  dsimp only
  rw [if_neg isNotLast]
  rfl

theorem Sound.depart (sound : Sound workers capacity pool) {tag : String} {worker : Worker}
    (departure : Departure number tag worker pool rest)
    (alone : workers ≤ 1 → rest.wasCancelled = true) :
    Sound (workers - 1) capacity { rest with schedule := rest.schedule.joinWorker 0 none } := by
  have ledger := departure.ledger sound.ledger
  have left : _ + 1 = _ + 0 := departure.sumOver_eq Activity.workers
  cases sound.supervisor with
  | opening _ nobody => omega
  | done _ nobody => omega
  | @supervising supervisorTag count total first present positive few drained sums unreported =>
      have notFirst : number ≠ 0 := by
        rintro rfl
        cases departure.here.symm.trans first
      have supervises : rest.schedule.tasks[0]? =
          some ⟨supervisorTag, rest.signal, .supervising count total⟩ := by
        rw [Schedule.getElem?_of_set departure.here departure.tasks, if_neg notFirst,
          departure.signal]
        exact first
      have others : ∀ bucket, PoolSummary.IsBucket bucket →
          bucket total + sumOver (fun activity => bucket activity.summary) rest.schedule.tasks =
            bucket (.ofResults rest.results) :=
        fun bucket isBucket => departure.sums sound.ledger isBucket (sums bucket isBucket)
      have silent : IsUnreported rest.schedule.results := departure.results ▸ unreported
      unfold workersFor at few drained
      by_cases isLast : count ≤ 1
      · have nobody : sumOver Activity.workers rest.schedule.tasks = 0 := by omega
        have isDrained : rest.IsDrained := by
          by_cases isAlone : workers ≤ 1
          · exact .inl (alone isAlone)
          · refine departure.isDrained (drained ?_)
            rw [if_neg (by omega)]
            omega
        rw [dismiss_last isLast supervises]
        exact .of_report ledger supervises rfl rfl nobody isDrained others silent
      · have fewer : sumOver Activity.workers rest.schedule.tasks = count - 1 := by omega
        have many : 2 ≤ workers := by
          split at few <;> omega
        rw [dismiss_others isLast supervises]
        refine .of_supervising ledger supervises rfl rfl rfl fewer (by omega) ?_ ?_ others silent
        · unfold workersFor
          rw [if_neg (by omega)] at few ⊢
          omega
        · unfold workersFor
          rw [if_neg (by omega)]
          intro lacks
          refine departure.isDrained (drained ?_)
          rw [if_neg (by omega)]
          omega

/-- While a worker is there the pool has not ended, and it ends when the only one leaves. -/
theorem Sound.isDone_depart (sound : Sound workers capacity pool) {tag : String} {worker : Worker}
    (departure : Departure number tag worker pool rest) :
    ¬pool.schedule.IsDone 0 ∧
      (workers ≤ 1 → (rest.schedule.joinWorker 0 none).IsDone 0) := by
  have left : _ + 1 = _ + 0 := departure.sumOver_eq Activity.workers
  cases sound.supervisor with
  | opening _ nobody => omega
  | done _ nobody => omega
  | @supervising supervisorTag count total first present positive few =>
      refine ⟨?_, fun alone => ?_⟩
      · rintro ⟨task, here, isDone⟩
        cases first.symm.trans here
        cases isDone
      · have notFirst : number ≠ 0 := by
          rintro rfl
          cases departure.here.symm.trans first
        have supervises : rest.schedule.tasks[0]? =
            some ⟨supervisorTag, rest.signal, .supervising count total⟩ := by
          rw [Schedule.getElem?_of_set departure.here departure.tasks, if_neg notFirst,
            departure.signal]
          exact first
        have isLast : count ≤ 1 := by
          unfold workersFor at few
          split at few <;> omega
        obtain ⟨inside, _⟩ := List.getElem?_eq_some_iff.1 supervises
        have ended := congrArg Pool.schedule (dismiss_last isLast supervises)
        dsimp only at ended
        rw [ended]
        exact ⟨_, List.getElem?_set_self inside, rfl⟩

end Pool

end PolicyWatch.Reprocess

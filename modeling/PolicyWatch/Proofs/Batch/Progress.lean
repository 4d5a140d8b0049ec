import PolicyWatch.Proofs.Batch.Invariant
import PolicyWatch.Proofs.Pool.Work

/-!
# Progress on a batch

How much is left to do, and who can do some of it.  Main statements: every turn of a task leaves
less to do, and as long as the pool is not done there is a task that can take a turn.
-/

namespace PolicyWatch.Reprocess

/-! ## What is left to do -/

/-- The steps that a task may still take, with those of the workers that it starts. -/
def Activity.cost : Activity → Nat
  | .opening workers => 3 * workersFor workers + 1
  | .working _ worker => worker.occupation.cost
  | _ => 0

/-- Whether a task has something to do, now that it was given a slot or was not. -/
def Activity.CanGoOn (given : Prop) : Activity → Prop
  | .opening _ => True
  | .working _ worker => worker.occupation.isWaiting = true → given
  | _ => False

theorem Activity.CanGoOn.mono {given later : Prop} {activity : Activity} (keeps : given → later)
    (can : activity.CanGoOn given) : activity.CanGoOn later := by
  cases activity with
  | opening workers => exact can
  | working pool worker => exact fun waits => keeps (can waits)
  | _ => exact can

namespace Schedule

/-- The turns that may still be taken before the pool is done. -/
def remaining (schedule : Schedule) : Nat :=
  sumOver Activity.cost schedule.tasks + 8 * schedule.pipeline.inbox.queue.order.length

variable {source : Pipeline} {schedule next : Schedule} {number : Nat}

theorem pipeline_joinWorker (schedule : Schedule) (ending : WorkerEnd) :
    (schedule.joinWorker 0 ending).pipeline = schedule.pipeline := by
  rcases schedule.joinWorker_cases ending with same | ⟨_, _, _, _, _, _, _, _, same⟩
  · rw [same]
  · rw [same]

theorem cost_joinWorker (schedule : Schedule) (ending : WorkerEnd) :
    sumOver Activity.cost (schedule.joinWorker 0 ending).tasks =
      sumOver Activity.cost schedule.tasks := by
  rcases schedule.joinWorker_cases ending with same |
    ⟨task, count, total, activity, results, here, waits, next, same⟩
  · rw [same]
  · have sums := sumOver_set Activity.cost here { task with activity }
    have idle : task.activity.cost = 0 := by
      rw [waits]
      rfl
    have stillIdle : activity.cost = 0 := by
      rcases next with rfl | ⟨_, _, rfl⟩ <;> rfl
    rw [same]
    dsimp only at sums ⊢
    omega

theorem cost_newWorkers (schedule : Schedule) (tag signal : String) (workers : Nat) :
    sumOver Activity.cost (schedule.newWorkers tag signal workers) = 2 * workersFor workers := by
  have two : ∀ task ∈ schedule.newWorkers tag signal workers, task.activity.cost = 2 := by
    intro task member
    obtain ⟨place, rfl⟩ := of_mem_newWorkers member
    rfl
  rw [sumOver_eq_mul two, newWorkers, List.length_map, List.length_range']

theorem cost_act {tag signal : String} {worker : Worker} {next? : Option Occupation}
    {counted? : Option (String × Result)} {changed : Pipeline} (activity : Activity)
    (here : schedule.tasks[number]? = some ⟨tag, signal, .working 0 worker⟩)
    (act : Occupation.Act source number schedule.pipeline worker.occupation next? counted? changed)
    (left : activity.cost = (next?.map Occupation.cost).getD 0) :
    sumOver Activity.cost (schedule.tasks.set number ⟨tag, signal, activity⟩) +
      8 * changed.inbox.queue.order.length < schedule.remaining := by
  have sums : _ + worker.occupation.cost = _ + activity.cost :=
    sumOver_set Activity.cost here ⟨tag, signal, activity⟩
  have less := act.cost_lt
  unfold remaining
  omega

/-- Every turn leaves less to do, all the more if it wakes many. -/
theorem Turn.spends (turn : Turn source schedule number next) :
    ∃ woken, next.pipeline.ready.length ≤ schedule.pipeline.ready.length + woken ∧
      next.remaining + woken ≤ schedule.remaining ∧ next.remaining < schedule.remaining := by
  cases turn with
  | @spawnWorkers tag signal workers here =>
      have sums : sumOver Activity.cost (schedule.tasks.set 0
            ⟨tag, signal, .supervising (workersFor workers) .empty⟩) +
          (3 * workersFor workers + 1) = sumOver Activity.cost schedule.tasks + 0 :=
        sumOver_set Activity.cost here _
      have enlisted : sumOver Activity.cost
          (schedule.spawnWorkers 0 ⟨tag, signal, .opening workers⟩ workers).tasks =
            sumOver Activity.cost (schedule.tasks.set 0
              ⟨tag, signal, .supervising (workersFor workers) .empty⟩) +
            sumOver Activity.cost (schedule.newWorkers tag signal workers) :=
        sumOver_append Activity.cost _ _
      have woken := schedule.pipeline.length_ready_wakeAll_le
        (List.range' schedule.tasks.length (workersFor workers))
      rw [List.length_range'] at woken
      have sameQueue :
          (schedule.spawnWorkers 0 ⟨tag, signal, .opening workers⟩ workers).pipeline.inbox =
          schedule.pipeline.inbox := Pipeline.inbox_wakeAll _ _
      rw [cost_newWorkers] at enlisted
      unfold remaining
      rw [enlisted, sameQueue]
      refine ⟨workersFor workers, woken, ?_, ?_⟩ <;> omega
  | @act _ tag signal worker later changed here isLater sameTask act =>
      have less := cost_act (.working 0 later) here act rfl
      exact ⟨1, act.wakes.few, less, less⟩
  | leave here isLater act =>
      have less := cost_act .done here act rfl
      unfold remaining
      rw [cost_joinWorker, pipeline_joinWorker]
      exact ⟨1, act.wakes.few, less, less⟩

/-! ## Who can take a turn -/

/-- Whether a task has something to do: it opens the pool, or is a worker that does not wait at the
gate, or that was given a slot. -/
def IsAwake (schedule : Schedule) (number : Nat) : Prop :=
  ∃ task, schedule.tasks[number]? = some task ∧
    task.activity.CanGoOn (number ∈ schedule.pipeline.gate.granted)

/-- Whether the task that opened the pool is done. -/
def HasEnded (schedule : Schedule) : Prop :=
  ∃ tag signal, schedule.tasks[0]? = some ⟨tag, signal, .done⟩

/-- Whoever has something to do can take a turn. -/
theorem BatchInvariant.exists_step? (invariant : BatchInvariant source schedule)
    (awake : schedule.IsAwake number) :
    ∃ next, schedule.step? number = some next := by
  obtain ⟨task, here, can⟩ := awake
  have fits := invariant.fits number task here
  have uncancelled := isCancelled_of_silent invariant.silent task.signal
  obtain ⟨tag, signal, activity⟩ := task
  unfold step?
  rw [here]
  dsimp only at fits uncancelled ⊢
  cases fits with
  | opening workers => exact ⟨_, rfl⟩
  | supervising count total => exact can.elim
  | done => exact can.elim
  | working isLater isTask stands =>
      obtain ⟨⟨progress, changed⟩, moved⟩ := Worker.exists_step? invariant.serves isTask stands can
      dsimp only
      rw [uncancelled, moved]
      obtain later | ending := progress <;> exact ⟨_, rfl⟩

/-- At a gate that is at rest and has slots somebody in line was given one, unless a request holds
one. -/
theorem exists_mem_granted {gate : Gate} (settled : gate.Settled) (spare : 0 < gate.tally.spare)
    {number : Nat} (waits : number ∈ gate.line) : ∃ other, other ∈ gate.granted := by
  cases given : gate.granted with
  | cons first rest => exact ⟨first, List.mem_cons_self⟩
  | nil =>
      unfold Gate.line at waits
      rw [given, List.append_nil] at waits
      change 0 < gate.free + gate.granted.length at spare
      rw [given] at spare
      rcases settled.busy with nobody | isFull
      · rw [nobody] at waits
        cases waits
      · rw [isFull] at spare
        cases spare

end Schedule

open Schedule

theorem exists_worker_of_waitsAt {tasks : List Task} {number : Nat}
    (waits : waitsAt tasks number = true) :
    ∃ tag signal pool worker, tasks[number]? = some ⟨tag, signal, .working pool worker⟩ := by
  cases here : tasks[number]? with
  | none =>
      unfold waitsAt at waits
      rw [here] at waits
      cases waits
  | some task =>
      rw [waitsAt_of_getElem? here] at waits
      obtain ⟨tag, signal, activity⟩ := task
      cases activity with
      | working pool worker => exact ⟨tag, signal, pool, worker, rfl⟩
      | _ => cases waits

theorem Gate.capacityFor_pos (maxConcurrency : Nat) : 0 < capacityFor maxConcurrency := by
  unfold capacityFor
  split <;> omega

section Idle

variable {source : Pipeline} {schedule : Schedule} (invariant : BatchInvariant source schedule)
  (idle : ∀ number, ¬schedule.IsAwake number)

include idle

/-- If nobody has anything to do all workers wait at the gate. -/
theorem isWaiting_of_idle {number : Nat} {tag signal : String} {pool : Nat} {worker : Worker}
    (here : schedule.tasks[number]? = some ⟨tag, signal, .working pool worker⟩) :
    worker.occupation.isWaiting = true := by
  by_contra acts
  exact idle number ⟨_, here, fun waits => absurd waits acts⟩

include invariant

theorem slots_of_idle : sumOver Activity.slots schedule.tasks = 0 := by
  refine sumOver_eq_zero fun task member => ?_
  obtain ⟨number, here⟩ := List.getElem?_of_mem member
  obtain ⟨tag, signal, activity⟩ := task
  have fits := invariant.fits number _ here
  cases fits with
  | @working _ worker isLater isTask stands =>
      have waits := isWaiting_of_idle idle here
      obtain ⟨task, occupation, summary⟩ := worker
      cases stands with
      | @running id stage stands =>
          cases stands with
          | queued admission => rfl
          | _ => cases waits
      | _ => cases waits
  | _ => rfl

end Idle

theorem Pool.Sound.hasEnded {source : Pipeline} {pool : Pool} {workers capacity : Nat}
    (sound : Pool.Sound workers capacity pool) (positive : 0 < capacity)
    (invariant : BatchInvariant source pool.schedule)
    (idle : ∀ number, ¬pool.schedule.IsAwake number) : pool.schedule.HasEnded := by
  cases sound.supervisor with
  | opening first => exact absurd ⟨_, first, trivial⟩ (idle 0)
  | done first => exact ⟨_, _, first⟩
  | @supervising bossTag count total first present some =>
      -- A worker is left, all wait, and nobody holds a slot.  So one of them was given a slot, and
      -- that one has something to do.
      obtain ⟨task, member, isWorker⟩ := exists_of_sumOver_pos (present ▸ some)
      obtain ⟨number, here⟩ := List.getElem?_of_mem member
      have spare := sound.ledger.spare_eq
      rw [slots_of_idle invariant idle, invariant.nothingHeld] at spare
      have waits : number ∈ pool.gate.line := by
        obtain ⟨tag, signal, activity⟩ := task
        cases activity with
        | working supervisor worker =>
            exact (invariant.lined number).2
              ((waitsAt_of_getElem? here).trans (isWaiting_of_idle idle here))
        | _ => exact absurd rfl isWorker
      have spare : 0 < pool.gate.tally.spare := by
        rw [← spare] at positive
        exact positive
      obtain ⟨other, given⟩ := exists_mem_granted invariant.settled spare waits
      have waiting : waitsAt pool.schedule.tasks other = true :=
        (invariant.lined other).1 (List.mem_append_right _ given)
      obtain ⟨tag, signal, pool, worker, there⟩ := exists_worker_of_waitsAt waiting
      exact absurd ⟨_, there, fun _ => given⟩ (idle other)

end PolicyWatch.Reprocess

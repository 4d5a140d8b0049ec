import Mathlib.Algebra.BigOperators.Group.List.Basic
import Mathlib.Algebra.Ring.Nat
import Mathlib.Data.List.Perm.Basic
import PolicyWatch.Proofs.Pool.Turn
import PolicyWatch.Reprocess.Schedule

/-!
# The roster of a schedule

What the tasks of a schedule have to do with a pool of workers, summed over all tasks,
and the counts of results.  Main statements: how a sum changes when one task does
something else, and that a summary counts each result in one of its counts.
-/

namespace PolicyWatch.Reprocess

/-! ## Summaries -/

namespace PoolSummary

def ofResults (results : List Result) : PoolSummary := results.foldl record empty

/-- A count that is added up when summaries are merged. -/
structure IsBucket (bucket : PoolSummary → Nat) : Prop where
  empty : bucket PoolSummary.empty = 0
  merge : ∀ left right : PoolSummary, bucket (left.merge right) = bucket left + bucket right

theorem isBucket_completed : IsBucket completed := ⟨rfl, fun _ _ => rfl⟩
theorem isBucket_notFound : IsBucket notFound := ⟨rfl, fun _ _ => rfl⟩
theorem isBucket_failed : IsBucket failed := ⟨rfl, fun _ _ => rfl⟩
theorem isBucket_timedOut : IsBucket timedOut := ⟨rfl, fun _ _ => rfl⟩
theorem isBucket_cancelled : IsBucket cancelled := ⟨rfl, fun _ _ => rfl⟩

theorem isBucket_total : IsBucket total := by
  refine ⟨rfl, fun left right => ?_⟩
  simp only [total, merge]
  omega

theorem eq_of_buckets {left right : PoolSummary}
    (same : ∀ bucket, IsBucket bucket → bucket left = bucket right) : left = right := by
  cases left
  cases right
  have completed := same _ isBucket_completed
  have notFound := same _ isBucket_notFound
  have failed := same _ isBucket_failed
  have timedOut := same _ isBucket_timedOut
  have cancelled := same _ isBucket_cancelled
  simp_all only

theorem record_eq_merge (summary : PoolSummary) (result : Result) :
    summary.record result = summary.merge (empty.record result) := by
  unfold record
  split
  · rfl
  · rfl
  · split <;> rfl

theorem total_record_empty (result : Result) : (empty.record result).total = 1 := by
  unfold record
  split
  · rfl
  · rfl
  · split <;> rfl

namespace IsBucket

variable {bucket : PoolSummary → Nat} (isBucket : IsBucket bucket)

include isBucket

theorem record (summary : PoolSummary) (result : Result) :
    bucket (summary.record result) =
      bucket summary + bucket (PoolSummary.empty.record result) := by
  rw [record_eq_merge, isBucket.merge]

theorem foldl_record (results : List Result) (summary : PoolSummary) :
    bucket (results.foldl PoolSummary.record summary) =
      bucket summary +
        (results.map fun result => bucket (PoolSummary.empty.record result)).sum := by
  induction results generalizing summary with
  | nil => rfl
  | cons result rest ih =>
      rw [List.foldl_cons, ih, isBucket.record, List.map_cons, List.sum_cons]
      omega

theorem ofResults (results : List Result) :
    bucket (PoolSummary.ofResults results) =
      (results.map fun result => bucket (PoolSummary.empty.record result)).sum := by
  rw [PoolSummary.ofResults, isBucket.foldl_record, isBucket.empty, Nat.zero_add]

theorem ofResults_append (left right : List Result) :
    bucket (PoolSummary.ofResults (left ++ right)) =
      bucket (PoolSummary.ofResults left) + bucket (PoolSummary.ofResults right) := by
  rw [isBucket.ofResults, isBucket.ofResults, isBucket.ofResults, List.map_append,
    List.sum_append]

theorem ofResults_perm {left right : List Result} (same : left.Perm right) :
    bucket (PoolSummary.ofResults left) = bucket (PoolSummary.ofResults right) := by
  rw [isBucket.ofResults, isBucket.ofResults]
  exact (same.map _).sum_eq

end IsBucket

theorem total_ofResults (results : List Result) : (ofResults results).total = results.length := by
  rw [isBucket_total.ofResults]
  induction results with
  | nil => rfl
  | cons result rest ih =>
      rw [List.map_cons, List.sum_cons, ih, total_record_empty, List.length_cons, Nat.add_comm]

end PoolSummary

/-! ## Tasks of a pool -/

/-- Whether a request is between the start of its fetch and the end of its risk call. -/
def Request.isCalling (request : Request) : Bool :=
  match request.stage with
  | .queued _ => false
  | .admitted => false
  | _ => true

theorem Request.isCalling_le_slots (request : Request) :
    request.isCalling.toNat ≤ request.slots := by
  unfold isCalling slots holdsSlot
  cases request.stage with
  | queued admission => exact Nat.le_refl _
  | admitted => exact Nat.zero_le _
  | _ => exact Nat.le_refl _

namespace Activity

def worker? : Activity → Option Worker
  | working _ worker => some worker
  | _ => none

def workers : Activity → Nat
  | working _ _ => 1
  | _ => 0

/-- The ID that a worker has taken and not counted. -/
def current : Activity → List String
  | working _ worker => worker.current?.toList
  | _ => []

def summary : Activity → PoolSummary
  | working _ worker => worker.summary
  | _ => .empty

/-- The slots that a task holds for a request that it runs. -/
def slots : Activity → Nat
  | reprocessing request => request.slots
  | working _ worker => worker.slots
  | _ => 0

/-- The number of requests of workers that are between the start of their fetch and the end
of their risk call. -/
def calling : Activity → Nat
  | working _ ⟨_, .running request, _⟩ => request.isCalling.toNat
  | _ => 0

theorem current_of_worker? {activity : Activity} (isNone : activity.worker? = none) :
    activity.current = [] := by
  cases activity with
  | working pool worker => cases isNone
  | _ => rfl

/-- A task that is no worker has counted nothing. -/
theorem summary_of_workers {activity : Activity} (isNone : activity.workers = 0) :
    activity.summary = .empty := by
  cases activity with
  | working pool worker => cases isNone
  | _ => rfl

/-- A worker runs at most one request. -/
theorem length_current_le (activity : Activity) :
    activity.current.length ≤ activity.workers := by
  cases activity with
  | working pool worker =>
      change worker.current?.toList.length ≤ 1
      cases worker.current? with
      | none => exact Nat.zero_le _
      | some id => exact Nat.le_refl _
  | _ => exact Nat.le_refl _

/-- A worker that makes calls for a request holds a slot. -/
theorem calling_le_slots (activity : Activity) : activity.calling ≤ activity.slots := by
  cases activity with
  | working pool worker =>
      obtain ⟨task, occupation, summary⟩ := worker
      cases occupation with
      | seeking popper => exact Nat.le_refl _
      | running request => exact request.isCalling_le_slots
  | _ => exact Nat.zero_le _

end Activity

/-! ## Sums over all tasks -/

def sumOver (measure : Activity → Nat) (tasks : List Task) : Nat :=
  (tasks.map fun task => measure task.activity).sum

section Sums

variable {measure : Activity → Nat} {tasks : List Task} {number : Nat} {task : Task}

theorem sumOver_append (measure : Activity → Nat) (left right : List Task) :
    sumOver measure (left ++ right) = sumOver measure left + sumOver measure right := by
  unfold sumOver
  rw [List.map_append, List.sum_append]

/-- When one task does something else, its part of the sum changes. -/
theorem sumOver_set (measure : Activity → Nat) (here : tasks[number]? = some task) (next : Task) :
    sumOver measure (tasks.set number next) + measure task.activity =
      sumOver measure tasks + measure next.activity := by
  unfold sumOver
  induction tasks generalizing number with
  | nil => cases here
  | cons first rest ih =>
      cases number with
      | zero =>
          cases here
          simp only [List.set_cons_zero, List.map_cons, List.sum_cons]
          omega
      | succ number =>
          have later := ih here
          simp only [List.set_cons_succ, List.map_cons, List.sum_cons]
          omega

theorem sumOver_le {other : Activity → Nat} (less : ∀ activity, measure activity ≤ other activity)
    (tasks : List Task) : sumOver measure tasks ≤ sumOver other tasks := by
  unfold sumOver
  induction tasks with
  | nil => exact Nat.le_refl _
  | cons first rest ih =>
      simp only [List.map_cons, List.sum_cons]
      exact Nat.add_le_add (less first.activity) ih

theorem le_sumOver (measure : Activity → Nat) (member : task ∈ tasks) :
    measure task.activity ≤ sumOver measure tasks := by
  obtain ⟨front, back, rfl⟩ := List.append_of_mem member
  rw [sumOver_append]
  unfold sumOver
  rw [List.map_cons, List.sum_cons]
  omega

/-- Tasks that all add the same add so many times that. -/
theorem sumOver_eq_mul {amount : Nat} (same : ∀ task ∈ tasks, measure task.activity = amount) :
    sumOver measure tasks = amount * tasks.length := by
  unfold sumOver
  induction tasks with
  | nil => rfl
  | cons first rest ih =>
      rw [List.map_cons, List.sum_cons, same first List.mem_cons_self, List.length_cons,
        Nat.mul_succ, Nat.add_comm,
        ih fun task member => same task (List.mem_cons_of_mem first member)]

theorem sumOver_eq_zero (zero : ∀ task ∈ tasks, measure task.activity = 0) :
    sumOver measure tasks = 0 :=
  (sumOver_eq_mul zero).trans (Nat.zero_mul _)

theorem exists_of_sumOver_pos (positive : 0 < sumOver measure tasks) :
    ∃ task ∈ tasks, measure task.activity ≠ 0 := by
  by_contra none
  refine absurd (sumOver_eq_zero fun task member => ?_) (Nat.ne_of_gt positive)
  by_contra adds
  exact none ⟨task, member, adds⟩

theorem sumOver_eq_length (one : ∀ task ∈ tasks, measure task.activity = 1) :
    sumOver measure tasks = tasks.length :=
  (sumOver_eq_mul one).trans (Nat.one_mul _)

end Sums

/-- The IDs that workers have taken and not counted. -/
def running (tasks : List Task) : List String :=
  tasks.flatMap fun task => task.activity.current

theorem count_running (tasks : List Task) (id : String) :
    (running tasks).count id = sumOver (fun activity => activity.current.count id) tasks := by
  unfold running sumOver
  rw [List.count_flatMap]
  rfl

theorem length_running (tasks : List Task) :
    (running tasks).length = sumOver (fun activity => activity.current.length) tasks := by
  unfold running sumOver
  rw [List.length_flatMap]

namespace Schedule

def worker? (schedule : Schedule) (number : Nat) : Option Worker :=
  schedule.tasks[number]?.bind fun task => task.activity.worker?

/-- The ID that a task has taken and not counted. -/
def current (schedule : Schedule) (number : Nat) : List String :=
  (schedule.tasks[number]?.map fun task => task.activity.current).getD []

section Replaced

variable {schedule next : Schedule} {number : Nat} {task later : Task}
  (here : schedule.tasks[number]? = some task)
  (tasks : next.tasks = schedule.tasks.set number later)

include here tasks

theorem getElem?_of_set (other : Nat) :
    next.tasks[other]? = if number = other then some later else schedule.tasks[other]? := by
  obtain ⟨inside, _⟩ := List.getElem?_eq_some_iff.1 here
  rw [tasks, List.getElem?_set]
  by_cases same : number = other
  · rw [if_pos same, if_pos same, if_pos (same ▸ inside)]
  · rw [if_neg same, if_neg same]

theorem worker?_of_set (other : Nat) :
    next.worker? other =
      if number = other then later.activity.worker? else schedule.worker? other := by
  unfold worker?
  rw [getElem?_of_set here tasks]
  by_cases same : number = other
  · rw [if_pos same, if_pos same]
    rfl
  · rw [if_neg same, if_neg same]

theorem current_of_set (other : Nat) :
    next.current other =
      if number = other then later.activity.current else schedule.current other := by
  unfold current
  rw [getElem?_of_set here tasks]
  by_cases same : number = other
  · rw [if_pos same, if_pos same]
    rfl
  · rw [if_neg same, if_neg same]

end Replaced

/-- The ID that a task takes by its next step, with the number of the task. -/
def takes (schedule : Schedule) (number : Nat) : List (Nat × String) :=
  match schedule.tasks[number]? with
  | some ⟨_, signal, .working _ worker⟩ =>
      (worker.takes? (schedule.isCancelled signal) schedule.pipeline).toList.map (number, ·)
  | _ => []

/-- The ID that a task counts by its next step, with the number of the task and the
result. -/
def counts (schedule : Schedule) (number : Nat) : List (Nat × String × Result) :=
  match schedule.tasks[number]? with
  | some ⟨_, signal, .working _ worker⟩ =>
      (worker.counts? (schedule.isCancelled signal) schedule.pipeline).toList.map (number, ·)
  | _ => []

/-- The ID over which a task crashes by its next step, with the number of the task. -/
def crashes (schedule : Schedule) (number : Nat) : List (Nat × String) :=
  match schedule.tasks[number]? with
  | some ⟨_, signal, .working _ worker⟩ =>
      (worker.crashes? (schedule.isCancelled signal) schedule.pipeline).toList.map (number, ·)
  | _ => []

theorem exists_takes (schedule : Schedule) (number : Nat) :
    ∃ ids : List String, schedule.takes number = ids.map (number, ·) := by
  unfold takes
  split
  · exact ⟨_, rfl⟩
  · exact ⟨[], rfl⟩

theorem exists_counts (schedule : Schedule) (number : Nat) :
    ∃ entries : List (String × Result), schedule.counts number = entries.map (number, ·) := by
  unfold counts
  split
  · exact ⟨_, rfl⟩
  · exact ⟨[], rfl⟩

theorem crashes_of_returning {schedule : Schedule}
    (returning : schedule.pipeline.collaborators.Return) (number : Nat) :
    schedule.crashes number = [] := by
  unfold crashes
  split
  · rw [Worker.crashes?_of_returning returning]
    rfl
  · rfl

/-- The workers that are started when a pool is opened. -/
def newWorkers (schedule : Schedule) (tag signal : String) (workers : Nat) : List Task :=
  (List.range' schedule.tasks.length (workersFor workers)).map fun place =>
    ⟨tag, signal, .working 0 (.new place)⟩

theorem of_mem_newWorkers {schedule : Schedule} {tag signal : String} {workers : Nat} {task : Task}
    (member : task ∈ schedule.newWorkers tag signal workers) :
    ∃ place, task = ⟨tag, signal, .working 0 (.new place)⟩ := by
  obtain ⟨place, _, rfl⟩ := List.mem_map.1 member
  exact ⟨place, rfl⟩

end Schedule

end PolicyWatch.Reprocess

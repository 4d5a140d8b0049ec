import PolicyWatch.Proofs.Pool.Tasks

/-!
# What turns leave alone

A turn of a task may change the queue, the gate and what some tasks do, and nothing else.
Main statement: it keeps the collaborators, and a task that is done stays done.
-/

namespace PolicyWatch.Reprocess

namespace Schedule

def IsDone (schedule : Schedule) (number : Nat) : Prop :=
  ∃ task, schedule.tasks[number]? = some task ∧ task.activity = .done

theorem IsDone.append {schedule next : Schedule} {more : List Task} {number : Nat}
    (isDone : schedule.IsDone number) (tasks : next.tasks = schedule.tasks ++ more) :
    next.IsDone number := by
  obtain ⟨task, here, isDone⟩ := isDone
  obtain ⟨inside, _⟩ := List.getElem?_eq_some_iff.1 here
  refine ⟨task, ?_, isDone⟩
  rw [tasks, List.getElem?_append_left inside, here]

/-- Whether a schedule keeps the collaborators of another and what is done there. -/
structure Frame (schedule next : Schedule) : Prop where
  collaborators : next.pipeline.collaborators = schedule.pipeline.collaborators
  done : ∀ number, schedule.IsDone number → next.IsDone number

namespace Frame

variable {schedule middle next : Schedule} {number : Nat} {task : Task}

theorem refl (schedule : Schedule) : Frame schedule schedule := ⟨rfl, fun _ => id⟩

theorem trans (first : Frame schedule middle) (second : Frame middle next) :
    Frame schedule next :=
  ⟨second.collaborators.trans first.collaborators,
    fun number isDone => second.done number (first.done number isDone)⟩

theorem of_tasks (collaborators : next.pipeline.collaborators = schedule.pipeline.collaborators)
    (tasks : next.tasks = schedule.tasks) : Frame schedule next := by
  refine ⟨collaborators, fun number isDone => ?_⟩
  unfold IsDone
  rw [tasks]
  exact isDone

theorem of_append {more : List Task}
    (collaborators : next.pipeline.collaborators = schedule.pipeline.collaborators)
    (tasks : next.tasks = schedule.tasks ++ more) : Frame schedule next :=
  ⟨collaborators, fun _ isDone => isDone.append tasks⟩

theorem turnTo (here : schedule.tasks[number]? = some task) (busy : task.activity ≠ .done)
    (other : Task) (activity : Activity) :
    Frame schedule (schedule.turnTo number other activity) := by
  refine ⟨rfl, ?_⟩
  rintro place ⟨fellow, there, isDone⟩
  refine ⟨fellow, ?_, isDone⟩
  have apart : number ≠ place := by
    rintro rfl
    cases here.symm.trans there
    exact busy isDone
  exact (List.getElem?_set_ne apart).trans there

theorem finish (here : schedule.tasks[number]? = some task) (busy : task.activity ≠ .done)
    (other : Task) (result : TaskResult) :
    Frame schedule (schedule.finish number other result) :=
  (turnTo here busy other .done).trans (.of_tasks rfl rfl)

theorem hold (schedule : Schedule) (tag : String) : Frame schedule (schedule.hold tag) := by
  unfold Schedule.hold
  split
  · refine .of_tasks ?_ rfl
    change schedule.pipeline.release.collaborators = _
    rw [Pipeline.release_eq]
  · exact .of_tasks rfl rfl

theorem endAcquiring (here : schedule.tasks[number]? = some task) (busy : task.activity ≠ .done)
    (other : Task) (verdict : Verdict) :
    Frame schedule (schedule.endAcquiring number other verdict) := by
  cases verdict with
  | refused error => exact finish here busy other _
  | admitted =>
      have held := hold schedule other.tag
      refine held.trans (finish ?_ busy other _)
      rw [← here]
      unfold Schedule.hold
      split <;> rfl

theorem spawnWorkers (here : schedule.tasks[number]? = some task) (busy : task.activity ≠ .done)
    (other : Task) (workers : Nat) :
    Frame schedule (schedule.spawnWorkers number other workers) := by
  refine (turnTo here busy other (.supervising (workersFor workers) .empty)).trans
    (.of_append ?_ rfl)
  unfold Schedule.spawnWorkers
  dsimp only
  rw [Pipeline.wakeAll_eq]

theorem joinWorker (schedule : Schedule) (pool : Nat) (ending : WorkerEnd) :
    Frame schedule (schedule.joinWorker pool ending) := by
  unfold Schedule.joinWorker
  split
  · rename_i here
    dsimp only
    split
    · exact finish here Activity.noConfusion _ _
    · exact turnTo here Activity.noConfusion _ _
  · exact refl schedule

end Frame

/-- A turn of a task keeps the collaborators, and a task that is done stays done. -/
theorem frame_of_step? {schedule next : Schedule} {number : Nat}
    (moved : schedule.step? number = some next) : Frame schedule next := by
  unfold step? at moved
  cases here : schedule.tasks[number]? with
  | none =>
      rw [here] at moved
      cases moved
  | some task =>
      rw [here] at moved
      obtain ⟨tag, signal, activity⟩ := task
      have spent : ∀ {pipeline : Pipeline},
          pipeline.collaborators = schedule.pipeline.collaborators →
          Frame schedule { schedule with pipeline } := fun same => .of_tasks same rfl
      have still : ∀ pipeline, { schedule with pipeline }.tasks[number]? =
          some ⟨tag, signal, activity⟩ := fun _ => here
      cases activity with
      | acquiring admission =>
          dsimp only at moved
          split at moved
          · cases moved
          · rename_i stepped
            cases moved
            exact (spent (Pipeline.Spends.of_admission stepped).collaborators).trans
              (.turnTo (still _) Activity.noConfusion _ _)
          · rename_i stepped
            cases moved
            exact (spent (Pipeline.Spends.of_admission stepped).collaborators).trans
              (.endAcquiring (still _) Activity.noConfusion _ _)
      | reprocessing request =>
          dsimp only at moved
          split at moved
          · cases moved
          · rename_i stepped
            cases moved
            exact (spent (Pipeline.Spends.of_request stepped).collaborators).trans
              (.turnTo (still _) Activity.noConfusion _ _)
          · rename_i stepped
            cases moved
            exact (spent (Pipeline.Spends.of_request stepped).collaborators).trans
              (.finish (still _) Activity.noConfusion _ _)
      | opening workers =>
          cases moved
          exact .spawnWorkers here Activity.noConfusion _ _
      | supervising workers total => cases moved
      | working pool worker =>
          dsimp only at moved
          split at moved
          · cases moved
          · rename_i stepped
            cases moved
            exact (spent (Worker.Transition.of_step? stepped).spends.collaborators).trans
              (.turnTo (still _) Activity.noConfusion _ _)
          · rename_i stepped
            cases moved
            exact ((spent (Worker.Transition.of_step? stepped).spends.collaborators).trans
              (.turnTo (still _) Activity.noConfusion _ _)).trans (.joinWorker _ _ _)
      | popping popper =>
          dsimp only at moved
          have looked : ∀ inbox, Frame schedule
              { schedule with pipeline := { schedule.pipeline with inbox } } := fun _ => spent rfl
          split at moved
          · cases moved
          · cases moved
            exact (looked _).trans (.turnTo (still _) Activity.noConfusion _ _)
          · cases moved
            exact (looked _).trans (.finish (still _) Activity.noConfusion _ _)
      | done => cases moved

theorem not_isDone_of_step? {schedule next : Schedule} {number : Nat}
    (moved : schedule.step? number = some next) : ¬schedule.IsDone number := by
  rintro ⟨task, here, isDone⟩
  obtain ⟨tag, signal, activity⟩ := task
  unfold step? at moved
  rw [here] at moved
  cases isDone
  cases moved

end Schedule

end PolicyWatch.Reprocess

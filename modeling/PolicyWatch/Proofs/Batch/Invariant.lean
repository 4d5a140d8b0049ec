import PolicyWatch.Proofs.Batch.Effect
import PolicyWatch.Proofs.Pool.Tasks

/-!
# The tasks of a batch

The first task of a schedule opens a pool, and all others are its workers.  Main statements: the
forms that a turn of a task can take, and what stays the case whatever turns they take.
-/

namespace PolicyWatch.Reprocess

/-! ## Tasks -/

/-- What a task of a batch may be doing, by its place. -/
inductive Activity.Fits (source : Pipeline) : Nat → Activity → Prop where
  | opening (workers : Nat) : Fits source 0 (.opening workers)
  | supervising (count : Nat) (total : PoolSummary) : Fits source 0 (.supervising count total)
  | working {number : Nat} {worker : Worker} (isLater : number ≠ 0) (isTask : worker.task = number)
      (stands : worker.occupation.Stands source number) : Fits source number (.working 0 worker)
  | done (number : Nat) : Fits source number .done

def Activity.isWaiting : Activity → Bool
  | .working _ worker => worker.occupation.isWaiting
  | _ => false

def waitsAt (tasks : List Task) (number : Nat) : Bool :=
  tasks[number]?.any fun task : Task => task.activity.isWaiting

theorem waitsAt_of_getElem? {tasks : List Task} {number : Nat} {task : Task}
    (here : tasks[number]? = some task) : waitsAt tasks number = task.activity.isWaiting := by
  unfold waitsAt
  rw [here]
  rfl

theorem getElem?_set_cases {tasks : List Task} {place number : Nat} {task other : Task}
    (here : (tasks.set place task)[number]? = some other) :
    number = place ∧ other = task ∨ number ≠ place ∧ tasks[number]? = some other := by
  by_cases same : number = place
  · subst same
    have inside := (List.getElem?_eq_some_iff.1 here).1
    rw [List.length_set] at inside
    rw [List.getElem?_set_self inside] at here
    cases here
    exact .inl ⟨rfl, rfl⟩
  · rw [List.getElem?_set_ne fun placed => same placed.symm] at here
    exact .inr ⟨same, here⟩

theorem waitsAt_set {tasks : List Task} {place : Nat} {task : Task}
    (here : tasks[place]? = some task) (activity : Activity) (number : Nat) :
    waitsAt (tasks.set place { task with activity }) number =
      if number = place then activity.isWaiting else waitsAt tasks number := by
  obtain ⟨inside, _⟩ := List.getElem?_eq_some_iff.1 here
  unfold waitsAt
  by_cases same : number = place
  · rw [if_pos same, same, List.getElem?_set_self inside]
    rfl
  · rw [if_neg same, List.getElem?_set_ne fun placed => same placed.symm]

/-- New tasks that do not wait leave everybody else's waiting as it is. -/
theorem waitsAt_append {tasks more : List Task} (number : Nat)
    (idle : ∀ task ∈ more, task.activity.isWaiting = false) :
    waitsAt (tasks ++ more) number = waitsAt tasks number := by
  unfold waitsAt
  by_cases inside : number < tasks.length
  · rw [List.getElem?_append_left inside]
  · have outside := Nat.le_of_not_lt inside
    rw [List.getElem?_append_right outside, List.getElem?_eq_none outside]
    cases here : more[number - tasks.length]? with
    | none => rfl
    | some task => exact idle task (List.mem_of_getElem? here)

namespace Pipeline.Serves

variable {source pipeline : Pipeline} (serves : source.Serves pipeline)

include serves

theorem of_ready (ready : List Nat) : source.Serves { pipeline with ready } :=
  ⟨serves.prompt, congrArg (fun before => { before with ready }) serves.frame, serves.isClosed,
    serves.isOpen⟩

theorem of_clock (clock : Nat) : source.Serves { pipeline with clock } :=
  ⟨serves.prompt, congrArg (fun before => { before with clock }) serves.frame, serves.isClosed,
    serves.isOpen⟩

theorem wakeAll (tasks : List Nat) : source.Serves (pipeline.wakeAll tasks) := by
  rw [Pipeline.wakeAll_eq]
  exact serves.of_ready _

end Pipeline.Serves

namespace Schedule

/-- What is the case at any time while a batch is worked on. -/
structure BatchInvariant (source : Pipeline) (schedule : Schedule) : Prop where
  serves : source.Serves schedule.pipeline
  silent : schedule.signals = []
  nothingHeld : schedule.held = []
  fits : ∀ (number : Nat) (task : Task), schedule.tasks[number]? = some task →
    task.activity.Fits source number
  once : schedule.pipeline.gate.line.Nodup
  lined : ∀ number,
    number ∈ schedule.pipeline.gate.line ↔ waitsAt schedule.tasks number = true
  settled : schedule.pipeline.gate.Settled

/-- What a turn of a task of a batch is: the first starts the workers, or a worker acts, and leaves
in the end. -/
inductive Turn (source : Pipeline) (schedule : Schedule) : Nat → Schedule → Prop where
  | spawnWorkers {tag signal : String} {workers : Nat}
      (here : schedule.tasks[0]? = some ⟨tag, signal, .opening workers⟩) :
      Turn source schedule 0 (schedule.spawnWorkers 0 ⟨tag, signal, .opening workers⟩ workers)
  | act {number : Nat} {tag signal : String} {worker later : Worker} {changed : Pipeline}
      (here : schedule.tasks[number]? = some ⟨tag, signal, .working 0 worker⟩)
      (isLater : number ≠ 0) (sameTask : later.task = number)
      (act : Occupation.Act source number schedule.pipeline worker.occupation
        (some later.occupation) (worker.counts? false schedule.pipeline) changed) :
      Turn source schedule number ({ schedule with pipeline := changed }.turnTo number
        ⟨tag, signal, .working 0 worker⟩ (.working 0 later))
  | leave {number : Nat} {tag signal : String} {worker : Worker} {changed : Pipeline}
      (here : schedule.tasks[number]? = some ⟨tag, signal, .working 0 worker⟩)
      (isLater : number ≠ 0)
      (act : Occupation.Act source number schedule.pipeline worker.occupation none none changed) :
      Turn source schedule number
        (({ schedule with pipeline := changed }.turnTo number
          ⟨tag, signal, .working 0 worker⟩ .done).joinWorker 0 (some worker.summary))

variable {source : Pipeline} {schedule next : Schedule} {number : Nat}

theorem isCancelled_of_silent (silent : schedule.signals = []) (name : String) :
    schedule.isCancelled name = false := by
  unfold isCancelled signal
  rw [silent]
  rfl

theorem BatchInvariant.turn (invariant : BatchInvariant source schedule)
    (moved : schedule.step? number = some next) : Turn source schedule number next := by
  unfold step? at moved
  cases here : schedule.tasks[number]? with
  | none =>
      rw [here] at moved
      cases moved
  | some task =>
      have fits := invariant.fits number task here
      have uncancelled := isCancelled_of_silent invariant.silent task.signal
      obtain ⟨tag, signal, activity⟩ := task
      rw [here] at moved
      dsimp only at moved fits uncancelled
      cases fits with
      | opening workers =>
          cases moved
          exact .spawnWorkers here
      | supervising count total => cases moved
      | done => cases moved
      | @working _ worker isLater isTask stands =>
          rw [uncancelled] at moved
          dsimp only at moved
          split at moved
          · cases moved
          · rename_i later changed stepped
            cases moved
            cases Worker.outcome_of_step? invariant.serves isTask stands stepped with
            | going sameTask act => exact .act here isLater (sameTask.trans isTask) act
          · rename_i ending changed stepped
            cases moved
            cases Worker.outcome_of_step? invariant.serves isTask stands stepped with
            | left act => exact .leave here isLater act

/-! ## What stays the case -/

/-- A worker that has left changes at most what the first task waits for, and the results. -/
theorem joinWorker_cases (schedule : Schedule) (ending : WorkerEnd) :
    schedule.joinWorker 0 ending = schedule ∨
      ∃ task count total activity results, schedule.tasks[0]? = some task ∧
        task.activity = .supervising count total ∧
        (activity = .done ∨ ∃ fewer counted, activity = .supervising fewer counted) ∧
        schedule.joinWorker 0 ending =
          { schedule with tasks := schedule.tasks.set 0 { task with activity }, results } := by
  unfold joinWorker
  split
  · rename_i tag signal count total here
    right
    dsimp only
    split
    · exact ⟨_, count, total, .done, _, here, rfl, .inl rfl, rfl⟩
    · exact ⟨_, count, total, _, _, here, rfl, .inr ⟨_, _, rfl⟩, rfl⟩
  · exact .inl rfl

theorem getElem?_spawnWorkers {tag signal : String} {workers : Nat} {task : Task}
    (found : (schedule.spawnWorkers 0 ⟨tag, signal, .opening workers⟩ workers).tasks[number]? =
      some task) :
    (schedule.tasks.set 0 ⟨tag, signal, .supervising (workersFor workers) .empty⟩)[number]? =
        some task ∨
      number ∈ List.range' schedule.tasks.length (workersFor workers) ∧
        task = ⟨tag, signal, .working 0 (.new number)⟩ := by
  have length : (schedule.tasks.set 0
      ⟨tag, signal, .supervising (workersFor workers) .empty⟩).length = schedule.tasks.length :=
    List.length_set
  unfold spawnWorkers turnTo at found
  dsimp only at found
  by_cases inside : number < schedule.tasks.length
  · rw [List.getElem?_append_left (length ▸ inside)] at found
    exact .inl found
  · have outside := Nat.le_of_not_lt inside
    rw [List.getElem?_append_right (length ▸ outside), length, List.getElem?_map] at found
    obtain ⟨place, listed, rfl⟩ := Option.map_eq_some_iff.1 found
    obtain ⟨_, isPlace⟩ := List.getElem?_eq_some_iff.1 listed
    have same : place = number := by
      rw [← isPlace, List.getElem_range', Nat.one_mul, Nat.add_sub_cancel' outside]
    exact .inr ⟨same ▸ List.mem_of_getElem? listed, same ▸ rfl⟩

namespace BatchInvariant

variable (invariant : BatchInvariant source schedule)

include invariant

/-- The batch is worked on when tasks are woken and when time goes by. -/
theorem of_pipeline {changed : Pipeline} (serves : source.Serves changed)
    (sameGate : changed.gate = schedule.pipeline.gate) :
    BatchInvariant source { schedule with pipeline := changed } :=
  ⟨serves, invariant.silent, invariant.nothingHeld, invariant.fits, sameGate ▸ invariant.once,
    sameGate ▸ invariant.lined, sameGate ▸ invariant.settled⟩

theorem of_set {place : Nat} {task : Task} {activity : Activity} {changed : Pipeline}
    (here : schedule.tasks[place]? = some task) (fits : activity.Fits source place)
    (serves : source.Serves changed) (once : changed.gate.line.Nodup)
    (lined : ∀ other, other ∈ changed.gate.line ↔
      if other = place then activity.isWaiting = true else other ∈ schedule.pipeline.gate.line)
    (settled : changed.gate.Settled) (results : List (String × TaskResult)) :
    BatchInvariant source { schedule with
      pipeline := changed, tasks := schedule.tasks.set place { task with activity }, results } := by
  refine ⟨serves, invariant.silent, invariant.nothingHeld, ?_, once, ?_, settled⟩
  · intro number other found
    rcases getElem?_set_cases found with ⟨rfl, rfl⟩ | ⟨_, known⟩
    · exact fits
    · exact invariant.fits number other known
  · intro other
    rw [lined other, waitsAt_set here]
    split
    · exact Iff.rfl
    · exact invariant.lined other

/-- It is worked on when a task that does not wait at the gate goes on to something else there. -/
theorem of_idle {place : Nat} {task : Task} {activity : Activity}
    (here : schedule.tasks[place]? = some task) (idle : task.activity.isWaiting = false)
    (stillIdle : activity.isWaiting = false) (fits : activity.Fits source place)
    (results : List (String × TaskResult)) :
    BatchInvariant source { schedule with
      tasks := schedule.tasks.set place { task with activity }, results } := by
  refine invariant.of_set here fits invariant.serves invariant.once (fun other => ?_)
    invariant.settled _
  split
  · rename_i same
    rw [invariant.lined, same, waitsAt_of_getElem? here, idle, stillIdle]
  · exact Iff.rfl

theorem spawnWorkers {tag signal : String} {workers : Nat}
    (here : schedule.tasks[0]? = some ⟨tag, signal, .opening workers⟩) :
    BatchInvariant source (schedule.spawnWorkers 0 ⟨tag, signal, .opening workers⟩ workers) := by
  have opened := invariant.of_idle here rfl rfl (.supervising (workersFor workers) .empty)
    schedule.results
  have inside : 0 < schedule.tasks.length := (List.getElem?_eq_some_iff.1 here).1
  have sameGate : (schedule.spawnWorkers 0 ⟨tag, signal, .opening workers⟩ workers).pipeline.gate =
      schedule.pipeline.gate :=
    Pipeline.gate_wakeAll _ _
  refine ⟨opened.serves.wakeAll _, opened.silent, opened.nothingHeld, ?_, ?_, ?_, ?_⟩
  · intro number task found
    rcases getElem?_spawnWorkers found with known | ⟨isLater, rfl⟩
    · exact opened.fits number task known
    · have later := (List.mem_range'_1.1 isLater).1
      exact .working (Nat.ne_of_gt (Nat.lt_of_lt_of_le inside later)) rfl .starting
  · exact sameGate ▸ opened.once
  · intro number
    have idle : ∀ task ∈ schedule.newWorkers tag signal workers,
        task.activity.isWaiting = false := by
      intro task member
      obtain ⟨place, rfl⟩ := of_mem_newWorkers member
      rfl
    have unchanged :
        waitsAt (schedule.spawnWorkers 0 ⟨tag, signal, .opening workers⟩ workers).tasks number =
          waitsAt (schedule.tasks.set 0 ⟨tag, signal, .supervising (workersFor workers) .empty⟩)
            number := waitsAt_append number idle
    rw [unchanged, sameGate]
    exact opened.lined number
  · exact sameGate ▸ opened.settled

theorem act {tag signal : String} {worker : Worker} {activity : Activity}
    {next? : Option Occupation} {counted? : Option (String × Result)} {changed : Pipeline}
    (here : schedule.tasks[number]? = some ⟨tag, signal, .working 0 worker⟩)
    (act : Occupation.Act source number schedule.pipeline worker.occupation next? counted? changed)
    (fits : activity.Fits source number)
    (waits : activity.isWaiting = next?.any Occupation.isWaiting) :
    BatchInvariant source { schedule with
      pipeline := changed, tasks := schedule.tasks.set number ⟨tag, signal, activity⟩ } := by
  have lined : number ∈ schedule.pipeline.gate.line ↔ worker.occupation.isWaiting = true := by
    rw [invariant.lined, waitsAt_of_getElem? here]
    rfl
  refine invariant.of_set here fits (act.serves invariant.serves) (act.once invariant.once lined) ?_
    (act.settled invariant.settled) schedule.results
  intro other
  rw [waits]
  exact act.mem_line_iff invariant.once lined other

theorem joinWorker (ending : WorkerEnd) : BatchInvariant source (schedule.joinWorker 0 ending) := by
  rcases schedule.joinWorker_cases ending with same |
    ⟨task, count, total, activity, results, here, waits, next, same⟩
  · rw [same]
    exact invariant
  · rw [same]
    have idle : task.activity.isWaiting = false := by
      rw [waits]
      rfl
    rcases next with rfl | ⟨fewer, counted, rfl⟩
    · exact invariant.of_idle here idle rfl (.done 0) results
    · exact invariant.of_idle here idle rfl (.supervising fewer counted) results

theorem step (turn : Turn source schedule number next) : BatchInvariant source next := by
  cases turn with
  | spawnWorkers here => exact invariant.spawnWorkers here
  | @act _ tag signal worker later changed here isLater sameTask act =>
      have stands : worker.occupation.Stands source number := by
        cases invariant.fits number _ here with
        | working _ _ stands => exact stands
      exact invariant.act here act (.working isLater sameTask (act.stands stands)) rfl
  | leave here isLater act =>
      exact (invariant.act here act (.done _) rfl).joinWorker _

end BatchInvariant

end Schedule

end PolicyWatch.Reprocess

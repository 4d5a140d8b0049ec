import PolicyWatch.Reprocess.Worker

/-!
# The schedule

Tasks share one pipeline and take turns.  `step?` moves one task by one step, so
every way in which tasks may be interleaved is a sequence of such steps; `run`
takes the way in which woken tasks go first come, first served, each until it
waits, and time stands still meanwhile.
-/

namespace PolicyWatch.Reprocess

/-- Take steps until there is none to take, at most a number of times. -/
def settle {σ : Type} (step? : σ → Option σ) : Nat → σ → σ
  | 0, state => state
  | fuel + 1, state =>
      match step? state with
      | none => state
      | some next => settle step? fuel next

/-- A signal that tasks watch for cancellation.  One that was dropped stays as it
is. -/
structure Signal where
  name : String
  isCancelled : Bool
  isDropped : Bool
  deriving DecidableEq, Repr

inductive Activity where
  | acquiring (admission : Admission)
  | reprocessing (request : Request)
  /-- It opens a pool of workers. -/
  | opening (workers : Nat)
  /-- It waits for so many workers and adds up their counts. -/
  | supervising (workers : Nat) (total : PoolSummary)
  /-- It is a worker in the pool that another task opened. -/
  | working (pool : Nat) (worker : Worker)
  | popping (popper : Popper)
  | done
  deriving DecidableEq

def Activity.alarm? : Activity → Option Alarm
  | acquiring admission => admission.alarm?
  | reprocessing request => request.alarm?
  | working _ worker => worker.alarm?
  | _ => none

/-- A task: under which tag it reports, which signal it watches, what it does. -/
structure Task where
  tag : String
  signal : String
  activity : Activity
  deriving DecidableEq

/-- How a task ends. -/
inductive TaskResult where
  | acquired (verdict : Verdict)
  | reprocessed (ending : RequestEnd)
  | supervised (summary : PoolSummary)
  | popped (id : Option String)
  deriving DecidableEq, Repr

/-- The tasks, each known by its place, the signals, the tags under which slots
are held, and the results of tasks that are done, newest first. -/
structure Schedule where
  pipeline : Pipeline
  tasks : List Task
  signals : List Signal
  held : List String
  results : List (String × TaskResult)

/-- The number of workers of a pool.  No workers would do nothing, so there is at
least one. -/
def workersFor (workers : Nat) : Nat :=
  if workers = 0 then 1 else workers

namespace Schedule

def new (pipeline : Pipeline) : Schedule := ⟨pipeline, [], [], [], []⟩

/-! ## Signals -/

def signal (schedule : Schedule) (name : String) : Signal :=
  (schedule.signals.find? (·.name == name)).getD ⟨name, false, false⟩

def isCancelled (schedule : Schedule) (name : String) : Bool :=
  (schedule.signal name).isCancelled

def watches (task : Task) (name : String) : Bool :=
  task.signal == name && decide (task.activity ≠ .done)

def watchers (schedule : Schedule) (name : String) : List Nat :=
  (List.range schedule.tasks.length).filter fun number =>
    schedule.tasks[number]?.any (watches · name)

/-- Replace a signal, unless it was dropped, and wake the tasks that watch it. -/
def setSignal (schedule : Schedule) (changed : Signal) : Schedule :=
  if (schedule.signal changed.name).isDropped then schedule
  else { schedule with
    signals := changed :: schedule.signals.filter (·.name != changed.name)
    pipeline := schedule.pipeline.wakeAll (schedule.watchers changed.name) }

def send (schedule : Schedule) (name : String) (isCancelled : Bool) : Schedule :=
  schedule.setSignal ⟨name, isCancelled, false⟩

def drop (schedule : Schedule) (name : String) : Schedule :=
  schedule.setSignal ⟨name, schedule.isCancelled name, true⟩

/-! ## Tasks -/

def start (schedule : Schedule) (tag signal : String) (activity : Activity) : Schedule :=
  { schedule with
    tasks := schedule.tasks ++ [⟨tag, signal, activity⟩]
    pipeline := schedule.pipeline.wake schedule.tasks.length }

/-- Start a task that reprocesses a deployment. -/
def startRequest (schedule : Schedule) (tag signal id : String) : Schedule :=
  schedule.start tag signal (.reprocessing (.new schedule.tasks.length id))

/-- Let a task do something else. -/
def turnTo (schedule : Schedule) (number : Nat) (task : Task) (activity : Activity) : Schedule :=
  { schedule with tasks := schedule.tasks.set number { task with activity } }

def finish (schedule : Schedule) (number : Nat) (task : Task) (result : TaskResult) : Schedule :=
  { schedule.turnTo number task .done with results := (task.tag, result) :: schedule.results }

/-- Hold a slot under a tag.  A slot that was held there is given back. -/
def hold (schedule : Schedule) (tag : String) : Schedule :=
  if schedule.held.contains tag then { schedule with pipeline := schedule.pipeline.release }
  else { schedule with held := tag :: schedule.held }

/-- Give back the slot that is held under a tag, if there is one. -/
def release (schedule : Schedule) (tag : String) : Bool × Schedule :=
  if schedule.held.contains tag then
    (true, { schedule with
      held := schedule.held.erase tag
      pipeline := schedule.pipeline.release })
  else (false, schedule)

def endAcquiring (schedule : Schedule) (number : Nat) (task : Task) (verdict : Verdict) :
    Schedule :=
  let after := match verdict with
    | .admitted => schedule.hold task.tag
    | .refused _ => schedule
  after.finish number task (.acquired verdict)

def spawnWorkers (schedule : Schedule) (number : Nat) (task : Task) (workers : Nat) : Schedule :=
  let count := workersFor workers
  let places := List.range' schedule.tasks.length count
  let opened := schedule.turnTo number task (.supervising count .empty)
  { opened with
    tasks := opened.tasks ++ places.map fun place =>
      ⟨task.tag, task.signal, .working number (.new place)⟩
    pipeline := opened.pipeline.wakeAll places }

def joinWorker (schedule : Schedule) (pool : Nat) (ending : WorkerEnd) : Schedule :=
  match schedule.tasks[pool]? with
  | some ⟨tag, signal, .supervising workers total⟩ =>
      let counted := (ending.map total.merge).getD total
      if workers ≤ 1 then schedule.finish pool ⟨tag, signal, .done⟩ (.supervised counted)
      else schedule.turnTo pool ⟨tag, signal, .done⟩ (.supervising (workers - 1) counted)
  | _ => schedule

/-- The next step of a task, unless it waits on. -/
def step? (number : Nat) (schedule : Schedule) : Option Schedule :=
  match schedule.tasks[number]? with
  | none => none
  | some task =>
      let isCancelled := schedule.isCancelled task.signal
      match task.activity with
      | .acquiring admission =>
          match admission.step? number isCancelled schedule.pipeline with
          | none => none
          | some (.going next, pipeline) =>
              some ({ schedule with pipeline }.turnTo number task (.acquiring next))
          | some (.over verdict, pipeline) =>
              some ({ schedule with pipeline }.endAcquiring number task verdict)
      | .reprocessing request =>
          match request.step? isCancelled schedule.pipeline with
          | none => none
          | some (.going next, pipeline) =>
              some ({ schedule with pipeline }.turnTo number task (.reprocessing next))
          | some (.over ending, pipeline) =>
              some ({ schedule with pipeline }.finish number task (.reprocessed ending))
      | .opening workers => some (schedule.spawnWorkers number task workers)
      | .supervising _ _ => none
      | .working pool worker =>
          match worker.step? isCancelled schedule.pipeline with
          | none => none
          | some (.going next, pipeline) =>
              some ({ schedule with pipeline }.turnTo number task (.working pool next))
          | some (.over ending, pipeline) =>
              some (({ schedule with pipeline }.turnTo number task .done).joinWorker pool ending)
      | .popping popper =>
          match popper.step? number schedule.pipeline.inbox with
          | none => none
          | some (.going next, inbox) =>
              let pipeline := { schedule.pipeline with inbox }
              some ({ schedule with pipeline }.turnTo number task (.popping next))
          | some (.over id, inbox) =>
              let pipeline := { schedule.pipeline with inbox }
              some ({ schedule with pipeline }.finish number task (.popped id))
      | .done => none

/-! ## Running -/

/-- A turn of the task that has been awake longest: a step or, if it waits, the end of its being
ready. -/
def turn? (schedule : Schedule) : Option Schedule :=
  match schedule.pipeline.ready with
  | [] => none
  | first :: rest =>
      match schedule.step? first with
      | some moved => some moved
      | none => some { schedule with pipeline := { schedule.pipeline with ready := rest } }

/-- The workers that a task is yet to start. -/
def promised (task : Task) : Nat :=
  match task.activity with
  | .opening workers => workersFor workers
  | _ => 0

/-- The workers that all tasks are yet to start. -/
def promisedByAll (schedule : Schedule) : Nat :=
  schedule.tasks.foldl (fun total task => total + promised task) 0

/-- More turns than can be taken before all tasks wait.  A task, a worker yet to
be started and an ID in the queue each give rise to fewer than thirty-two. -/
def turns (schedule : Schedule) : Nat :=
  32 * (schedule.tasks.length + schedule.promisedByAll + schedule.pipeline.inbox.queue.size + 1)

/-- Run all tasks until they wait. -/
def run (schedule : Schedule) : Schedule :=
  settle turn? schedule.turns schedule

/-! ## Time -/

/-- The alarms that are set, with the tasks they will wake. -/
def alarms (schedule : Schedule) : List (Alarm × Nat) :=
  (List.range schedule.tasks.length).filterMap fun number =>
    (schedule.tasks[number]?.bind (·.activity.alarm?)).map fun alarm => (alarm, number)

/-- The moment at which the next alarm goes off. -/
def nextDue? (schedule : Schedule) : Option Nat :=
  (schedule.alarms.map fun entry => entry.1.due).min?

/-- The tasks that alarms wake by now, in the order of the alarms. -/
def due (schedule : Schedule) : List Nat :=
  ((schedule.alarms.filter fun entry => schedule.pipeline.hasElapsed entry.1).mergeSort
    fun left right => decide (left.1.number ≤ right.1.number)).map Prod.snd

def setClock (schedule : Schedule) (clock : Nat) : Schedule :=
  { schedule with pipeline := { schedule.pipeline with clock } }

/-- Go on to the moment of an alarm and run the tasks that it wakes. -/
def stopAt (schedule : Schedule) (moment : Nat) : Schedule :=
  let later := schedule.setClock moment
  run { later with pipeline := later.pipeline.wakeAll later.due }

/-- Let time go by until a moment, with a number of stops at most. -/
def advanceTo (moment : Nat) : Nat → Schedule → Schedule
  | 0, schedule => schedule.setClock moment
  | stops + 1, schedule =>
      match schedule.nextDue? with
      | none => schedule.setClock moment
      | some due =>
          if due ≤ moment then advanceTo moment stops (schedule.stopAt due)
          else schedule.setClock moment

/-- Let milliseconds go by.  Every stop is at a later one. -/
def advance (schedule : Schedule) (milliseconds : Nat) : Schedule :=
  advanceTo (schedule.pipeline.clock + milliseconds) (milliseconds + 1) schedule

end Schedule

end PolicyWatch.Reprocess

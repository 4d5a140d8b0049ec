import PolicyWatch.Proofs.Queue.QueueSystem
import PolicyWatch.Proofs.Request.Turn
import PolicyWatch.Reprocess.Worker

/-!
# A turn of a worker

What one step of a worker does to the queue, to its request and to its counts.  Main
statement: the forms that a step can take.
-/

namespace PolicyWatch.Reprocess

/-! ## Taking from the queue -/

/-- A popper that goes away takes nothing. -/
theorem Popper.queue_leave (popper : Popper) (name : Nat) (inbox : Inbox) :
    (popper.leave name inbox).2.queue = inbox.queue := by
  cases popper <;> rfl

/-! ## What turns cost -/

/-- What a turn may do to a pipeline: take an ID from the queue, and take slots from the gate
or put them back among those that nobody holds. -/
structure Pipeline.Spends (before : Pipeline) (slots : Nat) (after : Pipeline) (left : Nat)
    (took? : Option String) : Prop where
  collaborators : after.collaborators = before.collaborators
  capacity : after.gate.capacity = before.gate.capacity
  spare : after.gate.tally.spare + left = before.gate.tally.spare + slots
  order : before.inbox.queue.order = took?.toList ++ after.inbox.queue.order
  isClosed : after.inbox.queue.isClosed = before.inbox.queue.isClosed

namespace Pipeline.Spends

variable {before after : Pipeline} {isCancelled : Bool}

/-- A step of a request takes nothing from the queue and conserves slots. -/
theorem of_request {request : Request} {progress : Progress Request RequestEnd}
    (moved : request.step? isCancelled before = some (progress, after)) :
    before.Spends request.slots after (Request.slotsAfter progress) none := by
  obtain ⟨made, transition⟩ := Request.Transition.of_step? moved
  obtain ⟨capacity, spare⟩ := transition.slots_kept
  have frame := transition.frame
  refine ⟨?_, capacity, spare, ?_, ?_⟩
  · rw [frame]
  · rw [frame]
    rfl
  · rw [frame]

/-- A step of a task that wants a slot takes one just if it is admitted. -/
theorem of_admission {admission : Admission} {request : Nat} {progress : Progress Admission Verdict}
    (moved : admission.step? request isCancelled before = some (progress, after)) :
    before.Spends 0 after (if progress = .over .admitted then 1 else 0) none := by
  have frame := Admission.step?_frame moved
  have slots : after.gate.capacity = before.gate.capacity ∧
      after.gate.tally.spare + (if progress = .over .admitted then 1 else 0) =
        before.gate.tally.spare + 0 := by
    obtain waiting | _ | error := progress
    · exact Admission.spare_of_step?_going moved
    · exact Admission.spare_of_step?_admitted moved
    · exact Admission.spare_of_step?_refused moved
  refine ⟨?_, slots.1, slots.2, ?_, ?_⟩
  · rw [frame]
  · rw [frame]
    rfl
  · rw [frame]

/-- A step that changes nothing but the inbox takes what is missing from the queue. -/
theorem of_inbox {took? : Option String}
    (frame : after = { before with inbox := after.inbox, ready := after.ready })
    (order : before.inbox.queue.order = took?.toList ++ after.inbox.queue.order)
    (isClosed : after.inbox.queue.isClosed = before.inbox.queue.isClosed) (slots : Nat) :
    before.Spends slots after slots took? := by
  refine ⟨?_, ?_, ?_, order, isClosed⟩
  · rw [frame]
  · rw [frame]
  · rw [frame]

/-- A step that leaves the queue as it was takes nothing. -/
theorem of_sameQueue (frame : after = { before with inbox := after.inbox, ready := after.ready })
    (sameQueue : after.inbox.queue = before.inbox.queue) (slots : Nat) :
    before.Spends slots after slots none := by
  refine .of_inbox frame ?_ (congrArg Queue.isClosed sameQueue) slots
  exact congrArg Queue.order sameQueue.symm

/-- Waking tasks costs nothing. -/
theorem of_ready (frame : after = { before with ready := after.ready }) (slots : Nat) :
    before.Spends slots after slots none := by
  have sameInbox : after.inbox = before.inbox := by rw [frame]
  refine .of_sameQueue ?_ (congrArg Inbox.queue sameInbox) slots
  rw [sameInbox]
  exact frame

theorem add {slots left : Nat} {took? : Option String}
    (spends : before.Spends slots after left took?) (held : Nat) :
    before.Spends (slots + held) after (left + held) took? := by
  refine ⟨spends.collaborators, spends.capacity, ?_, spends.order, spends.isClosed⟩
  have spare := spends.spare
  omega

/-- A slot that is given back is held by nobody. -/
theorem release {slots left : Nat} {took? : Option String}
    (spends : before.Spends slots after (left + 1) took?) :
    before.Spends slots after.release left took? := by
  obtain ⟨capacity, spare⟩ := after.spare_release
  have frame := after.release_eq
  have before := spends.spare
  refine ⟨?_, capacity.trans spends.capacity, by omega, ?_, ?_⟩
  · rw [frame]
    exact spends.collaborators
  · rw [frame]
    exact spends.order
  · rw [frame]
    exact spends.isClosed

end Pipeline.Spends

/-! ## The forms of a step -/

namespace Worker

variable {worker : Worker} {isCancelled : Bool} {before after : Pipeline}
  {progress : Progress Worker WorkerEnd}

def slots (worker : Worker) : Nat :=
  match worker.occupation with
  | .seeking _ => 0
  | .running request => request.slots

theorem idle_of_seeking {popper : Popper} (occupation : worker.occupation = .seeking popper) :
    worker.slots = 0 ∧ worker.current? = none := by
  unfold slots current?
  rw [occupation]
  exact ⟨rfl, rfl⟩

theorem busy_of_running {request : Request} (occupation : worker.occupation = .running request) :
    worker.slots = request.slots ∧ worker.current? = some request.id := by
  unfold slots current?
  rw [occupation]
  exact ⟨rfl, rfl⟩

def slotsAfter : Progress Worker WorkerEnd → Nat
  | .going worker => worker.slots
  | .over _ => 0

/-- The ID that a worker takes by its next step. -/
def takes? (worker : Worker) (isCancelled : Bool) (pipeline : Pipeline) : Option String :=
  match worker.occupation with
  | .running _ => none
  | .seeking popper =>
      if isCancelled then none
      else
        match popper.step? worker.task pipeline.inbox with
        | some (.over id?, _) => id?
        | _ => none

/-- The ID that a worker counts by its next step, with the result. -/
def counts? (worker : Worker) (isCancelled : Bool) (pipeline : Pipeline) :
    Option (String × Result) :=
  match worker.occupation with
  | .seeking _ => none
  | .running request =>
      match request.step? isCancelled pipeline with
      | some (.over (.finished result), _) => some (request.id, result)
      | _ => none

/-- The ID over which a worker crashes by its next step, because its request does. -/
def crashes? (worker : Worker) (isCancelled : Bool) (pipeline : Pipeline) : Option String :=
  match worker.occupation with
  | .seeking _ => none
  | .running request =>
      match request.step? isCancelled pipeline with
      | some (.over .crashed, _) => some request.id
      | _ => none

/-- What one step of a worker is, with the ID that it takes and the one that it counts. -/
inductive Transition (worker : Worker) (isCancelled : Bool) (before : Pipeline) :
    Progress Worker WorkerEnd → Option String → Option (String × Result) → Pipeline → Prop where
  | seek {popper next : Popper} {inbox : Inbox} (occupation : worker.occupation = .seeking popper)
      (sameQueue : inbox.queue = before.inbox.queue) :
      Transition worker isCancelled before (.going { worker with occupation := .seeking next })
        none none { before with inbox }
  | take {popper : Popper} {id : String} {inbox : Inbox}
      (occupation : worker.occupation = .seeking popper)
      (first : before.inbox.queue.order = id :: inbox.queue.order)
      (isClosed : inbox.queue.isClosed = before.inbox.queue.isClosed) :
      Transition worker isCancelled before
        (.going { worker with occupation := .running (.new worker.task id) })
        (some id) none { before with inbox }
  | joinWorker {popper : Popper} {after : Pipeline}
      (occupation : worker.occupation = .seeking popper)
      (sameQueue : after.inbox.queue = before.inbox.queue)
      (frame : after = { before with inbox := after.inbox, ready := after.ready })
      (reason : isCancelled = true ∨
        before.inbox.queue.isClosed = true ∧ before.inbox.queue.order = []) :
      Transition worker isCancelled before (.over (some worker.summary)) none none after
  | run {request next : Request} {after : Pipeline}
      (occupation : worker.occupation = .running request)
      (moved : request.step? isCancelled before = some (.going next, after)) :
      Transition worker isCancelled before (.going { worker with occupation := .running next })
        none none after
  | record {request : Request} {result : Result} {after : Pipeline}
      (occupation : worker.occupation = .running request)
      (moved : request.step? isCancelled before = some (.over (.finished result), after)) :
      Transition worker isCancelled before
        (.going ⟨worker.task, .seeking .starting, worker.summary.record result⟩)
        none (some (request.id, result)) after
  | crash {request : Request} {after : Pipeline} (occupation : worker.occupation = .running request)
      (moved : request.step? isCancelled before = some (.over .crashed, after)) :
      Transition worker isCancelled before (.over none) none none after

theorem Transition.of_step? (moved : worker.step? isCancelled before = some (progress, after)) :
    Transition worker isCancelled before progress (worker.takes? isCancelled before)
      (worker.counts? isCancelled before) after := by
  unfold step? at moved
  unfold takes? counts?
  cases occupation : worker.occupation with
  | seeking popper =>
      simp only [occupation] at moved ⊢
      split at moved
      · rename_i cancelled
        cases moved
        rw [if_pos cancelled]
        refine .joinWorker occupation ?_ ?_ (.inl cancelled)
        · rw [Pipeline.wakeNext_eq]
          exact popper.queue_leave worker.task before.inbox
        · rw [Pipeline.wakeNext_eq]
      · rename_i uncancelled
        rw [if_neg uncancelled]
        cases popped : popper.step? worker.task before.inbox with
        | none =>
            rw [popped] at moved
            cases moved
        | some outcome =>
            obtain ⟨stand, inbox⟩ := outcome
            obtain ⟨next, rfl, sameQueue⟩ | ⟨rfl, after, closed⟩ := Popper.queue_of_step? popped
            · rw [popped] at moved
              cases moved
              exact .seek occupation sameQueue
            · rw [popped] at moved
              cases waits : before.inbox.queue.order with
              | nil =>
                  rw [Queue.pop_of_nil waits] at moved after closed ⊢
                  cases moved
                  exact .joinWorker occupation after rfl (.inr ⟨closed rfl, waits⟩)
              | cons id rest =>
                  rw [Queue.pop_of_cons waits] at moved after ⊢
                  cases moved
                  refine .take occupation ?_ ?_
                  · rw [after, waits]
                  · rw [after]
  | running request =>
      simp only [occupation] at moved ⊢
      split at moved
      · cases moved
      · rename_i stepped
        cases moved
        rw [stepped]
        exact .run occupation stepped
      · rename_i stepped
        cases moved
        rw [stepped]
        exact .record occupation stepped
      · rename_i stepped
        cases moved
        rw [stepped]
        exact .crash occupation stepped

theorem Transition.spends {took? : Option String} {counted? : Option (String × Result)}
    (transition : Transition worker isCancelled before progress took? counted? after) :
    before.Spends worker.slots after (slotsAfter progress) took? := by
  cases transition with
  | seek occupation sameQueue =>
      rw [(idle_of_seeking occupation).1]
      exact .of_sameQueue rfl sameQueue 0
  | take occupation first isClosed =>
      rw [(idle_of_seeking occupation).1]
      exact .of_inbox rfl first isClosed 0
  | joinWorker occupation sameQueue frame reason =>
      rw [(idle_of_seeking occupation).1]
      exact .of_sameQueue frame sameQueue 0
  | run occupation moved =>
      rw [(busy_of_running occupation).1]
      exact .of_request moved
  | record occupation moved =>
      rw [(busy_of_running occupation).1]
      exact .of_request moved
  | crash occupation moved =>
      rw [(busy_of_running occupation).1]
      exact .of_request moved

section Going

variable {later : Worker} {took? : Option String} {counted? : Option (String × Result)}

theorem Transition.current_going
    (transition : Transition worker isCancelled before (.going later) took? counted? after) :
    worker.current?.toList ++ took?.toList =
      counted?.toList.map Prod.fst ++ later.current?.toList := by
  cases transition with
  | seek occupation sameQueue =>
      rw [(idle_of_seeking occupation).2]
      rfl
  | take occupation first isClosed =>
      rw [(idle_of_seeking occupation).2]
      rfl
  | run occupation moved =>
      obtain ⟨_, transition⟩ := Request.Transition.of_step? moved
      rw [(busy_of_running occupation).2, ← transition.id_eq]
      rfl
  | record occupation moved =>
      rw [(busy_of_running occupation).2]
      rfl

theorem Transition.summary_going
    (transition : Transition worker isCancelled before (.going later) took? counted? after) :
    later.summary = (counted?.toList.map Prod.snd).foldl PoolSummary.record worker.summary := by
  cases transition <;> rfl

/-- A worker that leaves with its summary has nothing and takes nothing, and leaves because it
is cancelled or the queue is closed and drained. -/
theorem Transition.of_joined {summary : PoolSummary}
    (transition : Transition worker isCancelled before
      (.over (some summary)) took? counted? after) :
    summary = worker.summary ∧ worker.current? = none ∧ took? = none ∧ counted? = none ∧
      (isCancelled = true ∨
        before.inbox.queue.isClosed = true ∧ before.inbox.queue.order = []) := by
  cases transition with
  | joinWorker occupation sameQueue frame reason =>
      exact ⟨rfl, (idle_of_seeking occupation).2, rfl, rfl, reason⟩

theorem Transition.of_crashed
    (transition : Transition worker isCancelled before (.over none) took? counted? after) :
    ∃ id, worker.current? = some id ∧ worker.crashes? isCancelled before = some id ∧
      took? = none ∧ counted? = none := by
  cases transition with
  | crash occupation moved =>
      refine ⟨_, (busy_of_running occupation).2, ?_, rfl, rfl⟩
      unfold crashes?
      simp only [occupation, moved]

/-- A worker that goes on, or leaves with its summary, does not crash. -/
theorem Transition.crashes?_of_stays
    (transition : Transition worker isCancelled before progress took? counted? after)
    (stays : progress ≠ .over none) : worker.crashes? isCancelled before = none := by
  unfold crashes?
  cases transition with
  | seek occupation sameQueue => simp only [occupation]
  | take occupation first isClosed => simp only [occupation]
  | joinWorker occupation sameQueue frame reason => simp only [occupation]
  | run occupation moved => simp only [occupation, moved]
  | record occupation moved => simp only [occupation, moved]
  | crash occupation moved => exact absurd rfl stays

end Going

end Worker

/-! ## Collaborators that do not crash -/

/-- Whether the collaborators always answer, if only with a failure. -/
structure Collaborators.Return (collaborators : Collaborators) : Prop where
  fetch : ∀ calls id, (collaborators.fetch calls id).ending ≠ .crashing
  risk : ∀ calls id, (collaborators.risk calls id).ending ≠ .crashing

theorem Collaborators.prompt_return : Collaborators.prompt.Return :=
  ⟨fun _ _ => Ending.noConfusion, fun _ _ => Ending.noConfusion⟩

theorem Request.not_crashed {request : Request} {isCancelled : Bool} {before after : Pipeline}
    (returning : before.collaborators.Return) :
    request.step? isCancelled before ≠ some (.over .crashed, after) := by
  intro moved
  obtain ⟨_, transition⟩ := Request.Transition.of_step? moved
  rcases transition.ends with ⟨_, unanswered, _⟩ | ⟨deployment, _, _, unanswered, _⟩
  · unfold Pipeline.fetchAnswer? at unanswered
    split at unanswered
    · rename_i crashes
      exact returning.fetch _ _ crashes
    · cases unanswered
    · cases unanswered
  · unfold Pipeline.riskAnswer? at unanswered
    split at unanswered
    · rename_i crashes
      exact returning.risk _ _ crashes
    · cases unanswered
    · cases unanswered

theorem Worker.crashes?_of_returning {before : Pipeline} (returning : before.collaborators.Return)
    (worker : Worker) (isCancelled : Bool) : worker.crashes? isCancelled before = none := by
  unfold crashes?
  cases worker.occupation with
  | seeking popper => rfl
  | running request =>
      dsimp only
      split
      · rename_i crashed
        exact absurd crashed (Request.not_crashed returning)
      · rfl

end PolicyWatch.Reprocess
